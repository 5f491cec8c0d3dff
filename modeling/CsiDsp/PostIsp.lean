import CsiDsp.IspCommon

set_option autoImplicit false

namespace CsiDsp

open CInt

def maxPostIsp : Nat := 1

def postIspInitialize (id : Nat) (handler : SispHandler) : SispHandler × EhwErrorCode :=
  if id > maxPostIsp then (handler, .parmaInvalid) else (zeroHandler id, .ok)

def postIspHandlerConfig (handler : SispHandler) (config : SispConfigPar) : Option (SispHandler × EhwErrorCode) := do
  let (base, ret) ← ispcBaseInfoUpdate handler.base config
  if ret ≠ .ok then some ({ handler with base := base, status := ret }, ret)
  else
    let used := u16 ((base.lineNumPerFrame : Int) - base.lineNumInLastEntry + base.lineNumPerEntry)
    some (ispcStart handler { base with lineNumUsedPerFrame := used }, .ok)

def postIspGetStatus (handler : SispHandler) : Int := handler.status.code

-- The result none is the trap of a division by zero.
def postIspGetNextEntry (handler : SispHandler) (entry : SispBuffer) : Option (SispHandler × SispBuffer × EhwErrorCode) := do
  let info := handler.info.get handler.producePingPongFlag
  let fifo := handler.fifo.get handler.producePingPongFlag
  let index ← getTailFifo fifo
  if index < 0 then some ({ handler with status := .parmaInvalid }, { entry with lineNum := 0, size := 0 }, .parmaInvalid)
  else if info.lineNumPerEntry = 0 then none
  else if Int.tmod index info.lineNumPerEntry ≠ 0 then
    some ({ handler with status := .parmaInvalid }, { entry with lineNum := 0, size := 0 }, .parmaInvalid)
  else
    let lineNum := if isLastEntryToPushFifo fifo info.lineNumInLastEntry then info.lineNumInLastEntry else info.lineNumPerEntry
    some (handler, {
      startAddr := u64 (info.frameBufferAddr + i32 (index * info.sizePerLine))
      lineNum := lineNum
      size := u32 (lineNum * info.sizePerLine : Nat)
      lineSize := info.sizePerLine
      fmt := info.format }, .ok)

def postIspPopSize (handler : SispHandler) : Nat :=
  let info := handler.info.get handler.customerPingPongFlag
  let fifo := handler.fifo.get handler.customerPingPongFlag
  if isLastEntryToPopFifo fifo info.lineNumInLastEntry then info.lineNumInLastEntry else info.lineNumPerEntry

def postIspPopEntry (handler : SispHandler) : SispHandler × Bool := ispcPopNewLine handler (postIspPopSize handler)

-- The result true is the source's return value 0: the entry was pushed and
-- the post ISP triggered.
def postIspPushEntry (handler : SispHandler) (lineNum : Nat) : Option (SispHandler × Bool) := do
  let (handler, ret) ← ispcPushNewLine handler lineNum
  if ret then some ({ handler with currentNValue := u16 (ispcGetPushedLineNum handler) }, true)
  else some (handler, false)

def postIspFifoReset (handler : SispHandler) : Option SispHandler :=
  (ispcFifoReset handler).map fun handler => { handler with currentNValue := 0 }

def postIspRecoveryStateUpdate (handler : SispHandler) : Option SispHandler :=
  match handler.status with
  | .recoverying => (postIspFifoReset handler).map fun handler => { handler with status := .recoveryDone }
  | .overFlow => some handler
  | .recoveryDone => some { handler with status := .ok }
  | _ => some { handler with
      currentNValue := u16 (handler.currentNValue + handler.base.lineNumPerEntry : Nat)
      status := .recoverying }

-- The two status bits post_isp_interrupt_handler acts on: an entry has been
-- read, and the frame has ended.
structure PostIspInterrupt where
  entryDone : Bool
  frameEnd : Bool
deriving DecidableEq, Repr

def postIspServeEntry (handler : SispHandler) : SispHandler :=
  if postIspGetStatus handler = EhwErrorCode.ok.code then (postIspPopEntry handler).1
  else if postIspGetStatus handler = EhwErrorCode.recoverying.code ∧
      handler.currentNValue < handler.base.lineNumPerFrame then
    { handler with currentNValue := u16 (handler.currentNValue + handler.base.lineNumPerEntry : Nat) }
  else handler

def postIspServeFrameEnd (handler : SispHandler) : Option SispHandler :=
  if postIspGetStatus handler = EhwErrorCode.recoverying.code then postIspRecoveryStateUpdate handler else some handler

def postIspInterruptHandler (handler : SispHandler) (registers : PostIspInterrupt) : Option SispHandler :=
  let handler := if registers.entryDone then postIspServeEntry handler else handler
  if registers.frameEnd then postIspServeFrameEnd handler else some handler

end CsiDsp
