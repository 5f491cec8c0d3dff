import CsiDsp.IspCommon

set_option autoImplicit false

namespace CsiDsp

open CInt

def maxIsp : Nat := 2

-- isp_register_interrupt installs the interrupt handler; the vector table is
-- not part of the driver's own state.
def ispInitialize (id : Nat) (handler : SispHandler) : SispHandler × Bool :=
  if id > maxIsp then (handler, false) else (zeroHandler id, true)

def ispHandlerConfig (handler : SispHandler) (config : SispConfigPar) : Option (SispHandler × EhwErrorCode) := do
  let (base, ret) ← ispcBaseInfoUpdate handler.base config
  if ret ≠ .ok then some ({ handler with base := base, status := ret }, ret)
  else some (ispcStart handler { base with lineNumUsedPerFrame := base.lineNumPerFrame }, .ok)

-- Eight lines a frame in entries of four.
def smallIspConfig (bufferSize : UInt32) : SispConfigPar := ⟨0, 640, 8, 0, 4, 64, bufferSize, 0x1000⟩

def ispGetStatus (handler : SispHandler) : Int := handler.status.code

def ispFifoReset (handler : SispHandler) : Option SispHandler := ispcFifoReset handler

def ispRecoveryStateUpdate (handler : SispHandler) : Option SispHandler :=
  match handler.status with
  | .recoverying => (ispFifoReset handler).map fun handler => { handler with status := .recoveryDone }
  | .recoveryDone => some { handler with status := .ok }
  | _ => some { handler with status := .recoverying }

def ispGetNextEntry (handler : SispHandler) (list : SispBuffer × SispBuffer) :
    Option (SispHandler × (SispBuffer × SispBuffer) × Bool) :=
  let info := handler.info.get handler.customerPingPongFlag
  let fifo := handler.fifo.get handler.customerPingPongFlag
  if handler.status ≠ .ok then some (handler, list, false)
  else if isEmptyFifo fifo then some (handler, list, false)
  else
    let take (line : Nat) := do
      let (list, found) ← ispcGetEntryToPop handler line list
      -- As in pop_fifo's caller, an Eisp_bool is tested for being negative.
      if found.toInt < 0 then some ({ handler with status := .popFail }, list, false)
      else some (handler, list, true)
    if isEnoughElementToPopFifo fifo info.lineNumPerEntry then take info.lineNumPerEntry
    else if isEnoughElementToPopFifo fifo info.lineNumInLastEntry then take info.lineNumInLastEntry
    else some ({ handler with status := .popFail }, list, false)

def ispPopNLine (handler : SispHandler) (lineNum : Nat) : SispHandler × Bool := ispcPopNewLine handler lineNum

def ispGetPopedLineNum (handler : SispHandler) : Int := ispcGetPopedLineNum handler

def ispGetFrameHeight (handler : SispHandler) : Nat := (handler.info.get handler.customerPingPongFlag).lineNumPerFrame

-- The registers isp_interrupt_handler reads that decide what it does: the
-- N-line bit of MI3, the line counter and the frame-done bit of MI2.
structure IspInterrupt where
  nLines : Bool
  lineEntry : UInt16
  frameDone : Bool
deriving DecidableEq, Repr

def ispServeNLines (handler : SispHandler) (lineEntry : Nat) : Option SispHandler := do
  let (handler, _) ← ispcPushNewLine handler (u16 ((lineEntry : Int) - ispcGetPushedLineNum handler))
  some { handler with currentNValue := lineEntry }

def ispServeFrameDone (handler : SispHandler) : Option SispHandler :=
  if ispGetStatus handler = EhwErrorCode.recoveryDone.code then ispRecoveryStateUpdate handler
  else if ispGetStatus handler = EhwErrorCode.recoverying.code then ispFifoReset handler
  else some handler

def ispInterruptHandler (handler : SispHandler) (registers : IspInterrupt) : Option SispHandler := do
  let handler ← if registers.nLines then ispServeNLines handler registers.lineEntry.toNat else some handler
  if registers.frameDone then ispServeFrameDone handler else some handler

end CsiDsp
