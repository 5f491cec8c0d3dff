import CsiDsp.Base.PingPong
import CsiDsp.Fifo

set_option autoImplicit false

namespace CsiDsp

open CInt

inductive EhwErrorCode where
  | parmaInvalid
  | overFlow
  | popFail
  | frameSwitchFail
  | ok
  | inputEmpry
  | recoverying
  | recoveryDone
deriving DecidableEq, Repr

def EhwErrorCode.code : EhwErrorCode → Int
  | .parmaInvalid => -40
  | .overFlow => -39
  | .popFail => -38
  | .frameSwitchFail => -37
  | .ok => 0
  | .inputEmpry => 1
  | .recoverying => 2
  | .recoveryDone => 3

def maxHorizontal : Nat := 4096
def maxVertical : Nat := 3192
def linesMask : Nat := 0x1FFF

structure SispControlInfo where
  lineNumPerEntry : Nat
  lineNumPerFrame : Nat
  lineNumInLastEntry : Nat
  sizePerLine : Nat
  lineNumPerBuffer : Nat
  lineNumUsedPerFrame : Nat
  format : Nat
  frameBufferAddr : Nat
deriving DecidableEq, Repr

structure SispHandler where
  customerPingPongFlag : Bool
  producePingPongFlag : Bool
  status : EhwErrorCode
  id : Nat
  interactCounter : Nat
  currentNValue : Nat
  info : PingPong SispControlInfo
  fifo : PingPong Sfifo
  base : SispControlInfo
deriving DecidableEq, Repr

structure SispBuffer where
  fmt : Nat
  lineNum : Nat
  size : Nat
  lineSize : Nat
  startAddr : Nat
deriving DecidableEq, Repr

-- The state memset leaves: EFIFO_STATUS_EMPTY and EHW_OK are the zero values.
def zeroControlInfo : SispControlInfo := ⟨0, 0, 0, 0, 0, 0, 0, 0⟩

def zeroHandler (id : Nat) : SispHandler :=
  ⟨false, false, .ok, id, 0, 0, .const zeroControlInfo, .const (resetFifo 0 0 0), zeroControlInfo⟩

-- The arguments of isp_handler_config and post_isp_handler_config, as the
-- message structure sisp_config_par carries them.
structure SispConfigPar where
  id : UInt16
  hor : UInt16
  ver : UInt16
  dataFmt : UInt16
  lineInEntry : UInt16
  lineStride : UInt16
  bufferSize : UInt32
  bufferAddr : UInt64
deriving DecidableEq, Repr

-- The result none is the trap of a division by zero: the two divisors come
-- from the host and are not checked.
def ispcBaseInfoUpdate (base : SispControlInfo) (config : SispConfigPar) : Option (SispControlInfo × EhwErrorCode) :=
  if config.hor.toNat > maxHorizontal || config.ver.toNat > maxVertical || config.lineInEntry.toNat > linesMask then
    some (base, .parmaInvalid)
  else if config.lineStride.toNat = 0 then none
  else if config.bufferSize.toNat % config.lineStride.toNat != 0 || config.bufferAddr.toNat == 0 then
    some (base, .parmaInvalid)
  else if config.lineInEntry.toNat = 0 then none
  else
    let fragmentLine := config.ver.toNat % config.lineInEntry.toNat
    some ({ base with
      lineNumPerEntry := config.lineInEntry.toNat
      lineNumPerFrame := config.ver.toNat
      lineNumInLastEntry := if fragmentLine = 0 then config.lineInEntry.toNat else fragmentLine
      sizePerLine := config.lineStride.toNat
      lineNumPerBuffer := u16 (config.bufferSize.toNat / config.lineStride.toNat : Nat)
      frameBufferAddr := config.bufferAddr.toNat
      format := config.dataFmt.toNat }, .ok)

def ispcGetEntryToPop (handler : SispHandler) (lineNum : Nat) (list : SispBuffer × SispBuffer) :
    Option ((SispBuffer × SispBuffer) × Bool) :=
  let side := handler.customerPingPongFlag
  let info := handler.info.get side
  let fifo := handler.fifo.get side
  if isEmptyFifo fifo then some (list, false)
  else if decide (lineNum > fifo.depth) || decide (lineNum > getElementNumFifo fifo) then some (list, false)
  else do
    let startOffset ← getHeadFifo fifo
    let startAddr := u64 (info.frameBufferAddr + i32 (startOffset * info.sizePerLine : Nat))
    if fifo.depth ≥ startOffset + lineNum then
      let first : SispBuffer := ⟨info.format, lineNum, u32 (lineNum * info.sizePerLine : Nat), info.sizePerLine, startAddr⟩
      some ((first, { list.2 with lineNum := 0, startAddr := 0, size := 0 }), true)
    else
      let upper := u16 ((fifo.depth : Int) - startOffset)
      let lower := u16 ((lineNum : Int) - upper)
      some ((⟨info.format, upper, u32 (upper * info.sizePerLine : Nat), info.sizePerLine, startAddr⟩,
        ⟨info.format, lower, u32 (lower * info.sizePerLine : Nat), info.sizePerLine, info.frameBufferAddr⟩), true)

def ispcPopNewLine (handler : SispHandler) (lineNum : Nat) : SispHandler × Bool :=
  let side := handler.customerPingPongFlag
  let info := handler.info.get side
  let fifo := handler.fifo.get side
  if handler.status ≠ .ok then (handler, false)
  else if isEmptyFifo fifo then (handler, false)
  else
    let (fifo, popped) := popFifo fifo lineNum
    let handler := { handler with fifo := handler.fifo.set side fifo }
    -- pop_fifo returns an Eisp_bool, so the source's test for a negative value never succeeds.
    if popped.toInt < 0 then ({ handler with status := .popFail }, false)
    else if getHeadIndexFifo fifo > info.lineNumPerFrame then ({ handler with status := .popFail }, false)
    else if isLastEntryPopFifo fifo then
      let handler := { handler with customerPingPongFlag := !side }
      if handler.customerPingPongFlag ≠ handler.producePingPongFlag then
        ({ handler with status := .frameSwitchFail }, false)
      else (handler, true)
    else (handler, true)

def ispcSwitchBuffer (info base : SispControlInfo) : Bool :=
  info.frameBufferAddr != base.frameBufferAddr || info.lineNumPerFrame != base.lineNumPerFrame ||
    info.lineNumInLastEntry != base.lineNumInLastEntry

-- (offset + line_num_used_per_frame) % depth, none when the division traps.
def nextBaseIndex (fifo : Sfifo) (info : SispControlInfo) : Option Int :=
  if fifo.depth = 0 then none else some (i16 (Int.tmod (fifo.offset + info.lineNumUsedPerFrame) fifo.depth))

-- The lines the other side still holds, when both sides share one ring.
def ispcPushOffset (handler : SispHandler) : Nat :=
  if handler.producePingPongFlag != handler.customerPingPongFlag &&
      (handler.info.get handler.producePingPongFlag).frameBufferAddr ==
        (handler.info.get handler.customerPingPongFlag).frameBufferAddr then
    getElementNumFifo (handler.fifo.get handler.customerPingPongFlag)
  else 0

def ispcPushNewLine (handler : SispHandler) (element : Nat) : Option (SispHandler × Bool) :=
  let side := handler.producePingPongFlag
  let info := handler.info.get side
  let fifo := handler.fifo.get side
  if handler.status ≠ .ok then some (handler, false)
  else if (decide (element < info.lineNumPerEntry) || decide (element > info.lineNumPerEntry * 2)) &&
      !isLastEntryToPushFifo fifo info.lineNumPerEntry then
    some ({ handler with status := .parmaInvalid }, false)
  else
    let (fifo, pushed) := pushFifo fifo info.lineNumPerEntry (ispcPushOffset handler)
    let handler := { handler with fifo := handler.fifo.set side fifo }
    if pushed = false then some ({ handler with status := .overFlow }, false)
    else if isLastEntryPushFifo fifo then do
      let baseIndex ← if ispcSwitchBuffer info handler.base then some 0 else nextBaseIndex fifo info
      some ({ handler with
        info := handler.info.set (!side) handler.base
        interactCounter := 0
        producePingPongFlag := !side
        fifo := handler.fifo.set (!side)
          (resetFifo handler.base.lineNumPerBuffer baseIndex handler.base.lineNumPerFrame) }, true)
    else some (handler, true)

def ispcGetPushedLineNum (handler : SispHandler) : Int :=
  getTailIndexFifo (handler.fifo.get handler.producePingPongFlag)

def ispcGetPopedLineNum (handler : SispHandler) : Int :=
  getHeadIndexFifo (handler.fifo.get handler.customerPingPongFlag)

-- isp_fifo_reset and post_isp_fifo_reset: both sides fall back on the
-- producer's side, one frame further round the ring.
def ispcFifoReset (handler : SispHandler) : Option SispHandler := do
  let side := handler.producePingPongFlag
  let baseIndex ← nextBaseIndex (handler.fifo.get side) (handler.info.get side)
  some { handler with
    customerPingPongFlag := side
    info := handler.info.set side handler.base
    interactCounter := 0
    fifo := handler.fifo.set side
      (resetFifo handler.base.lineNumPerBuffer baseIndex handler.base.lineNumPerFrame) }

-- The part that isp_handler_config and post_isp_handler_config share once the
-- base information is accepted: both sides start on side 0 of an empty ring.
def ispcStart (handler : SispHandler) (base : SispControlInfo) : SispHandler :=
  { handler with
    base := base
    customerPingPongFlag := false
    producePingPongFlag := false
    info := handler.info.set false base
    fifo := handler.fifo.set false (resetFifo base.lineNumPerBuffer 0 base.lineNumPerFrame) }

end CsiDsp
