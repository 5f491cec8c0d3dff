import Mathlib.Logic.Function.Basic
import CsiDsp.FrontEnd

set_option autoImplicit false

namespace CsiDsp

open CInt

def maxVipreChannel : Nat := 3
def maxVipreBuffer : Nat := 4

inductive VipreMode where
  | mFrame
  | nLine
deriving DecidableEq, Repr

-- bufferAddr takes a channel and, for a frame buffer, the number of the buffer.
structure SvipreBufferList where
  bufferNum : Nat
  sizePerLine : Nat
  lineNumPerBuffer : Nat
  dataFmt : Nat
  bufferAddr : Nat → Nat → Nat

structure SvipreNLineInfo where
  lineNumPerEntry : Nat
  lineNumPerFrame : Nat
  lineNumInLastEntry : Nat
  sizePerLine : Nat
  lineNumPerBuffer : Nat
  lineNumUsedPerFrame : Nat
  bufferAddr : Nat → Nat

-- info and bufferInfo, and the two bases, share their memory in the source; the
-- mode says which of them is in use.
structure SvipreHandler where
  customerPingPongFlag : Bool
  producePingPongFlag : Bool
  activeChannle : Nat
  status : EhwErrorCode
  vipreMode : VipreMode
  info : PingPong SvipreNLineInfo
  bufferInfo : PingPong SvipreBufferList
  fifo : PingPong Sfifo
  base : SvipreNLineInfo
  baseBufferInfo : SvipreBufferList
  frameMetaReg : Nat
  frameMeta : Nat → FrameMeta

structure SvipreBuffer where
  lineNum : Nat
  fmt : Nat
  lineSize : Nat
  size : Nat
  startAddr : Nat → Nat

-- vipre_config_par_t
structure VipreConfigPar where
  id : UInt8
  actChannel : UInt8
  dataFmt : UInt8
  bufferNum : UInt8
  lineNum : UInt16
  hor : UInt16
  ver : UInt16
  lineStride : UInt16
  bufferSize : UInt32
  bufferAddr : Nat → UInt64

def zeroBufferList : SvipreBufferList := ⟨0, 0, 0, 0, fun _ _ => 0⟩

def zeroNLineInfo : SvipreNLineInfo := ⟨0, 0, 0, 0, 0, 0, fun _ => 0⟩

def zeroVipre : SvipreHandler :=
  ⟨false, false, 0, .ok, .mFrame, .const zeroNLineInfo, .const zeroBufferList, .const (resetFifo 0 0 0), zeroNLineInfo,
    zeroBufferList, 0, fun _ => zeroMeta⟩

def activeChannels (actChannel : Nat) : List Nat := (List.range maxVipreChannel).filter fun channel => actChannel.testBit channel

-- The result none is the trap of a division by zero, and false the source's
-- error return.
def vipreHandlerNlineConfig (handler : SvipreHandler) (config : VipreConfigPar) : Option (SvipreHandler × Bool) :=
  let ver := config.ver.toNat
  let line := config.lineNum.toNat
  if config.hor.toNat > maxHorizontal || ver > maxVertical || line > linesMask then some (handler, false)
  else if config.lineStride.toNat = 0 then none
  else if config.bufferSize.toNat % config.lineStride.toNat ≠ 0 then some (handler, false)
  else if line = 0 then none
  else
    let lines := u16 (config.bufferSize.toNat / config.lineStride.toNat : Nat)
    let base : SvipreNLineInfo := {
      lineNumPerEntry := line
      lineNumPerFrame := ver
      lineNumInLastEntry := if ver % line = 0 then line else ver % line
      sizePerLine := config.lineStride.toNat
      lineNumPerBuffer := lines
      lineNumUsedPerFrame := ver
      bufferAddr := fun channel =>
        if channel ∈ activeChannels config.actChannel.toNat then (config.bufferAddr channel).toNat
        else handler.base.bufferAddr channel }
    some ({ handler with
      frameMetaReg := u32 (config.bufferAddr 11).toNat
      activeChannle := config.actChannel.toNat
      vipreMode := .nLine
      status := .ok
      base := base
      customerPingPongFlag := false
      producePingPongFlag := false
      info := handler.info.set false base
      fifo := handler.fifo.set false (resetFifo lines 0 ver) }, true)

def vipreFrameModeHandlerConfig (handler : SvipreHandler) (config : VipreConfigPar) : Option (SvipreHandler × Bool) :=
  let handler := { handler with
    customerPingPongFlag := false
    producePingPongFlag := false
    vipreMode := .mFrame
    status := .ok }
  if config.actChannel.toNat > 7 then some (handler, false)
  else
    let handler := { handler with activeChannle := config.actChannel.toNat }
    let channels := activeChannels config.actChannel.toNat
    let total := config.bufferNum.toNat
    if total > maxVipreBuffer * channels.length then some (handler, false)
    else if channels.length = 0 then none
    else if total % channels.length ≠ 0 then some (handler, false)
    else
      let number := total / channels.length
      let base : SvipreBufferList := {
        bufferNum := number
        dataFmt := config.dataFmt.toNat
        lineNumPerBuffer := config.ver.toNat
        sizePerLine := config.lineStride.toNat
        bufferAddr := fun channel buffer =>
          if channel ∈ channels ∧ buffer < number then (config.bufferAddr (channels.idxOf channel * number + buffer)).toNat
          else handler.baseBufferInfo.bufferAddr channel buffer }
      some ({ handler with
        frameMetaReg := u32 (config.bufferAddr 11).toNat
        baseBufferInfo := base
        bufferInfo := handler.bufferInfo.set false base
        fifo := handler.fifo.set false (resetFifo number 0 number) }, true)

def vipreConfigure (config : VipreConfigPar) : Option (SvipreHandler × Bool) :=
  if config.lineNum = 0 then vipreFrameModeHandlerConfig zeroVipre config else vipreHandlerNlineConfig zeroVipre config

-- The memory at frame_meta_reg belongs to the device: its content comes with
-- the interrupt.
def vipreStoreFrameMeta (handler : SvipreHandler) (fifo : Sfifo) (content : FrameMeta) : Option SvipreHandler := do
  let index ← getTailFifo fifo
  if 0 ≤ index ∧ index < maxVipreBuffer ∧ handler.frameMetaReg ≠ 0 then
    some { handler with frameMeta := Function.update handler.frameMeta index.toNat content }
  else some handler

def viprePushNewEntry (handler : SvipreHandler) (content : FrameMeta) : Option (SvipreHandler × Bool) :=
  match handler.vipreMode with
  | .nLine => some (handler, false)
  | .mFrame =>
      let side := handler.producePingPongFlag
      let fifo := handler.fifo.get side
      if isOverflowFifo fifo then some ({ handler with status := .overFlow }, false)
      else do
        let handler ← vipreStoreFrameMeta handler fifo content
        let (fifo, pushed) := pushFifo fifo 1 0
        let handler := { handler with fifo := handler.fifo.set side fifo }
        if pushed = false then some (handler, false)
        else if isLastEntryPushFifo fifo then
          some ({ handler with
            bufferInfo := handler.bufferInfo.set (!side) handler.baseBufferInfo
            producePingPongFlag := !side
            fifo := handler.fifo.set (!side)
              (resetFifo handler.baseBufferInfo.bufferNum 0 handler.baseBufferInfo.bufferNum) }, true)
        else some (handler, true)

def vipreIsLastEntryPushInFrame (handler : SvipreHandler) : Bool :=
  let side := handler.producePingPongFlag
  match handler.vipreMode with
  | .mFrame => isLastEntryToPushFifo (handler.fifo.get side) 1
  | .nLine => isLastEntryToPushFifo (handler.fifo.get side) (handler.info.get side).lineNumInLastEntry

def viprePushNewLine (handler : SvipreHandler) : Option (SvipreHandler × Bool) :=
  let side := handler.producePingPongFlag
  let fifo := handler.fifo.get side
  let info := handler.info.get side
  if isOverflowFifo fifo then some ({ handler with status := .overFlow }, false)
  else
    let lineNum := if vipreIsLastEntryPushInFrame handler then info.lineNumInLastEntry else info.lineNumPerEntry
    let (fifo, pushed) := pushFifo fifo lineNum 0
    let handler := { handler with fifo := handler.fifo.set side fifo }
    if pushed = false then some ({ handler with status := .overFlow }, false)
    else if isLastEntryPushFifo fifo then
      if fifo.depth = 0 then none
      else
        some ({ handler with
          info := handler.info.set (!side) handler.base
          producePingPongFlag := !side
          fifo := handler.fifo.set (!side) (resetFifo handler.base.lineNumPerBuffer
            (i16 (Int.tmod (fifo.offset + info.lineNumUsedPerFrame) fifo.depth)) handler.base.lineNumPerFrame) }, true)
    else some (handler, true)

def vipreCheckExeptional (handler : SvipreHandler) : Int := handler.status.code

def channelAddresses (channels : List Nat) (address : Nat → Nat) (old : Nat → Nat) : Nat → Nat := fun index =>
  match channels[index]? with
  | some channel => address channel
  | none => old index

-- The buffer stays as it was on the stack when there is nothing to pop.
def vipreGetEntryToPop (handler : SvipreHandler) (lineNum : Nat) (buffer : SvipreBuffer) :
    Option (SvipreHandler × SvipreBuffer × Bool) :=
  let info := handler.info.get handler.customerPingPongFlag
  let fifo := handler.fifo.get handler.customerPingPongFlag
  if isOverflowFifo fifo then some ({ handler with status := .overFlow }, buffer, false)
  else if isEmptyFifo fifo then some (handler, buffer, false)
  else if lineNum > getElementNumFifo fifo then some (handler, buffer, false)
  else do
    let head ← getHeadFifo fifo
    some (handler, { buffer with
      lineNum := lineNum
      size := u32 (lineNum * info.sizePerLine : Nat)
      startAddr := channelAddresses (activeChannels handler.activeChannle)
        (fun channel => u64 (info.bufferAddr channel + i32 (head * info.sizePerLine : Nat))) buffer.startAddr }, true)

-- The odd frames are those of the even buffers, counted from 0.
def evenOddFrameMatch (id frameId : Nat) : Bool :=
  match id with
  | 0 => true
  | 1 => frameId % 2 == 0
  | 2 => frameId % 2 == 1
  | _ => false

def vipreGetNextEntry (handler : SvipreHandler) (id : Nat) (buffer : SvipreBuffer) :
    Option (SvipreHandler × SvipreBuffer × Bool) :=
  let side := handler.customerPingPongFlag
  let fifo := handler.fifo.get side
  if isEmptyFifo fifo then some (handler, buffer, false)
  else
    match handler.vipreMode with
    | .mFrame => do
        let head ← getHeadFifo fifo
        if evenOddFrameMatch id head = false then some (handler, buffer, false)
        else
          let list := handler.bufferInfo.get side
          some (handler, {
            lineNum := list.lineNumPerBuffer
            size := u32 (list.sizePerLine * list.lineNumPerBuffer : Nat)
            lineSize := list.sizePerLine
            fmt := u16 list.dataFmt
            startAddr := channelAddresses (activeChannels handler.activeChannle)
              (fun channel => list.bufferAddr channel head) buffer.startAddr }, true)
    | .nLine =>
        let info := handler.info.get side
        let take (line : Nat) := do
          let (handler, buffer, found) ← vipreGetEntryToPop handler line buffer
          -- An Eisp_bool is never negative.
          if found.toInt < 0 then some (handler, buffer, false) else some (handler, buffer, true)
        if isEnoughElementToPopFifo fifo info.lineNumPerEntry then take info.lineNumPerEntry
        else if isEnoughElementToPopFifo fifo info.lineNumInLastEntry then take info.lineNumInLastEntry
        else some (handler, buffer, false)

def vipreFinishPop (handler : SvipreHandler) (fifo : Sfifo) : SvipreHandler × Bool :=
  if isLastEntryPopFifo fifo then
    let handler := { handler with customerPingPongFlag := !handler.customerPingPongFlag }
    if handler.customerPingPongFlag ≠ handler.producePingPongFlag then ({ handler with status := .frameSwitchFail }, false)
    else (handler, true)
  else (handler, true)

-- pop_fifo returns an Eisp_bool, so the source's test for a negative value
-- never succeeds.
def viprePopNewEntry (handler : SvipreHandler) (lineNum : Int) : Option (SvipreHandler × Bool) :=
  let side := handler.customerPingPongFlag
  let fifo := handler.fifo.get side
  if isEmptyFifo fifo then some (handler, false)
  else if fifo.depth = 0 then none
  else
    let element := match handler.vipreMode with
      | .mFrame => 1
      | .nLine => u16 lineNum
    let (fifo, popped) := popFifo fifo element
    let handler := { handler with fifo := handler.fifo.set side fifo }
    if popped.toInt < 0 then some ({ handler with status := .popFail }, false)
    else some (vipreFinishPop handler fifo)

def vipreGetFrameHeight (handler : SvipreHandler) : Nat :=
  match handler.vipreMode with
  | .mFrame => (handler.bufferInfo.get handler.customerPingPongFlag).lineNumPerBuffer
  | .nLine => (handler.info.get handler.customerPingPongFlag).lineNumPerFrame

def vipreRecoveryStateUpdate (handler : SvipreHandler) : Option SvipreHandler :=
  match handler.vipreMode, handler.status with
  | .mFrame, .overFlow => (viprePopNewEntry handler 1).map fun popped => { popped.1 with status := .recoverying }
  | .mFrame, .recoveryDone | .mFrame, .recoverying => some { handler with status := .ok }
  | _, _ => some handler

def vipreGetFrameMeta (handler : SvipreHandler) : Option (Option FrameMeta) :=
  match handler.vipreMode with
  | .nLine => some none
  | .mFrame => do
      let index ← getHeadFifo (handler.fifo.get handler.customerPingPongFlag)
      some (if index < maxVipreBuffer then some (handler.frameMeta index) else none)

def vipreIsEmpty (handler : SvipreHandler) : Bool := isEmptyFifo (handler.fifo.get handler.customerPingPongFlag)

-- The status bits vipre_interrupt_handler looks at, and what the device has
-- left at frame_meta_reg.
structure VipreInterrupt where
  frameDone : Bool
  nLineDone : Bool
  overflow : Bool
  content : FrameMeta
deriving DecidableEq, Repr

def vipreInterruptHandler (handler : SvipreHandler) (registers : VipreInterrupt) : Option SvipreHandler :=
  if registers.frameDone then (viprePushNewEntry handler registers.content).map Prod.fst
  else if registers.nLineDone then (viprePushNewLine handler).map Prod.fst
  else if registers.overflow then (viprePopNewEntry handler 1).map Prod.fst
  else some handler

-- The first argument is the buffer on the caller's stack. x and y keep their
-- values for an entry of N lines.
def getVipreNextEntry (buffer : SvipreBuffer) (id : Int) (handler : SvipreHandler) (ctrlInfo : EntryStruct) :
    Option (SvipreHandler × EntryStruct × Bool) := do
  let (handler, buffer, found) ← vipreGetNextEntry handler (u16 id) buffer
  if found = false then some (handler, ctrlInfo, false)
  else
    let height := i16 buffer.lineNum
    let whole := vipreGetFrameHeight handler = height
    let content ← vipreGetFrameMeta handler
    some (handler, {
      frameHeight := vipreGetFrameHeight handler
      height := height
      pitch := i16 buffer.lineSize
      pBuff := buffer.startAddr 0
      x := if whole then 65535 else ctrlInfo.x
      y := if whole then 65535 else ctrlInfo.y
      fmt := ctrlInfo.fmt
      frameMeta := content.getD zeroMeta }, true)

end CsiDsp
