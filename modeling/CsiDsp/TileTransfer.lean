import CsiDsp.Base.CInt
import CsiDsp.Base.Raster
import CsiDsp.TileManager

set_option autoImplicit false

-- The transfers of the tile manager, with the pixels they move. Addresses are
-- integers. A pitch in bytes and an offset into a frame are int32_t. The sums of
-- coordinates and those within a tile are exact: TileFits and IntBox keep the
-- edges of frame and tile, and the size of the buffer, below 2^31.
namespace CsiDsp.Tiles

open CInt Raster

def maxNumDmaQueueLength : Nat := 32
def xvtmDummyDmaIndex : Int := -2
def xvtmError : Int := -1
def xvtmSuccess : Int := 0

def frameConstantPadding : Nat := 1
def frameEdgePadding : Nat := 2

def statusDmaOngoing : BitVec 32 := 0x1
def statusLeftEdgePaddingNeeded : BitVec 32 := 0x2
def statusRightEdgePaddingNeeded : BitVec 32 := 0x4
def statusTopEdgePaddingNeeded : BitVec 32 := 0x8
def statusBottomEdgePaddingNeeded : BitVec 32 := 0x10
def statusDummyIdmaIndexNeeded : BitVec 32 := 0x8000
-- Left, right, top, bottom, front and back.
def statusEdgePaddingNeeded : BitVec 32 := 0x7e

structure XvFrame where
  pFrameBuff : Nat
  pFrameData : Nat
  frameWidth : Int
  frameHeight : Int
  framePitch : Int
  pixelRes : Nat
  numChannels : Nat
  leftEdgePadWidth : Nat
  topEdgePadHeight : Nat
  rightEdgePadWidth : Nat
  bottomEdgePadHeight : Nat
  paddingType : Nat
  paddingVal : Nat
deriving DecidableEq, Repr

-- A pointer to a frame or to a tile is its place among the frames or tiles.
structure XvTile where
  pBuffer : Nat
  bufferSize : Nat
  pData : Int
  width : Int
  pitch : Int
  status : BitVec 32
  type : UInt16
  height : Nat
  pFrame : Option Nat
  x : Int
  y : Int
  tileEdgeLeft : Nat
  tileEdgeTop : Nat
  tileEdgeRight : Nat
  tileEdgeBottom : Nat
  dmaIndex : Int
  reuseCount : Int
  pPrevTile : Option Nat
deriving DecidableEq, Repr

inductive XvError where
  | success
  | frameNull
  | badArg
deriving DecidableEq, Repr

-- The tiles a channel has been asked for, and its engine: the copies it has
-- still to do, in order and with their indices, and the index of the next one.
structure TileChannel where
  tileDMAstartIndex : Nat
  tileDMApendingCount : Nat
  tileProcQueue : Nat → Nat
  outstanding : List (Nat × Transfer)
  nextIndex : Nat

-- XCHAL_DATARAM0 and XCHAL_DATARAM1
structure Dram where
  start : Nat
  stop : Nat
deriving DecidableEq, Repr

structure TileSystem where
  mem : Memory
  dram : Dram
  frames : Nat → XvFrame
  tiles : Nat → XvTile
  channels : Nat → TileChannel
  errFlag : XvError

def XvFrame.pixWidth (frame : XvFrame) : Int := i8 (frame.pixelRes * frame.numChannels : Nat)
def XvFrame.framePitchBytes (frame : XvFrame) : Int := i32 (frame.framePitch * frame.pixelRes)

-- (uint64_t)((y * framePitchBytes) + (x * pixWidth))
def XvFrame.offset (frame : XvFrame) (pixWidth y x : Int) : Int := i32 (y * frame.framePitchBytes + x * pixWidth)

-- int8_t framePadLeft, framePadRight, framePadTop, framePadBottom
def XvFrame.framePadLeft (frame : XvFrame) : Int := i8 frame.leftEdgePadWidth
def XvFrame.framePadRight (frame : XvFrame) : Int := i8 frame.rightEdgePadWidth
def XvFrame.framePadTop (frame : XvFrame) : Int := i8 frame.topEdgePadHeight
def XvFrame.framePadBottom (frame : XvFrame) : Int := i8 frame.bottomEdgePadHeight

def XvTile.tilePitchBytes (tile : XvTile) (frame : XvFrame) : Int := tile.pitch * frame.pixelRes

def XvTile.edgePtr (tile : XvTile) (frame : XvFrame) : Int :=
  tile.pData - (i16 tile.tileEdgeTop * tile.tilePitchBytes frame + i16 tile.tileEdgeLeft * frame.pixWidth)

section Checks

variable (dram : Dram) (tile : XvTile)

def xvTilePitchIsConsistent : Bool :=
  tile.pitch ≥ (tile.width + tile.tileEdgeLeft + tile.tileEdgeRight) * typeChannels tile.type

def xvTileBaseIsConsistent : Bool :=
  tile.pData - (tile.tileEdgeLeft * typeElementSize tile.type + tile.pitch * tile.tileEdgeTop * bytePerPel tile.type) ≥ tile.pBuffer

def xvTileEndIsConsistent : Bool :=
  tile.pData - tile.tileEdgeLeft * typeElementSize tile.type +
    tile.pitch * (tile.height + tile.tileEdgeBottom) * bytePerPel tile.type ≤ tile.pBuffer + tile.bufferSize

def xvTileIsConsistent : Bool := xvTilePitchIsConsistent tile && xvTileBaseIsConsistent tile && xvTileEndIsConsistent tile

-- XV_CHECK_TILE
def xvCheckTile : Bool :=
  tile.type.toNat.testBit 14 && dram.start ≤ tile.pBuffer && tile.pBuffer + tile.bufferSize ≤ dram.stop && xvTileIsConsistent tile

-- The checks in front of a transfer, in their order.
def checkTransfer (frames : Nat → XvFrame) (interruptOnCompletion : Int) : Except XvError XvFrame :=
  if interruptOnCompletion < 0 then .error .badArg
  else if !xvCheckTile dram tile then .error .badArg
  else match tile.pFrame with
  | none => .error .frameNull
  | some pFrame =>
      let frame := frames pFrame
      if frame.pFrameBuff = 0 ∨ frame.pFrameData = 0 then .error .frameNull
      else if frame.pixelRes ≠ bytePerPel tile.type then .error .badArg
      else if frame.numChannels ≠ typeChannels tile.type then .error .badArg
      else .ok frame

-- The tile whose data is copied has to be of the same type, too.
def prevRefused (prev : XvTile) : Bool := !xvCheckTile dram prev || prev.type ≠ tile.type

end Checks

-- One direction of a tile against its frame: where the transfer starts and
-- stops, the int16_t edge before its start, and which edges have to be padded.
structure Clip where
  low : Int
  high : Int
  extra : Int
  padLow : Bool
  padHigh : Bool
deriving DecidableEq, Repr

def clip (low high size before after : Int) : Clip :=
  let start := if low > size + after then size + after else low
  let stop := if high < -before then -before - 1 else high
  { low := if start < -before then -before else start
    high := if stop > size - 1 + after then size - 1 + after else stop
    extra := if start < -before then i16 (-before - start) else 0
    padLow := start < -before
    padHigh := stop > size - 1 + after }

def clipRows (frame : XvFrame) (tile : XvTile) : Clip :=
  clip (tile.y - i16 tile.tileEdgeTop) (tile.y + (tile.height - 1) + i16 tile.tileEdgeBottom) frame.frameHeight frame.framePadTop
    frame.framePadBottom

def clipColumns (frame : XvFrame) (tile : XvTile) : Clip :=
  clip (tile.x - i16 tile.tileEdgeLeft) (tile.x + (tile.width - 1) + i16 tile.tileEdgeRight) frame.frameWidth frame.framePadLeft
    frame.framePadRight

def flagIf (flag : BitVec 32) (needed : Bool) : BitVec 32 := if needed then flag else 0

def paddingFlags (rows columns : Clip) : BitVec 32 :=
  flagIf statusTopEdgePaddingNeeded rows.padLow ||| flagIf statusBottomEdgePaddingNeeded rows.padHigh |||
    flagIf statusLeftEdgePaddingNeeded columns.padLow ||| flagIf statusRightEdgePaddingNeeded columns.padHigh

-- idma_copy_2d_desc64_wide takes the sizes as unsigned.
def addIdmaRequest (dst src rowSize numRows srcPitchBytes dstPitchBytes : Int) : Transfer :=
  ⟨dst, src, u32 rowSize, u32 numRows, srcPitchBytes, dstPitchBytes⟩

def solveForX (frame : XvFrame) (pCurrBuff pPrevBuff y1 y2 x1 x2 px1 px2 tp ptp : Int) : List Transfer :=
  let pixWidth : Int := u8 (frame.pixelRes * frame.numChannels : Nat)
  let framePitchBytes := frame.framePitchBytes
  let rows := y2 - y1 + 1
  -- Only the left part overlaps.
  (if px1 ≤ x1 ∧ px2 < x2 then
    [addIdmaRequest pCurrBuff (pPrevBuff + (x1 - px1) * pixWidth) ((px2 - x1 + 1) * pixWidth) rows ptp tp,
      addIdmaRequest (pCurrBuff + (px2 - x1 + 1) * pixWidth) (frame.pFrameData + frame.offset pixWidth y1 (px2 + 1))
        ((x2 - px2) * pixWidth) rows framePitchBytes tp]
  else []) ++
  -- Only the middle overlaps.
  (if x1 < px1 ∧ px2 < x2 then
    [addIdmaRequest pCurrBuff (frame.pFrameData + frame.offset pixWidth y1 x1) ((px1 - x1) * pixWidth) rows framePitchBytes tp,
      addIdmaRequest (pCurrBuff + (px1 - x1) * pixWidth) pPrevBuff ((px2 - px1 + 1) * pixWidth) rows ptp tp,
      addIdmaRequest (pCurrBuff + (px2 - x1 + 1) * pixWidth) (frame.pFrameData + frame.offset pixWidth y1 (px2 + 1))
        ((x2 - px2) * pixWidth) rows framePitchBytes tp]
  else []) ++
  -- Only the right part overlaps.
  (if x1 < px1 ∧ x2 ≤ px2 then
    [addIdmaRequest pCurrBuff (frame.pFrameData + frame.offset pixWidth y1 x1) ((px1 - x1) * pixWidth) rows framePitchBytes tp,
      addIdmaRequest (pCurrBuff + (px1 - x1) * pixWidth) pPrevBuff ((x2 - px1 + 1) * pixWidth) rows ptp tp]
  else []) ++
  -- All of it overlaps.
  (if px1 ≤ x1 ∧ x2 ≤ px2 then
    [addIdmaRequest pCurrBuff (pPrevBuff + (x1 - px1) * pixWidth) ((x2 - x1 + 1) * pixWidth) rows ptp tp]
  else [])

section Request

variable (frame : XvFrame) (tile prev : XvTile)

def XvTile.dstPtr : Int :=
  tile.edgePtr frame + (clipRows frame tile).extra * tile.tilePitchBytes frame + (clipColumns frame tile).extra * frame.pixWidth

def dmaHeight : Int := (clipRows frame tile).high - (clipRows frame tile).low + 1
def dmaWidthBytes : Int := ((clipColumns frame tile).high - (clipColumns frame tile).low + 1) * frame.pixWidth

def framePtr (y x : Int) : Int := frame.pFrameData + frame.offset frame.pixWidth y x

-- Rows of the frame from row first on, for rows of the tile.
def rowsFromFrame (first numRows : Int) : Transfer :=
  let rows := clipRows frame tile
  let columns := clipColumns frame tile
  addIdmaRequest (tile.dstPtr frame + (first - rows.low) * tile.tilePitchBytes frame) (framePtr frame first columns.low)
    (dmaWidthBytes frame tile) numRows frame.framePitchBytes (tile.tilePitchBytes frame)

structure PrevExtent where
  py1 : Int
  py2 : Int
  px1 : Int
  px2 : Int
deriving DecidableEq, Repr

def XvTile.extent : PrevExtent where
  py1 := tile.y - tile.tileEdgeTop
  py2 := tile.y + tile.height - 1 + tile.tileEdgeBottom
  px1 := tile.x - tile.tileEdgeLeft
  px2 := tile.x + tile.width - 1 + tile.tileEdgeRight

def independent : Bool :=
  let rows := clipRows frame tile
  let columns := clipColumns frame tile
  let before := prev.extent
  before.py2 < rows.low || before.py1 > rows.high || before.px2 < columns.low || before.px1 > columns.high

def reuseTransfers : List Transfer :=
  let rows := clipRows frame tile
  let columns := clipColumns frame tile
  let before := prev.extent
  let tp := tile.tilePitchBytes frame
  let ptp := prev.pitch * frame.pixelRes
  let pPrevBuff := prev.pData - (prev.tileEdgeTop * prev.pitch * frame.pixelRes + prev.tileEdgeLeft * frame.pixWidth)
  let dstPtr := tile.dstPtr frame
  let solve (pCurrBuff pPrevBuff y1 y2 : Int) :=
    solveForX frame pCurrBuff pPrevBuff y1 y2 columns.low columns.high before.px1 before.px2 tp ptp
  -- Only the top part overlaps.
  (if before.py1 ≤ rows.low ∧ before.py2 < rows.high then
    rowsFromFrame frame tile (before.py2 + 1) (rows.high - before.py2) ::
      solve dstPtr (pPrevBuff + (rows.low - before.py1) * ptp) rows.low before.py2
  else []) ++
  -- Only the middle overlaps. The first copy takes one row of it along.
  (if rows.low < before.py1 ∧ before.py2 < rows.high then
    rowsFromFrame frame tile rows.low (before.py1 + 1 - rows.low) :: rowsFromFrame frame tile (before.py2 + 1) (rows.high - before.py2) ::
      solve (dstPtr + (before.py1 - rows.low) * tp) pPrevBuff before.py1 before.py2
  else []) ++
  -- Only the bottom part overlaps.
  (if rows.low < before.py1 ∧ rows.high ≤ before.py2 then
    rowsFromFrame frame tile rows.low (before.py1 - rows.low) ::
      solve (dstPtr + (before.py1 - rows.low) * tp) pPrevBuff before.py1 rows.high
  else []) ++
  -- All of it overlaps.
  (if before.py1 ≤ rows.low ∧ rows.high ≤ before.py2 then
    solve dstPtr (pPrevBuff + (rows.low - before.py1) * ptp) rows.low rows.high
  else [])

def wholeTransfer : Transfer := rowsFromFrame frame tile (clipRows frame tile).low (dmaHeight frame tile)

end Request

def TileSystem.setTile (system : TileSystem) (pTile : Nat) (tile : XvTile) : TileSystem :=
  { system with tiles := Function.update system.tiles pTile tile }

-- The engine numbers the copies it takes on.
def TileChannel.queueTile (channel : TileChannel) (pTile : Nat) (transfers : List Transfer) : TileChannel where
  tileDMAstartIndex := channel.tileDMAstartIndex
  tileDMApendingCount := channel.tileDMApendingCount + 1
  tileProcQueue := Function.update channel.tileProcQueue
    ((channel.tileDMAstartIndex + channel.tileDMApendingCount) % maxNumDmaQueueLength) pTile
  outstanding := channel.outstanding ++ transfers.mapIdx fun place transfer => (channel.nextIndex + place, transfer)
  nextIndex := channel.nextIndex + transfers.length

-- The end of a request: the tile waits in the queue of the channel.
def TileSystem.ask (system : TileSystem) (dmaChannel pTile : Nat) (transfers : List Transfer) (status : BitVec 32) : TileSystem :=
  let channel := (system.channels dmaChannel).queueTile pTile transfers
  let dmaIndex := if transfers = [] then xvtmDummyDmaIndex else channel.nextIndex - 1
  { system.setTile pTile { system.tiles pTile with status := status ||| statusDmaOngoing, dmaIndex := dmaIndex } with
      channels := Function.update system.channels dmaChannel channel }

def xvReqTileTransferInMultiChannel (system : TileSystem) (dmaChannel pTile : Nat) (pPrevTile : Option Nat) (interruptOnCompletion : Int) :
    TileSystem × Int :=
  match checkTransfer system.dram (system.tiles pTile) system.frames interruptOnCompletion with
  | .error error => ({ system with errFlag := error }, xvtmError)
  | .ok frame =>
      let tile := { system.tiles pTile with pPrevTile := none, reuseCount := 0 }
      let started := { system.setTile pTile tile with errFlag := .success }
      let status := tile.status ||| paddingFlags (clipRows frame tile) (clipColumns frame tile)
      if dmaHeight frame tile > 0 ∧ dmaWidthBytes frame tile > 0 then
        match pPrevTile with
        | none => (started.ask dmaChannel pTile [wholeTransfer frame tile] status, xvtmSuccess)
        | some before =>
            let prev := started.tiles before
            if prevRefused started.dram tile prev then ({ started with errFlag := .badArg }, xvtmError)
            else if independent frame tile prev then (started.ask dmaChannel pTile [wholeTransfer frame tile] status, xvtmSuccess)
            else
              let linked := started.setTile pTile { tile with pPrevTile := some before }
              let counted := linked.setTile before
                { linked.tiles before with reuseCount := (linked.tiles before).reuseCount + 1 }
              (counted.ask dmaChannel pTile (reuseTransfers frame tile prev) status, xvtmSuccess)
      else (started.ask dmaChannel pTile [] (status ||| statusDummyIdmaIndexNeeded), xvtmSuccess)

section Padding

variable (mem : Memory) (srcPtr dstPtr : Int) (pixWidth height pitchBytes : Int) (paddingType paddingVal : Nat)

-- The padding value of 16 bits if the pixels are of an even size, of 8 bits if
-- they are not.
def padByte (place : Int) : UInt8 :=
  if paddingType = frameConstantPadding then
    if pixWidth % 2 = 0 ∧ place % 2 = 1 then UInt8.ofNat (paddingVal / 256) else UInt8.ofNat paddingVal
  else 0

def copyBufferEdgeDataH (widthBytes : Int) : Memory :=
  if paddingType = frameEdgePadding then
    sweep mem dstPtr pitchBytes widthBytes (fun now _ place => now (srcPtr + place)) height.toNat
  else sweep mem dstPtr pitchBytes widthBytes (fun _ _ place => padByte pixWidth paddingType paddingVal place) height.toNat

def copyBufferEdgeDataV (width : Int) : Memory :=
  if paddingType = frameEdgePadding then
    sweep mem dstPtr pitchBytes (width * pixWidth) (fun now row place => now (srcPtr + row * pitchBytes + place % pixWidth)) height.toNat
  else sweep mem dstPtr pitchBytes (width * pixWidth) (fun _ _ place => padByte pixWidth paddingType paddingVal place) height.toNat

end Padding

section PadTile

variable (frame : XvFrame) (tile : XvTile) (mem : Memory)

def XvTile.copyRowBytes : Int :=
  (i16 tile.tileEdgeLeft + tile.width + i16 tile.tileEdgeRight) * typeElementSize tile.type

def XvTile.copyHeight : Int := i16 tile.tileEdgeTop + tile.height + i16 tile.tileEdgeBottom

def padTop : Memory :=
  let extraEdgeTop := i16 (-frame.framePadTop - (tile.y - i16 tile.tileEdgeTop))
  let dstPtr := tile.edgePtr frame
  copyBufferEdgeDataH mem (dstPtr + extraEdgeTop * tile.tilePitchBytes frame) dstPtr frame.pixWidth extraEdgeTop
    (tile.tilePitchBytes frame) frame.paddingType frame.paddingVal tile.copyRowBytes

def padBottom : Memory :=
  let y2 := frame.frameHeight - 1 + frame.framePadBottom
  let extraEdgeBottom := i16 (tile.y + (tile.height - 1) + i16 tile.tileEdgeBottom - y2)
  let dstPtr := tile.pData + (y2 - tile.y + 1) * tile.tilePitchBytes frame - i16 tile.tileEdgeLeft * frame.pixWidth
  copyBufferEdgeDataH mem (dstPtr - tile.tilePitchBytes frame) dstPtr frame.pixWidth extraEdgeBottom
    (tile.tilePitchBytes frame) frame.paddingType frame.paddingVal tile.copyRowBytes

def padLeft : Memory :=
  let extraEdgeLeft := i16 (-frame.framePadLeft - (tile.x - i16 tile.tileEdgeLeft))
  let dstPtr := tile.edgePtr frame
  copyBufferEdgeDataV mem (dstPtr + extraEdgeLeft * frame.pixWidth) dstPtr frame.pixWidth tile.copyHeight
    (tile.tilePitchBytes frame) frame.paddingType frame.paddingVal extraEdgeLeft

def padRight : Memory :=
  let x2 := frame.frameWidth - 1 + frame.framePadRight
  let extraEdgeRight := i16 (tile.x + (tile.width - 1) + i16 tile.tileEdgeRight - x2)
  let dstPtr := tile.pData - i16 tile.tileEdgeTop * tile.tilePitchBytes frame + (x2 - tile.x + 1) * frame.pixWidth
  copyBufferEdgeDataV mem (dstPtr - frame.pixWidth) dstPtr frame.pixWidth tile.copyHeight
    (tile.tilePitchBytes frame) frame.paddingType frame.paddingVal extraEdgeRight

def hasFlag (status flag : BitVec 32) : Bool := status &&& flag ≠ 0

def padEdges : Memory :=
  let top := if hasFlag tile.status statusTopEdgePaddingNeeded then padTop frame tile mem else mem
  let bottom := if hasFlag tile.status statusBottomEdgePaddingNeeded then padBottom frame tile top else top
  let left := if hasFlag tile.status statusLeftEdgePaddingNeeded then padLeft frame tile bottom else bottom
  if hasFlag tile.status statusRightEdgePaddingNeeded then padRight frame tile left else left

-- The tile is not part of the frame.
def fillTile : Memory :=
  if frame.paddingType ≠ frameEdgePadding then
    copyBufferEdgeDataH mem 0 (tile.edgePtr frame) frame.pixWidth (tile.height + i16 tile.tileEdgeTop + i16 tile.tileEdgeBottom)
      (tile.tilePitchBytes frame) frame.paddingType frame.paddingVal tile.copyRowBytes
  else mem

end PadTile

-- What stands at the frame pointer of a tile. Nothing reads through NULL here.
def TileSystem.frameOf (system : TileSystem) (tile : XvTile) : XvFrame := system.frames (tile.pFrame.getD 0)

def TileSystem.dropPrev (system : TileSystem) (pTile : Nat) : TileSystem :=
  match (system.tiles pTile).pPrevTile with
  | none => system
  | some before =>
      let counted := system.setTile before { system.tiles before with reuseCount := (system.tiles before).reuseCount - 1 }
      counted.setTile pTile { counted.tiles pTile with pPrevTile := none }

-- A tile whose transfer is done.
def finishTile (system : TileSystem) (pTile : Nat) : TileSystem :=
  let tile := system.tiles pTile
  let statusFlag := tile.status &&& ~~~statusDmaOngoing
  let mem :=
    if hasFlag statusFlag statusEdgePaddingNeeded then padEdges (system.frameOf tile) { tile with status := statusFlag } system.mem
    else system.mem
  let dropped := TileSystem.dropPrev { system with mem := mem } pTile
  dropped.setTile pTile { dropped.tiles pTile with status := statusFlag &&& ~~~statusEdgePaddingNeeded }

def finishDummy (system : TileSystem) (pTile : Nat) : TileSystem :=
  let tile := system.tiles pTile
  { system with mem := fillTile (system.frameOf tile) tile system.mem }.setTile pTile { tile with status := 0 }

def finishNext (system : TileSystem) (pTile : Nat) : TileSystem :=
  if hasFlag (system.tiles pTile).status statusDummyIdmaIndexNeeded then finishDummy system pTile else finishTile system pTile

-- The loop over the queue. The engine reports the copies below seen as done.
-- What comes out is the next start index and the number of tiles that are done.
def checkLoop (channel : TileChannel) (pTile seen : Nat) : Nat → Nat → TileSystem → Nat → Nat → TileSystem × Nat × Nat
  | 0, _, system, index, doneCount => (system, index, doneCount)
  | left + 1, loopInd, system, _, doneCount =>
      let index := (channel.tileDMAstartIndex + loopInd) % maxNumDmaQueueLength
      let pTile1 := channel.tileProcQueue (index % maxNumDmaQueueLength)
      if !hasFlag (system.tiles pTile1).status statusDummyIdmaIndexNeeded && !decide ((system.tiles pTile1).dmaIndex < seen) then
        (system, index, doneCount)
      else
        let next := finishNext system pTile1
        if pTile1 = pTile then (next, (index + 1) % maxNumDmaQueueLength, doneCount + 1)
        else checkLoop channel pTile seen left (loopInd + 1) next index (doneCount + 1)

def xvCheckTileReadyMultiChannel (system : TileSystem) (dmaChannel pTile seen : Nat) : TileSystem × Int :=
  if !xvCheckTile system.dram (system.tiles pTile) then ({ system with errFlag := .badArg }, xvtmError)
  else if (system.tiles pTile).status = 0 then ({ system with errFlag := .success }, 1)
  else
    let channel := system.channels dmaChannel
    let looped := checkLoop channel pTile seen channel.tileDMApendingCount 0 { system with errFlag := .success }
      channel.tileDMAstartIndex 0
    let ended := { looped.1 with
      channels := Function.update looped.1.channels dmaChannel { channel with
        tileDMAstartIndex := looped.2.1, tileDMApendingCount := channel.tileDMApendingCount - looped.2.2 } }
    (ended, if (ended.tiles pTile).status = 0 then 1 else 0)

def xvCheckInputTileFree (system : TileSystem) (pTile : Nat) : TileSystem × Int :=
  if !xvCheckTile system.dram (system.tiles pTile) then ({ system with errFlag := .badArg }, xvtmError)
  else ({ system with errFlag := .success }, if (system.tiles pTile).reuseCount = 0 then 1 else 0)

end CsiDsp.Tiles
