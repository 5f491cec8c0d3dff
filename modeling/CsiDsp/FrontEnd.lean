import CsiDsp.IspHandler
import CsiDsp.PostIsp

set_option autoImplicit false

namespace CsiDsp

open CInt

structure FrameMeta where
  frameId : Nat
  tempProjector : Nat
  tempSensor : Nat
  timestap : Nat
deriving DecidableEq, Repr

def zeroMeta : FrameMeta := ⟨0, 0, 0, 0⟩

-- entry_struct_t without width, which no front end sets.
structure EntryStruct where
  pBuff : Nat
  x : Nat
  y : Nat
  height : Int
  fmt : Int
  pitch : Int
  frameHeight : Nat
  frameMeta : FrameMeta
deriving DecidableEq, Repr

-- The part of csi_dsp_buffer that the back ends fill in: the image format and
-- the first plane.
structure CsiDspBuffer where
  format : Nat
  planeCount : Nat
  height : Nat
  stride : Nat
  size : Nat
  bufPhy : Nat
deriving DecidableEq, Repr

-- The first argument is the buffer list on the caller's stack. The result
-- false is the source's -1.
def getIspNextEntry (list : SispBuffer × SispBuffer) (handler : SispHandler) (ctrlInfo : EntryStruct) :
    Option (SispHandler × EntryStruct × Bool) := do
  let (handler, list, found) ← ispGetNextEntry handler list
  if found = false then some (handler, ctrlInfo, false)
  else if list.2.size ≠ 0 then some (handler, ctrlInfo, false)
  else some (handler, {
    x := 0
    y := u16 (ispGetPopedLineNum handler)
    height := i16 list.1.lineNum
    fmt := i16 list.2.fmt
    frameHeight := ispGetFrameHeight handler
    pitch := i16 list.1.lineSize
    pBuff := list.1.startAddr
    frameMeta := zeroMeta }, true)

def ispEntryDone (handler : SispHandler) (ctrlInfo : EntryStruct) : SispHandler × Bool :=
  ispPopNLine handler (u16 ctrlInfo.height)

def getPostIspNextEntry (entry : SispBuffer) (handler : SispHandler) (bufEntry : CsiDspBuffer) :
    Option (SispHandler × CsiDspBuffer × Bool) := do
  let (handler, entry, ret) ← postIspGetNextEntry handler entry
  if ret ≠ .ok then some (handler, bufEntry, false)
  else some (handler, {
    height := entry.lineNum
    format := u8 entry.fmt
    planeCount := 1
    bufPhy := entry.startAddr
    stride := entry.lineSize
    size := u32 (entry.lineSize * entry.lineNum : Nat) }, true)

def postIspEntryStart (handler : SispHandler) (bufEntry : CsiDspBuffer) : Option (SispHandler × Bool) :=
  postIspPushEntry handler (u16 bufEntry.height)

end CsiDsp
