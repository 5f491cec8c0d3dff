import CsiDsp.Base.CInt
import Mathlib.Data.Finset.Basic

set_option autoImplicit false

namespace CsiDsp

open CInt

-- xvFrame, as far as a tile is checked against it.
structure XvFrame where
  pixelRes : UInt8
  numChannels : UInt8
deriving DecidableEq, Repr

-- A frame pointer: NULL, a frame of frameArray, or (xvFrame *) XVTM_ERROR.
inductive FramePtr where
  | null
  | slot (index : Fin 8)
  | error
deriving DecidableEq, Repr

structure XvTile where
  pBuffer : Nat
  pFrame : FramePtr
deriving DecidableEq, Repr

structure MemBank where
  start : Nat
  size : Nat
deriving DecidableEq, Repr

structure XvTileManager where
  frameAllocFlags : Finset (Fin 8)
  frameArray : Fin 8 → XvFrame
  tileAllocFlags : Finset (Fin 32)
  tileArray : Fin 32 → XvTile
  buffers : Finset Nat

structure FrameArgs where
  imgBuff : UInt64
  frameBuffSize : UInt32
  width : Int32
  height : Int32
  pitch : Int32
  pixRes : UInt8
  numChannels : UInt8
  paddingtype : UInt8
deriving DecidableEq

structure TileArgs where
  tileBuffSize : Int32
  width : Int32
  height : UInt16
  pitch : Int32
  edgeWidth : UInt16
  edgeHeight : UInt16
  color : Int32
  xvTileType : UInt16
  alignType : Int32
deriving DecidableEq

def maxNumChannel : Nat := 4
def framePaddingMax : Nat := 3
def memBankColorAny : Nat := 0xBEEDDEAF

-- The checks of xvCreateFrame. The buffer size is compared as unsigned.
def frameRefused (args : FrameArgs) : Bool :=
  args.imgBuff == 0 || (args.width < 0 || args.height < 0 || args.pitch < 0) ||
    i32 (args.width.toInt * args.numChannels.toNat) > args.pitch.toInt ||
    args.frameBuffSize.toNat < u32 (args.pitch.toInt * args.height.toInt * args.pixRes.toNat) ||
    (args.numChannels.toNat > maxNumChannel || args.numChannels.toNat ≤ 0) ||
    args.paddingtype.toNat > framePaddingMax

-- XV_TYPE_CHANNELS and XV_TYPE_ELEMENT_SIZE
def typeChannels (tileType : UInt16) : Nat := tileType.toNat / 1024 % 4 + 1
def typeElementSize (tileType : UInt16) : Nat := tileType.toNat % 1024

def bytePerPel (tileType : UInt16) : Nat := typeElementSize tileType / typeChannels tileType

-- EDGE_ALIGNED_32, DATA_ALIGNED_32, EDGE_ALIGNED_64 and DATA_ALIGNED_64
def alignTypes : List Int32 := [1, 2, 3, 4]

-- The checks of xvCreateTile before it looks at the frame.
def tileRefused (numMemBanks : Nat) (args : TileArgs) : Bool :=
  (args.width < 0 || args.pitch < 0) || args.alignType ∉ alignTypes ||
    ((args.color < 0 || args.color.toInt ≥ numMemBanks) && u32 args.color.toInt ≠ memBankColorAny) ||
    i32 ((args.width.toInt + 2 * args.edgeWidth.toNat) * typeChannels args.xvTileType) > args.pitch.toInt ||
    args.tileBuffSize.toInt <
      i32 (args.pitch.toInt * (args.height.toNat + 2 * args.edgeHeight.toNat) * bytePerPel args.xvTileType)

def frameMismatch (args : TileArgs) (frame : XvFrame) : Bool :=
  frame.pixelRes.toNat ≠ bytePerPel args.xvTileType || frame.numChannels.toNat ≠ typeChannels args.xvTileType

def MemBank.contains (bank : MemBank) (addr : Nat) : Bool := bank.start ≤ addr && addr < bank.start + bank.size

-- The banks that a buffer of this color may come from.
def banksOfColor (banks : List MemBank) (color : Int32) : List MemBank :=
  if u32 color.toInt = memBankColorAny then banks else (banks[color.toInt.toNat]?).toList

-- The search for a clear bit of the allocation flags.
def firstFree {count : Nat} (flags : Finset (Fin count)) : Option (Fin count) := (List.finRange count).find? (· ∉ flags)

namespace XvTileManager

def createFrame (manager : XvTileManager) (args : FrameArgs) : XvTileManager × FramePtr :=
  if frameRefused args then (manager, .error)
  else match firstFree manager.frameAllocFlags with
  | none => (manager, .error)
  | some index =>
      ({ manager with
          frameAllocFlags := insert index manager.frameAllocFlags,
          frameArray := Function.update manager.frameArray index ⟨args.pixRes, args.numChannels⟩ }, .slot index)

-- Any address inside a bank is accepted, and xvmem_free frees what starts there.
def freeBuffer (banks : List MemBank) (manager : XvTileManager) (addr : Nat) : XvTileManager × Bool :=
  if addr = 0 then (manager, false)
  else if banks.any fun bank => bank.contains addr then ({ manager with buffers := manager.buffers.erase addr }, true)
  else (manager, false)

def freeTile (manager : XvTileManager) : Option (Fin 32) → XvTileManager × Bool
  | some index => ({ manager with tileAllocFlags := manager.tileAllocFlags.erase index }, true)
  | none => (manager, false)

def freeFrame (manager : XvTileManager) : FramePtr → XvTileManager × Bool
  | .slot index => ({ manager with frameAllocFlags := manager.frameAllocFlags.erase index }, true)
  | .null | .error => (manager, false)

-- What stands at the address of a frame. Behind XVTM_ERROR there is no frame.
def frameAt (manager : XvTileManager) (garbage : XvFrame) : FramePtr → XvFrame
  | .slot index => manager.frameArray index
  | .null | .error => garbage

-- The buffer is what xvmem_alloc gives, if it is asked.
def createTile (banks : List MemBank) (manager : XvTileManager) (args : TileArgs) (pFrame : FramePtr) (garbage : XvFrame)
    (buffer : Option Nat) : XvTileManager × Option (Fin 32) :=
  if tileRefused banks.length args then (manager, none)
  else if pFrame ≠ .null ∧ frameMismatch args (manager.frameAt garbage pFrame) = true then (manager, none)
  else if args.tileBuffSize ≤ 0 then (manager, none)
  else match buffer with
  | none => (manager, none)
  | some addr =>
      let held := { manager with buffers := insert addr manager.buffers }
      match firstFree held.tileAllocFlags with
      | none => ((freeBuffer banks held addr).1, none)
      | some index =>
          ({ held with
              tileAllocFlags := insert index held.tileAllocFlags,
              tileArray := Function.update held.tileArray index ⟨addr, pFrame⟩ }, some index)

-- The answer none is the source's NULL.
def setup (banks : List MemBank) (manager : XvTileManager) (frame : FrameArgs) (tile : TileArgs) (garbage : XvFrame)
    (buffer : Option Nat) : XvTileManager × Option (Fin 32) :=
  let (created, pFrame) := manager.createFrame frame
  createTile banks created tile pFrame garbage buffer

end XvTileManager

-- A tile pointer: NULL, a tile of tileArray, or a tile somewhere else.
inductive TilePtr where
  | null
  | slot (index : Fin 32)
  | other (tile : XvTile)
deriving DecidableEq, Repr

def TilePtr.index : TilePtr → Option (Fin 32)
  | .slot index => some index
  | .null | .other _ => none

namespace XvTileManager

def tileAt (manager : XvTileManager) : TilePtr → XvTile
  | .null => ⟨0, .null⟩
  | .slot index => manager.tileArray index
  | .other tile => tile

def release (banks : List MemBank) (manager : XvTileManager) (pointer : TilePtr) : XvTileManager × Bool :=
  if pointer = .null then (manager, false)
  else
    let tile := manager.tileAt pointer
    let (first, buffer) := freeBuffer banks manager tile.pBuffer
    if buffer = false then (first, false)
    else
      let (second, freed) := freeTile first pointer.index
      if freed = false then (second, false)
      else freeFrame second tile.pFrame

end XvTileManager

end CsiDsp
