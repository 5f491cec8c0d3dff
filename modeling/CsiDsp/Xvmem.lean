import CsiDsp.Base.BitArray
import CsiDsp.Base.CInt

set_option autoImplicit false

namespace CsiDsp

open CInt

inductive XvmemStatus where
  | ok
  | poolSize
  | poolNull
  | allocFailed
  | illegalAlign
deriving DecidableEq, Repr

-- What a pointer to a block can name: one of the manager's sentinels, or a block of its array.
inductive XvmemNode where
  | freeListHead
  | freeListTail
  | allocListHead
  | block (index : Nat)
deriving DecidableEq, Repr

structure XvmemBlock where
  nextBlock : Option XvmemNode
  blockSize : Nat
  buffer : Nat
  alignedBuffer : Nat
deriving DecidableEq, Repr

structure XvmemMgr where
  buffer : Nat
  bufferSize : Nat
  freeBytes : Nat
  allocatedBytes : Nat
  unusedBytes : Nat
  nodes : XvmemNode → XvmemBlock
  numBlocks : Nat
  blockFreeBitvec : Nat → BitVec 32
  headerSize : Nat
  hasHeader : Bool

def heap3DefaultNumBlocks : Nat := 32
def heap3MinAllocSize : Nat := 4
def blockStructSize : Nat := 16

namespace XvmemMgr

def setNode (mgr : XvmemMgr) (node : XvmemNode) (change : XvmemBlock → XvmemBlock) : XvmemMgr :=
  { mgr with nodes := Function.update mgr.nodes node (change (mgr.nodes node)) }

def setNext (mgr : XvmemMgr) (node : XvmemNode) (next : Option XvmemNode) : XvmemMgr :=
  mgr.setNode node fun block => { block with nextBlock := next }

def next (mgr : XvmemMgr) (node : XvmemNode) : Option XvmemNode := (mgr.nodes node).nextBlock

end XvmemMgr

-- The sentinels as xvmem_init writes them.
def xvmemSentinels (mgr : XvmemMgr) : XvmemMgr :=
  { mgr with
      allocatedBytes := 0,
      nodes := fun node => match node with
        | .freeListHead => { mgr.nodes node with blockSize := 0, buffer := 0, alignedBuffer := 0 }
        | .freeListTail => { mgr.nodes node with blockSize := 0xffffffff, buffer := 0xffffffff, alignedBuffer := 0xffffffff }
        | .allocListHead => { mgr.nodes node with blockSize := 0, buffer := 0, alignedBuffer := 0 }
        | .block _ => mgr.nodes node }

-- Where the header has a place of its own, the first block is the pool.
def xvmemInitExternal (mgr : XvmemMgr) (buf size : Nat) : XvmemMgr :=
  let mgr := mgr.setNode (.block 0) fun _ => ⟨some .freeListTail, size, buf, buf⟩
  let mgr := (mgr.setNext .freeListHead (some (.block 0))).setNext .freeListTail none
  let mgr := mgr.setNext .allocListHead none
  { mgr with
      blockFreeBitvec := Function.update mgr.blockFreeBitvec 0 0xfffffffe,
      freeBytes := size,
      unusedBytes := 0 }

-- Else the first block is the header, and the second one what is left of the pool.
def xvmemInitInternal (mgr : XvmemMgr) (buf size : Nat) : XvmemMgr :=
  let mgr := mgr.setNode (.block 0) fun _ => ⟨none, mgr.headerSize, buf, buf⟩
  let mgr := mgr.setNext .allocListHead (some (.block 0))
  let rest := u32 (buf + mgr.headerSize)
  let mgr := mgr.setNode (.block 1) fun _ => ⟨some .freeListTail, u32 (size - mgr.headerSize), rest, rest⟩
  let mgr := (mgr.setNext .freeListHead (some (.block 1))).setNext .freeListTail none
  { mgr with
      blockFreeBitvec := Function.update mgr.blockFreeBitvec 0 0xfffffffc,
      freeBytes := u32 (size - mgr.headerSize),
      unusedBytes := mgr.headerSize,
      allocatedBytes := mgr.headerSize }

-- The number of blocks is given with a header of its own only.
def xvmemInit (mgr : XvmemMgr) (buf size : Nat) (header : Option Nat) : XvmemMgr × XvmemStatus :=
  if buf = 0 then (mgr, .poolNull)
  else
    let numBlocks := header.getD heap3DefaultNumBlocks
    let mgr := { mgr with
      buffer := buf, bufferSize := size, numBlocks := numBlocks, hasHeader := header.isSome,
      headerSize := u32 (blockStructSize * numBlocks + u32 (numBlocks + 31) / 32 * 4) }
    match header with
    | some _ => (xvmemInitExternal (xvmemSentinels mgr) buf size, .ok)
    | none =>
        if size < u32 (mgr.headerSize + heap3MinAllocSize) then (mgr, .poolSize)
        else (xvmemInitInternal (xvmemSentinels mgr) buf size, .ok)

-- 31 - XT_NSAU(n)
def xvmemFindMsbit (n : Nat) : Nat := if n = 0 then u32 (-1) else n.log2

def xvmemComputeNewSize (block : XvmemBlock) (size align : Nat) : Nat :=
  let p := xvmemFindMsbit align
  let alignedBlock := u32 (block.buffer + align - 1) / 2 ^ p * 2 ^ p
  let extraSize := u32 (alignedBlock - block.buffer)
  u32 (size + extraSize)

-- XT_MOVLTZ of 32 and the number of bits that are left.
def bitsUsedInWord (numBits : Nat) : Nat := if i32 (numBits - 32) < 0 then numBits else 32

def zerosInWord (ls1b : BitVec 32) (zeros : Nat) : Nat := if ls1b = 0 then zeros else xvmemFindMsbit ls1b.toNat

-- The loop over the words behind the first one.
def leadingZeroWords (bitvec : Nat → BitVec 32) (zeroCount : BitVec 32) :
    (numRemWords : Nat) → (ls1b : BitVec 32) → (numBits wordIdx lzc : Nat) → Nat
  | 0, _, _, _, lzc => lzc
  | numRemWords + 1, ls1b, numBits, wordIdx, lzc =>
      if ls1b ≠ 0 then lzc
      else
        let w1 := bitvec (wordIdx + 1) ^^^ zeroCount
        let numBits := u32 (numBits - 32)
        let ls1b := w1 &&& -w1
        leadingZeroWords bitvec zeroCount numRemWords ls1b numBits (wordIdx + 1) (u32 (lzc + zerosInWord ls1b (bitsUsedInWord numBits)))

def leadingZeroCount (bitvec : Nat → BitVec 32) (numBits pos : Nat) (w zeroCount : BitVec 32) : Nat :=
  let wordIdx := pos / 32
  let wordOff := pos % 32
  let numRemBitsInWord := u32 (bitsUsedInWord numBits - wordOff)
  let ws := (w ^^^ zeroCount) >>> wordOff
  let ls1b := ws &&& -ws
  let numRemWords := u32 (u32 (numBits + 31) / 32 - (wordIdx + 1 : Nat))
  leadingZeroWords bitvec zeroCount numRemWords ls1b numBits wordIdx (zerosInWord ls1b numRemBitsInWord)

-- A mask of nbits ones. The shift by 32 is replaced by 0.
def toggleMask (nbits : Nat) : BitVec 32 := (if nbits = 32 then 0 else 1 <<< nbits) - 1

-- The loop over the words behind the first one takes a bit at least in each turn.
def toggleWords : (turns : Nat) → (bitvec : Nat → BitVec 32) → (wordIdx numBits : Nat) → Nat → BitVec 32
  | 0, bitvec, _, _ => bitvec
  | turns + 1, bitvec, wordIdx, numBits =>
      if numBits = 0 then bitvec
      else
        let nbits := if i32 (numBits - 32) < 0 then numBits else 32
        toggleWords turns (Function.update bitvec wordIdx (bitvec wordIdx ^^^ toggleMask nbits)) (wordIdx + 1) (numBits - nbits)

def xvmemToggleBitvec (bitvec : Nat → BitVec 32) (pos numBits : Nat) : Nat → BitVec 32 :=
  let wordIdx := pos / 32
  let wordOff := pos % 32
  let remBitsInWord := 32 - wordOff
  let nbits := if i32 (numBits - remBitsInWord) < 0 then numBits else remBitsInWord
  toggleWords numBits (Function.update bitvec wordIdx (bitvec wordIdx ^^^ toggleMask nbits <<< wordOff)) (wordIdx + 1) (numBits - nbits)

section Alloc

variable (mgr : XvmemMgr)

-- The first block of the free list that is big enough, behind the block before it.
-- The answer none means that a NULL pointer is followed.
def firstFit (size align : Nat) : (fuel : Nat) → (prev curr : XvmemNode) → Option (XvmemNode × XvmemNode)
  | 0, _, _ => none
  | fuel + 1, prev, curr =>
      if (mgr.nodes curr).blockSize < xvmemComputeNewSize (mgr.nodes curr) size align then
        (mgr.next curr).bind fun next => firstFit size align fuel curr next
      else some (prev, curr)

-- What is left of the block goes into a new one at its place in the free list.
def splitBlock (prev curr : XvmemNode) (newSize : Nat) : Option XvmemMgr :=
  let availBufIdx := leadingZeroCount mgr.blockFreeBitvec mgr.numBlocks 0 (mgr.blockFreeBitvec 0) 0
  if availBufIdx ≥ mgr.numBlocks then none
  else
    let block := mgr.nodes curr
    let rest := u32 (block.buffer + newSize)
    let mgr := { mgr with blockFreeBitvec := xvmemToggleBitvec mgr.blockFreeBitvec availBufIdx 1 }
    let mgr := mgr.setNode (.block availBufIdx) fun _ => ⟨block.nextBlock, u32 (block.blockSize - newSize), rest, rest⟩
    let mgr := mgr.setNode curr fun block => { block with blockSize := newSize }
    some (mgr.setNext prev (some (.block availBufIdx)))

-- The block becomes the first one of the allocated list.
def takeBlock (curr : XvmemNode) : XvmemMgr :=
  let mgr := mgr.setNext curr (mgr.next .allocListHead)
  let mgr := mgr.setNext .allocListHead (some curr)
  { mgr with
      freeBytes := u32 (mgr.freeBytes - (mgr.nodes curr).blockSize),
      allocatedBytes := u32 (mgr.allocatedBytes + (mgr.nodes curr).blockSize) }

def xvmemAlloc (size align : Nat) : Option (XvmemMgr × Option Nat × XvmemStatus) :=
  if align &&& u32 (align - 1) ≠ 0 then some (mgr, none, .illegalAlign)
  else
    ((mgr.next .freeListHead).bind fun first => firstFit mgr size align (mgr.numBlocks + 1) .freeListHead first).map fun found =>
      let (prev, curr) := found
      if curr = .freeListTail then (mgr, none, .allocFailed)
      else
        let newSize := xvmemComputeNewSize (mgr.nodes curr) size align
        let aligned := u32 ((mgr.nodes curr).buffer + u32 (newSize - size))
        let mgr := mgr.setNode curr fun block => { block with alignedBuffer := aligned }
        let mgr := { mgr with unusedBytes := u32 (mgr.unusedBytes + u32 (newSize - size)) }
        if u32 ((mgr.nodes curr).blockSize - newSize) > heap3MinAllocSize then
          match splitBlock mgr prev curr newSize with
          | none => (mgr, none, .allocFailed)
          | some mgr => (takeBlock mgr curr, some aligned, .ok)
        else (takeBlock (mgr.setNext prev (mgr.next curr)) curr, some aligned, .ok)

-- The place of a block in the free list, which is kept in the order of the buffers.
def findPlace (buffer : Nat) : (fuel : Nat) → (block : XvmemNode) → Option (XvmemNode × XvmemNode)
  | 0, _ => none
  | fuel + 1, block =>
      (mgr.next block).bind fun next => if (mgr.nodes next).buffer < buffer then findPlace buffer fuel next else some (block, next)

-- The block of the array is free for another buffer.
def dropBlock : XvmemNode → XvmemMgr
  | .block index => { mgr with blockFreeBitvec := xvmemToggleBitvec mgr.blockFreeBitvec index 1 }
  | .freeListHead | .freeListTail | .allocListHead => mgr

def touches (block behind : XvmemNode) : Bool :=
  u32 ((mgr.nodes block).buffer + (mgr.nodes block).blockSize) = (mgr.nodes behind).buffer

def growBlock (block : XvmemNode) (size : Nat) : XvmemMgr :=
  mgr.setNode block fun old => { old with blockSize := u32 (old.blockSize + size) }

def xvmemAddBlockToFreeList (newBlock : XvmemNode) : Option XvmemMgr :=
  (findPlace mgr (mgr.nodes newBlock).buffer (mgr.numBlocks + 1) .freeListHead).map fun place =>
    let (block, next) := place
    let mergeWithPrev := block ≠ .freeListHead && touches mgr block newBlock
    let mgr := if mergeWithPrev then dropBlock (growBlock mgr block (mgr.nodes newBlock).blockSize) newBlock else mgr
    let local_ := if mergeWithPrev then block else newBlock
    let mergeWithNext := next ≠ .freeListTail && touches mgr local_ next
    if mergeWithNext then
      let mgr := growBlock (dropBlock mgr next) local_ (mgr.nodes next).blockSize
      let mgr := mgr.setNext local_ (mgr.next next)
      if mergeWithPrev then mgr else mgr.setNext block (some local_)
    else if mergeWithPrev then mgr
    else (mgr.setNext local_ (some next)).setNext block (some local_)

-- The block of the allocated list that holds the buffer, behind the block before it.
def findAllocated (p : Nat) : (fuel : Nat) → (prev : XvmemNode) → Option (Option (XvmemNode × XvmemNode))
  | 0, _ => none
  | fuel + 1, prev =>
      match mgr.next prev with
      | none => some none
      | some block => if (mgr.nodes block).alignedBuffer = p then some (some (prev, block)) else findAllocated p fuel block

def xvmemFree (p : Nat) : Option XvmemMgr :=
  if p = 0 then some mgr
  else
    (findAllocated mgr p (mgr.numBlocks + 1) .allocListHead).bind fun found =>
      match found with
      | none => some mgr
      | some (prev, block) =>
          let mgr := mgr.setNext prev (mgr.next block)
          let size := (mgr.nodes block).blockSize
          let mgr := { mgr with
            freeBytes := u32 (mgr.freeBytes + size),
            allocatedBytes := u32 (mgr.allocatedBytes - size),
            unusedBytes := u32 (mgr.unusedBytes - ((mgr.nodes block).buffer - (mgr.nodes block).alignedBuffer)) }
          xvmemAddBlockToFreeList mgr block

end Alloc

end CsiDsp
