import CsiDsp.Base.Tiling
import CsiDsp.BufUpdate
import CsiDsp.DmaCopy
import Mathlib.Data.List.Forall2
import Mathlib.Data.List.TakeWhile

set_option autoImplicit false

namespace CsiDsp

open CInt Tiling

-- One turn of a copy loop: through the local buffer and on, with the bytes that
-- the two transfers are asked for, and whether they have moved them.
structure DmaChunk where
  src : UInt64
  via : UInt64
  dst : UInt64
  loaded : UInt32
  stored : UInt32
  moved : Bool
deriving DecidableEq, Repr

-- The variables of the two copy loops, which are ints.
def fragmentSize (total limit : Nat) : Int := i32 (total % limit : Nat)

def loopNum (total limit : Nat) : Int :=
  if fragmentSize total limit ≠ 0 then i32 (i32 (total / limit : Nat) + 1) else i32 (total / limit : Nat)

def loopSize (total limit loop : Nat) : UInt32 :=
  UInt32.ofNat (u32 (if (loop : Int) = loopNum total limit - 1 ∧ fragmentSize total limit ≠ 0 then fragmentSize total limit else i32 limit))

def loopOffset (limit loop : Nat) : UInt64 := UInt64.ofNat (u64 (i32 (i32 limit * loop)))

def chunkAt (carry : UInt32 → UInt32) (src dst via : UInt64) (total limit : Nat) (moves : Nat → Bool) (loop : Nat) : DmaChunk where
  src := src + loopOffset limit loop
  via := via
  dst := dst + loopOffset limit loop
  loaded := carry (loopSize total limit loop)
  stored := carry (loopSize total limit loop)
  moved := moves loop

def copyLoop (carry : UInt32 → UInt32) (src dst via : UInt64) (total limit : Nat) (moves : Nat → Bool) : List DmaChunk :=
  (List.range (loopNum total limit).toNat).map (chunkAt carry src dst via total limit moves)

-- sizeof(image_in_char_tdma0)
def tcmSize : Nat := 51200

-- The bytes that load and store are left with for one row of that size.
def rowBytes (size : UInt32) : UInt32 := (DmaRequest.mk 0 0 size size 1 size).descriptor.bytes

structure AlgoExtra where
  reportBuf : UInt32
  reportBufSize : UInt16
  frameMeta : FrameMeta
deriving DecidableEq, Repr

-- csi_dsp_algo_param_t. The settings are those behind set_buf_ptr, if there are any.
structure AlgoCall where
  bufferNum : UInt32
  bufs : Nat → AlgoBuffer
  setBuf : Option (List UInt8)
  extra : Option AlgoExtra

-- cb_args_t, with the settings that were looped back. Its size is 48.
structure CbArgs where
  libName : String
  setting : Option (List UInt8)
  frameMeta : FrameMeta
deriving DecidableEq, Repr

structure DummyResult where
  ret : Int
  planes : List (List DmaChunk)
  report : Option CbArgs

-- There are three planes. What lies behind them reads as empty here.
def planeAt (buffer : AlgoBuffer) (index : Nat) : CsiDspPlane :=
  if inside : index < 3 then buffer.planes ⟨index, inside⟩ else ⟨0, 0, 0, 0, 0⟩

def dummyReport (param : AlgoCall) : Option CbArgs :=
  param.extra.bind fun extra =>
    if extra.reportBuf ≠ 0 ∧ 48 ≤ extra.reportBufSize.toNat then
      some ⟨"lib", param.setBuf.map (List.take 16), extra.frameMeta⟩
    else none

-- The answers of the transfers are not looked at.
def dspDummyAlgo (tcm : UInt64) (moves : Nat → Nat → Bool) (param : Option AlgoCall) : DummyResult :=
  match param with
  | none => ⟨-1, [], none⟩
  | some param =>
      if param.bufferNum < 2 then ⟨-1, [], none⟩
      else
        let first := param.bufs 0
        let second := param.bufs 1
        ⟨0, (List.range first.planeCount.toNat).map fun index =>
          copyLoop rowBytes (planeAt first index).bufPhy (planeAt second index).bufPhy (tcm &&& 0xffffffff)
            (planeAt first index).size.toNat tcmSize (moves index), dummyReport param⟩

-- The turns up to the first task that cannot be scheduled.
def scheduledChunks (schedule : Nat → Bool) (chunks : List DmaChunk) : List DmaChunk :=
  chunks.take ((List.range chunks.length).takeWhile schedule).length

-- The result none is a division by zero. A task that has been scheduled is waited for.
def idmaCopyExt2ext (schedule : Nat → Bool) (src dst : UInt64) (blockSize tempBuffer bufferSize : UInt32) :
    Option (Int × List DmaChunk) :=
  if bufferSize = 0 then none
  else
    let chunks := copyLoop id src dst tempBuffer.toUInt64 blockSize.toNat bufferSize.toNat fun _ => true
    let done := scheduledChunks schedule chunks
    some (if done.length = chunks.length then 0 else -1, done)

-- A turn copies a block to its own offset, within the room of the destination.
structure ChunkMoves (src dst : UInt64) (room limit : Nat) (chunk : DmaChunk) (block : Block) : Prop where
  read : chunk.src = src + UInt64.ofNat block.offset
  written : chunk.dst = dst + UInt64.ofNat block.offset
  loaded : chunk.loaded.toNat = block.size
  stored : chunk.stored.toNat = block.size
  short : block.size ≤ limit
  inside : block.offset + block.size ≤ room
  moved : chunk.moved = true

def PlaneCopied (src dst : UInt64) (total room limit : Nat) (chunks : List DmaChunk) : Prop :=
  ∃ blocks, Consecutive 0 blocks total ∧ List.Forall₂ (ChunkMoves src dst room limit) chunks blocks

theorem chunk_of_block (src dst : UInt64) (room limit : Nat) (chunks : List DmaChunk) (blocks : List Block)
    (each : List.Forall₂ (ChunkMoves src dst room limit) chunks blocks) (block : Block) (member : block ∈ blocks) :
    ∃ chunk ∈ chunks, ChunkMoves src dst room limit chunk block := by
  induction each with
  | nil => cases member
  | cons moves rest ih =>
      rcases List.mem_cons.mp member with rfl | inRest
      · exact ⟨_, List.mem_cons_self, moves⟩
      · obtain ⟨chunk, among, found⟩ := ih inRest
        exact ⟨chunk, List.mem_cons_of_mem _ among, found⟩

-- Each byte is copied by a turn to its own place.
theorem plane_copied_bytes (src dst : UInt64) (total room limit : Nat) (chunks : List DmaChunk)
    (copied : PlaneCopied src dst total room limit chunks) (place : Nat) (below : place < total) :
    ∃ chunk ∈ chunks, ∃ offset, chunk.moved = true ∧ chunk.src = src + UInt64.ofNat offset ∧ chunk.dst = dst + UInt64.ofNat offset ∧
      offset ≤ place ∧ place < offset + chunk.stored.toNat := by
  obtain ⟨blocks, tiled, each⟩ := copied
  obtain ⟨block, ⟨member, low, high⟩, -⟩ := consecutive_once 0 total blocks tiled place (Nat.zero_le place) below
  obtain ⟨chunk, among, moves⟩ := chunk_of_block src dst room limit chunks blocks each block member
  exact ⟨chunk, among, block.offset, moves.moved, moves.read, moves.written, low, moves.stored ▸ high⟩

theorem i32_value (value : Nat) (bound : value < 4294967296) :
    i32 value = if value < 2147483648 then (value : Int) else (value : Int) - 4294967296 := by
  split
  case isTrue low => exact i32_fits value low
  case isFalse high =>
    rw [i32, wrapS, Int.bmod_def]
    have rest : (value : Int) % ((2 ^ 32 : Nat) : Int) = value := Int.emod_eq_of_lt (by omega) (by omega)
    rw [rest, if_neg (by omega)]
    rfl

theorem u32_i32 (value : Nat) (bound : value < 4294967296) : u32 (i32 value) = value := by
  rw [i32_value value bound, u32, wrapU]
  split
  · omega
  · omega

theorem i32_zero (value : Nat) (bound : value < 4294967296) : i32 value = 0 ↔ value = 0 := by
  rw [i32_value value bound]
  split
  · omega
  · omega

section Arithmetic

variable (total limit : Nat) (positive : 0 < limit) (small : limit < 4294967296) (bounded : total < 4294967296)

include positive bounded

theorem fragment_zero : fragmentSize total limit = 0 ↔ total % limit = 0 := by
  have below := Nat.mod_lt total positive
  have less := Nat.mod_le total limit
  exact i32_zero _ (by omega)

theorem loop_num_value : loopNum total limit = i32 (blockCount total limit) ∧ blockCount total limit < 4294967296 := by
  have quotient : total / limit ≤ total := Nat.div_le_self total limit
  by_cases whole : total % limit = 0
  · rw [loopNum, if_neg (not_not_intro ((fragment_zero total limit positive bounded).mpr whole)), block_count_whole total limit whole]
    exact ⟨rfl, by omega⟩
  · rw [loopNum, if_pos (fun zero => whole ((fragment_zero total limit positive bounded).mp zero)), block_count_rest total limit whole]
    constructor
    · rw [i32, i32, i32, wrapS, wrapS, wrapS, Int.bmod_add_bmod, Int.natCast_add, Int.natCast_one]
    · have more : 1 < limit := by
        by_contra one
        have same : limit = 1 := by omega
        exact whole (same ▸ Nat.mod_one total)
      have halved : total / limit ≤ total / 2 := Nat.div_le_div_left more (by decide)
      omega

theorem loop_num_turns : (loopNum total limit).toNat = if blockCount total limit < 2147483648 then blockCount total limit else 0 := by
  obtain ⟨value, bound⟩ := loop_num_value total limit positive bounded
  rw [value, i32_value _ bound]
  split
  · omega
  · omega

include small

theorem loop_size_value (few : blockCount total limit < 2147483648) (loop : Nat) :
    (loopSize total limit loop).toNat = blockSize total limit loop := by
  obtain ⟨value, bound⟩ := loop_num_value total limit positive bounded
  rw [i32_value _ bound, if_pos few] at value
  have below := Nat.mod_lt total positive
  have last : (loop : Int) = loopNum total limit - 1 ∧ fragmentSize total limit ≠ 0 ↔
      loop + 1 = blockCount total limit ∧ total % limit ≠ 0 := by
    rw [value, ne_eq, fragment_zero total limit positive bounded]
    omega
  have word : UInt32.size = 4294967296 := rfl
  rw [loopSize, blockSize]
  by_cases atLast : loop + 1 = blockCount total limit ∧ total % limit ≠ 0
  · rw [if_pos (last.mpr atLast), if_pos atLast, fragmentSize, u32_i32 _ (by omega)]
    exact UInt32.toNat_ofNat_of_lt' (by rw [word]; omega)
  · rw [if_neg (fun held => atLast (last.mp held)), if_neg atLast, u32_i32 _ small]
    exact UInt32.toNat_ofNat_of_lt' small

end Arithmetic

-- An offset of 2 ^ 31 or more comes out 2 ^ 32 too low.
theorem loop_offset_exact (limit loop : Nat) (bound : limit * loop < 4294967296) :
    loopOffset limit loop = UInt64.ofNat (limit * loop) ↔ limit * loop < 2147483648 := by
  have product : i32 (i32 limit * loop) = i32 ((limit * loop : Nat) : Int) := by
    rw [i32, i32, i32, wrapS, wrapS, wrapS, Int.bmod_mul_bmod, Int.natCast_mul]
  rw [loopOffset, product, i32_value _ bound, ← UInt64.toNat_inj]
  have right : (UInt64.ofNat (limit * loop)).toNat = limit * loop := UInt64.toNat_ofNat_of_lt' (by rw [UInt64.size]; omega)
  rw [right, UInt64.toNat_ofNat', u64, wrapU]
  split
  · omega
  · omega

section Copied

variable (carry : UInt32 → UInt32) (src dst via : UInt64) (total limit room : Nat) (moves : Nat → Bool) (positive : 0 < limit)
  (small : limit < 4294967296) (bounded : total < 4294967296)
  (carried : ∀ size : UInt32, size.toNat ≤ limit → (carry size).toNat = size.toNat)

include positive small bounded carried

theorem carried_size (few : blockCount total limit < 2147483648) (loop : Nat) :
    (carry (loopSize total limit loop)).toNat = blockSize total limit loop := by
  have value := loop_size_value total limit positive small bounded few loop
  rw [carried _ (value ▸ block_size_le total limit positive loop), value]

-- The sizes leave one choice of blocks.
theorem plane_copied_each (few : blockCount total limit < 2147483648) :
    PlaneCopied src dst total room limit (copyLoop carry src dst via total limit moves) ↔
      ∀ loop < blockCount total limit, ChunkMoves src dst room limit (chunkAt carry src dst via total limit moves loop)
        (blockAt total limit loop) := by
  have turns : (loopNum total limit).toNat = blockCount total limit := by
    rw [loop_num_turns total limit positive bounded, if_pos few]
  rw [PlaneCopied, copyLoop, turns]
  constructor
  · rintro ⟨list, tiled, each⟩
    have sizes : (blocks total limit).map Block.size = list.map Block.size := by
      rw [blocks, List.map_map, ← List.forall₂_eq_eq_eq, List.forall₂_map_right_iff, List.forall₂_map_left_iff]
      refine (List.forall₂_map_left_iff.mp each).imp fun loop block moved => ?_
      exact (carried_size carry total limit positive small bounded carried few loop).symm.trans moved.loaded
    obtain ⟨rfl, -⟩ := consecutive_sizes 0 total total _ list (blocks_consecutive total limit positive) tiled sizes
    rw [blocks, List.forall₂_map_left_iff, List.forall₂_map_right_iff, List.forall₂_same] at each
    exact fun loop below => each loop (List.mem_range.mpr below)
  · intro each
    refine ⟨blocks total limit, blocks_consecutive total limit positive, ?_⟩
    rw [blocks, List.forall₂_map_left_iff, List.forall₂_map_right_iff, List.forall₂_same]
    exact fun loop member => each loop (List.mem_range.mp member)

theorem chunk_moves_iff (few : blockCount total limit < 2147483648) (loop : Nat) (below : loop < blockCount total limit) :
    ChunkMoves src dst room limit (chunkAt carry src dst via total limit moves loop) (blockAt total limit loop) ↔
      limit * loop < 2147483648 ∧ limit * loop + blockSize total limit loop ≤ room ∧ moves loop = true := by
  have start : limit * loop < total :=
    Nat.lt_of_lt_of_le (Nat.lt_add_of_pos_right (block_size_pos total limit positive loop)) (block_inside total limit positive loop below)
  have exact_ := loop_offset_exact limit loop (Nat.lt_trans start bounded)
  have size := carried_size carry total limit positive small bounded carried few loop
  constructor
  · intro copied
    exact ⟨exact_.mp ((UInt64.add_right_inj src).mp copied.read), copied.inside, copied.moved⟩
  · rintro ⟨low, inside, moved⟩
    have offset := exact_.mpr low
    exact ⟨congrArg (src + ·) offset, congrArg (dst + ·) offset, size, size, block_size_le total limit positive loop, inside, moved⟩

-- The copy is right as long as its last offset fits an int and all transfers are done.
theorem plane_copied_iff : PlaneCopied src dst total room limit (copyLoop carry src dst via total limit moves) ↔
    blockCount total limit < 2147483648 ∧ limit * (blockCount total limit - 1) < 2147483648 ∧ total ≤ room ∧
      ∀ loop < blockCount total limit, moves loop = true := by
  by_cases few : blockCount total limit < 2147483648
  · rw [plane_copied_each carry src dst via total limit room moves positive small bounded carried few, and_iff_right few]
    have each (loop : Nat) (below : loop < blockCount total limit) :=
      chunk_moves_iff carry src dst via total limit room moves positive small bounded carried few loop below
    constructor
    · intro copied
      have moved (loop : Nat) (below : loop < blockCount total limit) := (each loop below).mp (copied loop below)
      rcases Nat.eq_zero_or_pos (blockCount total limit) with none_ | some_
      · rw [none_, block_count_zero total limit none_]
        exact ⟨by rw [Nat.zero_sub, Nat.mul_zero]; decide, Nat.zero_le room, fun loop below => absurd below (Nat.not_lt_zero loop)⟩
      · obtain ⟨low, inside, -⟩ := moved (blockCount total limit - 1) (Nat.sub_one_lt_of_lt some_)
        rw [last_block_stop total limit _ (Nat.sub_one_add_one_eq_of_pos some_)] at inside
        exact ⟨low, inside, fun loop below => (moved loop below).2.2⟩
    · rintro ⟨last, fits, moved⟩ loop below
      refine (each loop below).mpr ⟨?_, ?_, moved loop below⟩
      · exact Nat.lt_of_le_of_lt (Nat.mul_le_mul_left limit (Nat.le_sub_one_of_lt below)) last
      · exact Nat.le_trans (block_inside total limit positive loop below) fits
  · refine iff_of_false ?_ fun held => few held.1
    rintro ⟨list, tiled, each⟩
    rw [copyLoop, loop_num_turns total limit positive bounded, if_neg few] at each
    cases each
    exact few ((show total = 0 from tiled.symm) ▸ (by rw [blockCount, Nat.zero_div, Nat.zero_mod]; decide))

end Copied

theorem row_bytes_value (size : UInt32) (short : size.toNat ≤ tcmSize) : (rowBytes size).toNat = size.toNat := by
  have limit : tcmSize = 51200 := rfl
  have row := dma_row_value size size (by omega)
  have bytes : rowBytes size = dmaRow size size := UInt32.mul_one _
  rw [bytes, row]
  omega

def planeRoom (buffer : AlgoBuffer) (index : Nat) : Nat := if index < buffer.planeCount.toNat then (planeAt buffer index).size.toNat else 0

-- Plane by plane, the first buffer is copied to the second. Where a plane that
-- is written lies over one that is read, nothing is said about the bytes.
def PlanesCopied (param : AlgoCall) (planes : List (List DmaChunk)) : Prop :=
  planes.length = (param.bufs 0).planeCount.toNat ∧ ∀ index chunks, planes[index]? = some chunks →
    PlaneCopied (planeAt (param.bufs 0) index).bufPhy (planeAt (param.bufs 1) index).bufPhy (planeAt (param.bufs 0) index).size.toNat
      (planeRoom (param.bufs 1) index) tcmSize chunks

-- 41944 chunks of the local buffer is what an int can address.
def PlaneFits (moves : Nat → Nat → Bool) (param : AlgoCall) (index : Nat) : Prop :=
  (planeAt (param.bufs 0) index).size.toNat ≤ 2147532800 ∧
    (planeAt (param.bufs 0) index).size.toNat ≤ planeRoom (param.bufs 1) index ∧
    ∀ loop < blockCount (planeAt (param.bufs 0) index).size.toNat tcmSize, moves index loop = true

theorem tcm_positive : 0 < tcmSize := by
  rw [tcmSize]
  omega

theorem tcm_small : tcmSize < 4294967296 := by
  rw [tcmSize]
  omega

theorem tcm_blocks_fit (total : Nat) (bounded : total < 4294967296) :
    blockCount total tcmSize < 2147483648 ∧ tcmSize * (blockCount total tcmSize - 1) < 2147483648 ↔ total ≤ 2147532800 := by
  rw [tcmSize]
  by_cases whole : total % 51200 = 0
  · rw [block_count_whole total 51200 whole]
    omega
  · rw [block_count_rest total 51200 whole]
    omega

theorem dummy_planes_copied (tcm : UInt64) (moves : Nat → Nat → Bool) (param : AlgoCall) (two : ¬ param.bufferNum < 2) :
    PlanesCopied param (dspDummyAlgo tcm moves (some param)).planes ↔
      ∀ index < (param.bufs 0).planeCount.toNat, PlaneFits moves param index := by
  have planes : (dspDummyAlgo tcm moves (some param)).planes = (List.range (param.bufs 0).planeCount.toNat).map fun index =>
      copyLoop rowBytes (planeAt (param.bufs 0) index).bufPhy (planeAt (param.bufs 1) index).bufPhy (tcm &&& 0xffffffff)
        (planeAt (param.bufs 0) index).size.toNat tcmSize (moves index) := by
    rw [dspDummyAlgo, if_neg two]
  have each (index : Nat) := plane_copied_iff rowBytes (planeAt (param.bufs 0) index).bufPhy (planeAt (param.bufs 1) index).bufPhy
    (tcm &&& 0xffffffff) (planeAt (param.bufs 0) index).size.toNat tcmSize (planeRoom (param.bufs 1) index) (moves index) tcm_positive
    tcm_small (planeAt (param.bufs 0) index).size.toNat_lt row_bytes_value
  have fits (index : Nat) := tcm_blocks_fit (planeAt (param.bufs 0) index).size.toNat (planeAt (param.bufs 0) index).size.toNat_lt
  rw [PlanesCopied, planes, List.length_map, List.length_range, and_iff_right rfl]
  constructor
  · intro copied index below
    obtain ⟨few, last, room, moved⟩ := (each index).mp (copied index _ (by rw [List.getElem?_map, List.getElem?_range below]; rfl))
    exact ⟨(fits index).mp ⟨few, last⟩, room, moved⟩
  · intro held index chunks present
    rw [List.getElem?_map, Option.map_eq_some_iff] at present
    obtain ⟨found, at_, rfl⟩ := present
    obtain ⟨below, value⟩ := List.getElem?_eq_some_iff.mp at_
    rw [List.getElem_range] at value
    rw [List.length_range] at below
    rw [← value]
    obtain ⟨size, room, moved⟩ := held index below
    obtain ⟨few, last⟩ := (fits _).mpr size
    exact (each _).mpr ⟨few, last, room, moved⟩

theorem scheduled_all (schedule : Nat → Bool) (chunks : List DmaChunk) :
    (scheduledChunks schedule chunks).length = chunks.length ↔ ∀ loop < chunks.length, schedule loop = true := by
  have prefix_ := List.takeWhile_prefix schedule (l := List.range chunks.length)
  have short : ((List.range chunks.length).takeWhile schedule).length ≤ chunks.length :=
    Nat.le_trans prefix_.length_le (Nat.le_of_eq List.length_range)
  rw [scheduledChunks, List.length_take, Nat.min_eq_left short]
  constructor
  · intro same loop below
    have whole := prefix_.eq_of_length (same.trans List.length_range.symm)
    exact List.takeWhile_eq_self_iff.mp whole loop (List.mem_range.mpr below)
  · intro all
    have whole := List.takeWhile_eq_self_iff.mpr fun loop member => all loop (List.mem_range.mp member)
    rw [whole, List.length_range]

theorem scheduled_chunks_all (schedule : Nat → Bool) (chunks : List DmaChunk)
    (all : (scheduledChunks schedule chunks).length = chunks.length) : scheduledChunks schedule chunks = chunks :=
  (List.take_prefix _ chunks).eq_of_length all

-- A block that is copied to the end is tiled.
def BlockTiled (src dst : UInt64) (blockSize bufferSize : UInt32) (result : Option (Int × List DmaChunk)) : Prop :=
  ∃ ret chunks, result = some (ret, chunks) ∧
    (ret = 0 → PlaneCopied src dst blockSize.toNat blockSize.toNat bufferSize.toNat chunks)

-- What an int can count and address, unless the task cannot be scheduled.
def BlockFits (schedule : Nat → Bool) (blockSize bufferSize : UInt32) : Prop :=
  bufferSize ≠ 0 ∧ blockCount blockSize.toNat bufferSize.toNat < 2147483648 ∧
    (bufferSize.toNat * (blockCount blockSize.toNat bufferSize.toNat - 1) < 2147483648 ∨
      ∃ loop < blockCount blockSize.toNat bufferSize.toNat, schedule loop = false)

theorem ext_tiled_iff (schedule : Nat → Bool) (src dst : UInt64) (blockSize tempBuffer bufferSize : UInt32) (nonzero : bufferSize ≠ 0) :
    BlockTiled src dst blockSize bufferSize (idmaCopyExt2ext schedule src dst blockSize tempBuffer bufferSize) ↔
      ((∀ loop < (copyLoop id src dst tempBuffer.toUInt64 blockSize.toNat bufferSize.toNat fun _ => true).length,
          schedule loop = true) →
        PlaneCopied src dst blockSize.toNat blockSize.toNat bufferSize.toNat
          (copyLoop id src dst tempBuffer.toUInt64 blockSize.toNat bufferSize.toNat fun _ => true)) := by
  rw [idmaCopyExt2ext, if_neg nonzero, ← scheduled_all, BlockTiled]
  constructor
  · rintro ⟨ret, done, given, tiled⟩ all
    obtain ⟨rfl, rfl⟩ := Prod.mk.inj (Option.some.inj given)
    have copied := tiled (if_pos all)
    rwa [scheduled_chunks_all schedule _ all] at copied
  · intro tiled
    refine ⟨_, _, rfl, fun answered => ?_⟩
    split at answered
    case isTrue all =>
      rw [scheduled_chunks_all schedule _ all]
      exact tiled all
    case isFalse => cases answered

theorem block_tiled_iff (schedule : Nat → Bool) (src dst : UInt64) (blockSize tempBuffer bufferSize : UInt32) :
    BlockTiled src dst blockSize bufferSize (idmaCopyExt2ext schedule src dst blockSize tempBuffer bufferSize) ↔
      BlockFits schedule blockSize bufferSize := by
  by_cases zero : bufferSize = 0
  · rw [idmaCopyExt2ext, if_pos zero]
    refine iff_of_false ?_ fun fits => fits.1 zero
    rintro ⟨ret, chunks, given, -⟩
    cases given
  · have positive : 0 < bufferSize.toNat := Nat.pos_of_ne_zero fun none_ => zero (UInt32.toNat_inj.mp none_)
    have copied := plane_copied_iff id src dst tempBuffer.toUInt64 blockSize.toNat bufferSize.toNat blockSize.toNat (fun _ => true)
      positive bufferSize.toNat_lt blockSize.toNat_lt fun _ _ => rfl
    have turns : (copyLoop id src dst tempBuffer.toUInt64 blockSize.toNat bufferSize.toNat fun _ => true).length =
        if blockCount blockSize.toNat bufferSize.toNat < 2147483648 then blockCount blockSize.toNat bufferSize.toNat else 0 := by
      rw [← loop_num_turns _ _ positive blockSize.toNat_lt, copyLoop, List.length_map, List.length_range]
    rw [ext_tiled_iff schedule src dst blockSize tempBuffer bufferSize zero, copied, turns, BlockFits]
    by_cases few : blockCount blockSize.toNat bufferSize.toNat < 2147483648
    · rw [if_pos few]
      constructor
      · intro tiled
        refine ⟨zero, few, ?_⟩
        by_cases all : ∀ loop < blockCount blockSize.toNat bufferSize.toNat, schedule loop = true
        · exact .inl (tiled all).2.1
        · obtain ⟨loop, failed⟩ := not_forall.mp all
          obtain ⟨below, failed⟩ := Classical.not_imp.mp failed
          exact .inr ⟨loop, below, Bool.eq_false_iff.mpr failed⟩
      · rintro ⟨-, -, last | ⟨loop, below, failed⟩⟩ all
        · exact ⟨few, last, Nat.le_refl _, fun _ _ => rfl⟩
        · rw [all loop below] at failed
          cases failed
    · rw [if_neg few]
      exact iff_of_false (fun tiled => few (tiled fun loop below => absurd below (Nat.not_lt_zero loop)).1) fun fits => few fits.2.1

-- A copy that answers 0 has copied each plane, and the wrapper tiles its block, if
-- and only if the ints hold out, the second buffer has room, and no transfer fails.
theorem chunked_copy_exact (tcm : UInt64) (moves : Nat → Nat → Bool) (param : Option AlgoCall) (schedule : Nat → Bool)
    (src dst : UInt64) (blockSize tempBuffer bufferSize : UInt32) :
    ((∀ call ∈ param, (dspDummyAlgo tcm moves param).ret = 0 → PlanesCopied call (dspDummyAlgo tcm moves param).planes) ↔
        ∀ call ∈ param, ¬ call.bufferNum < 2 → ∀ index < (call.bufs 0).planeCount.toNat, PlaneFits moves call index) ∧
      (BlockTiled src dst blockSize bufferSize (idmaCopyExt2ext schedule src dst blockSize tempBuffer bufferSize) ↔
        BlockFits schedule blockSize bufferSize) := by
  refine ⟨?_, block_tiled_iff schedule src dst blockSize tempBuffer bufferSize⟩
  refine forall₂_congr fun call given => ?_
  cases Option.mem_def.mp given
  by_cases two : call.bufferNum < 2
  · have refused : (dspDummyAlgo tcm moves (some call)).ret = -1 := by rw [dspDummyAlgo, if_pos two]
    rw [refused]
    exact iff_of_true (fun zero => absurd zero (by decide)) fun many => absurd two many
  · have answered : (dspDummyAlgo tcm moves (some call)).ret = 0 := by rw [dspDummyAlgo, if_neg two]
    have copied := dummy_planes_copied tcm moves call two
    exact ⟨fun right _ => copied.mp (right answered), fun fits _ => copied.mpr (fits two)⟩

-- Two buffers with one plane of four bytes each.
def smallPlane (address : UInt64) : AlgoBuffer := { zeroAlgoBuffer with planeCount := 1, planes := fun _ => ⟨0, 4, 4, address, 0⟩ }

def smallCall : AlgoCall := ⟨2, fun slot => smallPlane (if slot = 0 then 0x1000 else 0x2000), none, none⟩

-- Its load fails, and the answer is 0.
theorem failed_copy_reported : ¬ ∀ (tcm : UInt64) (moves : Nat → Nat → Bool) (param : Option AlgoCall) (schedule : Nat → Bool)
    (src dst : UInt64) (blockSize tempBuffer bufferSize : UInt32),
    (∀ call ∈ param, (dspDummyAlgo tcm moves param).ret = 0 → PlanesCopied call (dspDummyAlgo tcm moves param).planes) ∧
      BlockTiled src dst blockSize bufferSize (idmaCopyExt2ext schedule src dst blockSize tempBuffer bufferSize) := by
  intro claim
  have copied := (claim 0 (fun _ _ => false) (some smallCall) (fun _ => true) 0 0 0 0 1).1 smallCall rfl rfl
  have fits := (dummy_planes_copied 0 (fun _ _ => false) smallCall (by decide)).mp copied 0 (by decide)
  exact Bool.false_ne_true (fits.2.2 0 (by decide))

end CsiDsp
