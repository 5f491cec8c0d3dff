import CsiDsp.IspCommon

set_option autoImplicit false

namespace CsiDsp

open CInt

-- An address plus a product of two 16-bit numbers, which C takes in an int.
theorem wide_address_exact (base product : Nat) (small : product < 4294967296) :
    u64 ((base : Int) + i32 (product : Nat)) = base + product ↔ product < 2147483648 ∧ base + product < 2 ^ 64 := by
  by_cases fits : product < 2147483648
  · rw [i32_fits product fits, ← Int.natCast_add, u64, wrapU]
    omega
  · have wrapped : i32 (product : Nat) = (product : Int) - 4294967296 := by
      rw [i32, wrapS, Int.bmod_def]
      omega
    rw [wrapped, u64, wrapU]
    omega

section EntrySplit

variable (handler : SispHandler) (lineNum : Nat) (list : SispBuffer × SispBuffer)

abbrev poppedFifo : Sfifo := handler.fifo.get handler.customerPingPongFlag

abbrev poppedInfo : SispControlInfo := handler.info.get handler.customerPingPongFlag

-- The FIFO of the consumer's side, with its numbers in the range of their types.
structure PopReady : Prop where
  depthPos : 1 ≤ (poppedFifo handler).depth
  depthMax : (poppedFifo handler).depth < 65536
  offsetPos : 0 ≤ (poppedFifo handler).offset
  offsetMax : (poppedFifo handler).offset < 32768
  ordered : (poppedFifo handler).head ≤ (poppedFifo handler).tail
  tailMax : (poppedFifo handler).tail < 65536
  bounded : (poppedFifo handler).tail - (poppedFifo handler).head ≤ (poppedFifo handler).depth
  lineMax : (poppedInfo handler).sizePerLine < 65536
  some_ : 1 ≤ lineNum
  stored : lineNum ≤ (poppedFifo handler).tail - (poppedFifo handler).head

def poppedLine (line : Nat) : Nat :=
  ((poppedFifo handler).head + (poppedFifo handler).offset.toNat + line) % (poppedFifo handler).depth

def poppedAddr (line : Nat) : Nat := (poppedInfo handler).frameBufferAddr + poppedLine handler line * (poppedInfo handler).sizePerLine

def lineAddrs (block : SispBuffer) : List Nat := (List.range block.lineNum).map fun line => block.startAddr + line * block.lineSize

def InsideRing (block : SispBuffer) : Prop :=
  block.lineNum = 0 ∨ (poppedInfo handler).frameBufferAddr ≤ block.startAddr ∧
    block.startAddr + block.size ≤
      (poppedInfo handler).frameBufferAddr + (poppedFifo handler).depth * (poppedInfo handler).sizePerLine

theorem line_addrs_first (block : SispBuffer) (lines : block.lineNum ≠ 0) : (lineAddrs block).head? = some block.startAddr := by
  rw [lineAddrs, List.head?_map, List.head?_range, if_neg lines, Option.map_some, Nat.zero_mul, Nat.add_zero]

structure SplitExact (blocks : SispBuffer × SispBuffer) : Prop where
  addresses : lineAddrs blocks.1 ++ lineAddrs blocks.2 = (List.range lineNum).map (poppedAddr handler)
  total : blocks.1.lineNum + blocks.2.lineNum = lineNum
  firstSize : blocks.1.size = blocks.1.lineNum * (poppedInfo handler).sizePerLine
  secondSize : blocks.2.size = blocks.2.lineNum * (poppedInfo handler).sizePerLine
  firstInside : InsideRing handler blocks.1
  secondInside : InsideRing handler blocks.2
  second : blocks.2.lineNum = 0 ↔ poppedLine handler 0 + lineNum ≤ (poppedFifo handler).depth

def EntrySplit : Prop := ∃ blocks, ispcGetEntryToPop handler lineNum list = some (blocks, true) ∧ SplitExact handler lineNum blocks

def startAddr : Nat :=
  u64 ((poppedInfo handler).frameBufferAddr + i32 (poppedLine handler 0 * (poppedInfo handler).sizePerLine : Nat))

-- The blocks as the source computes them, once its refusals are behind.
def splitBlocks : SispBuffer × SispBuffer :=
  let info := poppedInfo handler
  let upper := (poppedFifo handler).depth - poppedLine handler 0
  if poppedLine handler 0 + lineNum ≤ (poppedFifo handler).depth then
    (⟨info.format, lineNum, lineNum * info.sizePerLine, info.sizePerLine, startAddr handler⟩,
      { list.2 with lineNum := 0, startAddr := 0, size := 0 })
  else
    (⟨info.format, upper, upper * info.sizePerLine, info.sizePerLine, startAddr handler⟩,
      ⟨info.format, lineNum - upper, (lineNum - upper) * info.sizePerLine, info.sizePerLine, info.frameBufferAddr⟩)

def StartFits : Prop :=
  poppedLine handler 0 * (poppedInfo handler).sizePerLine < 2147483648 ∧ poppedAddr handler 0 < 2 ^ 64

section Ready

variable (ready : PopReady handler lineNum)

include ready

theorem popped_line_lt (line : Nat) : poppedLine handler line < (poppedFifo handler).depth := Nat.mod_lt _ ready.depthPos

theorem block_size_exact (lines : Nat) (few : lines < 65536) :
    u32 (lines * (poppedInfo handler).sizePerLine : Nat) = lines * (poppedInfo handler).sizePerLine := by
  have lineMax := ready.lineMax
  refine u32_fits _ ?_
  calc lines * (poppedInfo handler).sizePerLine ≤ 65535 * 65535 := Nat.mul_le_mul (by omega) (by omega)
    _ < 4294967296 := by decide

theorem entry_to_pop_split : ispcGetEntryToPop handler lineNum list = some (splitBlocks handler lineNum list, true) := by
  have depthMax := ready.depthMax
  have tailMax := ready.tailMax
  have stored := ready.stored
  have some_ := ready.some_
  have bounded := ready.bounded
  have below := popped_line_lt handler lineNum ready 0
  have frame : FrameFifo (poppedFifo handler) (poppedFifo handler).depth (poppedFifo handler).maxIndex
      (poppedFifo handler).offset.toNat (poppedFifo handler).head (poppedFifo handler).tail :=
    ⟨rfl, rfl, rfl, rfl, (Int.toNat_of_nonneg ready.offsetPos).symm⟩
  have filled : isEmptyFifo (poppedFifo handler) = false := by
    simp only [isEmptyFifo, beq_eq_false_iff_ne]
    omega
  have elements := frame_fifo_elements _ _ _ _ _ _ frame ready.ordered tailMax
  have enough : (decide (lineNum > (poppedFifo handler).depth) || decide (lineNum > getElementNumFifo (poppedFifo handler))) = false := by
    rw [elements, Bool.or_eq_false_iff, decide_eq_false_iff_not, decide_eq_false_iff_not]
    omega
  have start : getHeadFifo (poppedFifo handler) = some (poppedLine handler 0) := by
    rw [frame_fifo_head _ _ _ _ _ _ frame ready.depthPos (by omega), poppedLine, Nat.add_zero, Nat.add_comm]
  rw [ispcGetEntryToPop, if_neg (by rw [filled]; exact Bool.false_ne_true), if_neg (by rw [enough]; exact Bool.false_ne_true), start]
  simp only [Option.bind_eq_bind, Option.bind_some, ge_iff_le, splitBlocks, startAddr]
  by_cases whole : poppedLine handler 0 + lineNum ≤ (poppedFifo handler).depth
  · rw [if_pos whole, if_pos whole, block_size_exact handler lineNum ready lineNum (by omega)]
  · have upper : u16 (((poppedFifo handler).depth : Int) - (poppedLine handler 0 : Nat)) =
        (poppedFifo handler).depth - poppedLine handler 0 := by
      rw [← Int.ofNat_sub (by omega), u16_fits _ (by omega)]
    have lower : u16 ((lineNum : Int) - ((poppedFifo handler).depth - poppedLine handler 0 : Nat)) =
        lineNum - ((poppedFifo handler).depth - poppedLine handler 0) := by
      rw [← Int.ofNat_sub (by omega), u16_fits _ (by omega)]
    rw [if_neg whole, if_neg whole, upper, lower,
      block_size_exact handler lineNum ready _ (by omega), block_size_exact handler lineNum ready _ (by omega)]

theorem start_exact_iff : startAddr handler = poppedAddr handler 0 ↔ StartFits handler := by
  have below := popped_line_lt handler lineNum ready 0
  have depthMax := ready.depthMax
  have lineMax := ready.lineMax
  refine wide_address_exact _ _ ?_
  calc poppedLine handler 0 * (poppedInfo handler).sizePerLine ≤ 65535 * 65535 := Nat.mul_le_mul (by omega) (by omega)
    _ < 4294967296 := by decide

end Ready

theorem popped_line_from (line : Nat) : poppedLine handler line = (poppedLine handler 0 + line) % (poppedFifo handler).depth :=
  (Nat.mod_add_mod _ _ _).symm

theorem popped_addr_before (line : Nat) (before : poppedLine handler 0 + line < (poppedFifo handler).depth) :
    poppedAddr handler line = poppedAddr handler 0 + line * (poppedInfo handler).sizePerLine := by
  rw [poppedAddr, poppedAddr, popped_line_from, Nat.mod_eq_of_lt before, Nat.add_mul, Nat.add_assoc]

theorem popped_addr_behind (line : Nat) (below : poppedLine handler 0 < (poppedFifo handler).depth)
    (few : line < (poppedFifo handler).depth) (behind : (poppedFifo handler).depth ≤ poppedLine handler 0 + line) :
    poppedAddr handler line = (poppedInfo handler).frameBufferAddr +
      (line - ((poppedFifo handler).depth - poppedLine handler 0)) * (poppedInfo handler).sizePerLine := by
  have index : poppedLine handler line = line - ((poppedFifo handler).depth - poppedLine handler 0) := by
    rw [popped_line_from, Nat.mod_eq_sub_mod behind, Nat.mod_eq_of_lt (by omega)]
    omega
  rw [poppedAddr, index]

section Ready

variable (ready : PopReady handler lineNum)

include ready

theorem split_addresses_start (faithful : SplitExact handler lineNum (splitBlocks handler lineNum list)) : StartFits handler := by
  have some_ := ready.some_
  have below := popped_line_lt handler lineNum ready 0
  rw [← start_exact_iff handler lineNum ready]
  obtain ⟨lines, start⟩ : (splitBlocks handler lineNum list).1.lineNum ≠ 0 ∧
      (splitBlocks handler lineNum list).1.startAddr = startAddr handler := by
    by_cases whole : poppedLine handler 0 + lineNum ≤ (poppedFifo handler).depth
    · simp only [splitBlocks, if_pos whole, and_true]
      exact Nat.ne_of_gt some_
    · simp only [splitBlocks, if_neg whole, and_true]
      exact Nat.sub_ne_zero_of_lt below
  have first := congrArg List.head? faithful.addresses
  rw [List.head?_append, line_addrs_first _ lines, List.head?_map, List.head?_range, if_neg (by omega)] at first
  rw [← start]
  exact Option.some.inj first

theorem split_whole (fits : StartFits handler) (whole : poppedLine handler 0 + lineNum ≤ (poppedFifo handler).depth) :
    SplitExact handler lineNum (splitBlocks handler lineNum list) := by
  have start := (start_exact_iff handler lineNum ready).mpr fits
  rw [splitBlocks, if_pos whole, start]
  refine ⟨?_, rfl, rfl, (Nat.zero_mul _).symm, .inr ⟨Nat.le_add_right _ _, ?_⟩, .inl rfl, iff_of_true rfl whole⟩
  · rw [lineAddrs, lineAddrs, List.range_zero, List.map_nil, List.append_nil]
    refine List.map_congr_left fun line member => ?_
    have inside : line < lineNum := List.mem_range.mp member
    rw [popped_addr_before handler line (by omega)]
  · rw [poppedAddr, Nat.add_assoc, ← Nat.add_mul]
    exact Nat.add_le_add_left (Nat.mul_le_mul_right _ whole) _

theorem split_crossing (fits : StartFits handler) (crossing : (poppedFifo handler).depth < poppedLine handler 0 + lineNum) :
    SplitExact handler lineNum (splitBlocks handler lineNum list) := by
  have below := popped_line_lt handler lineNum ready 0
  have stored := ready.stored
  have bounded := ready.bounded
  have start := (start_exact_iff handler lineNum ready).mpr fits
  rw [splitBlocks, if_neg (Nat.not_le_of_gt crossing), start]
  have total : (poppedFifo handler).depth - poppedLine handler 0 +
      (lineNum - ((poppedFifo handler).depth - poppedLine handler 0)) = lineNum := by omega
  refine ⟨?_, total, rfl, rfl, .inr ⟨Nat.le_add_right _ _, ?_⟩, .inr ⟨Nat.le_refl _, ?_⟩, ?_⟩
  · have ranges := @List.range_add ((poppedFifo handler).depth - poppedLine handler 0)
      (lineNum - ((poppedFifo handler).depth - poppedLine handler 0))
    rw [total] at ranges
    rw [ranges, List.map_append, List.map_map, lineAddrs, lineAddrs]
    refine congrArg₂ _ (List.map_congr_left fun line member => ?_) (List.map_congr_left fun line member => ?_)
    · have inside : line < (poppedFifo handler).depth - poppedLine handler 0 := List.mem_range.mp member
      rw [popped_addr_before handler line (by omega)]
    · have inside : line < lineNum - ((poppedFifo handler).depth - poppedLine handler 0) := List.mem_range.mp member
      rw [Function.comp_apply, popped_addr_behind handler ((poppedFifo handler).depth - poppedLine handler 0 + line) below
        (by omega) (by omega), Nat.add_sub_cancel_left]
  · rw [poppedAddr, Nat.add_assoc, ← Nat.add_mul]
    exact Nat.add_le_add_left (Nat.mul_le_mul_right _ (by omega)) _
  · exact Nat.add_le_add_left (Nat.mul_le_mul_right _ (by omega)) _
  · exact iff_of_false (by dsimp only; omega) (Nat.not_le_of_gt crossing)

end Ready

-- The split is exact if and only if the address of its first line comes out of
-- the multiplication in an int.
theorem entry_split_exact (ready : PopReady handler lineNum) : EntrySplit handler lineNum list ↔ StartFits handler := by
  have given := entry_to_pop_split handler lineNum list ready
  constructor
  · rintro ⟨blocks, answered, faithful⟩
    cases given.symm.trans answered
    exact split_addresses_start handler lineNum list ready faithful
  · intro fits
    refine ⟨_, given, ?_⟩
    rcases Nat.lt_or_ge (poppedFifo handler).depth (poppedLine handler 0 + lineNum) with crossing | whole
    · exact split_crossing handler lineNum list ready fits crossing
    · exact split_whole handler lineNum list ready fits whole

end EntrySplit

-- A ring of depth lines, of which four are held.
def fourLinesHeld (depth head sizePerLine : Nat) : SispHandler := { zeroHandler 0 with
  info := (PingPong.const zeroControlInfo).set false ⟨4, 8, 4, sizePerLine, depth, 8, 0, 0x1000⟩
  fifo := (PingPong.const (resetFifo 0 0 0)).set false ⟨head, head + 4, depth, head + 8, 0, .empty⟩ }

theorem pop_ready_four (depth head sizePerLine : Nat) (deep : 4 ≤ depth) (depthMax : depth < 65536) (headMax : head < 65532)
    (lineMax : sizePerLine < 65536) : PopReady (fourLinesHeld depth head sizePerLine) 4 :=
  ⟨Nat.le_trans (by decide) deep, depthMax, Int.le_refl 0, show (0 : Int) < 32768 by decide, Nat.le_add_right head 4,
    show head + 4 < 65536 by omega, show head + 4 - head ≤ depth by omega, lineMax, by decide, show 4 ≤ head + 4 - head by omega⟩

theorem entry_split_exact_crossing : EntrySplit (fourLinesHeld 10 8 64) 4 (⟨0, 0, 0, 0, 0⟩, ⟨0, 0, 0, 0, 0⟩) :=
  (entry_split_exact _ 4 _ (pop_ready_four 10 8 64 (by decide) (by decide) (by decide) (by decide))).mpr ⟨by decide, by decide⟩

-- In a ring of 40000 lines of 65535 bytes, line 32769 lies over 2 ^ 31.
theorem entry_split_wraps : ¬ ∀ (handler : SispHandler) (lineNum : Nat) (list : SispBuffer × SispBuffer),
    PopReady handler lineNum → EntrySplit handler lineNum list := by
  intro claim
  have ready := pop_ready_four 40000 32769 65535 (by decide) (by decide) (by decide) (by decide)
  obtain ⟨blocks, answered, faithful⟩ := claim _ 4 (⟨0, 0, 0, 0, 0⟩, ⟨0, 0, 0, 0, 0⟩) ready
  cases (entry_to_pop_split _ 4 _ ready).symm.trans answered
  exact absurd (split_addresses_start _ 4 _ ready faithful).1 (by decide)

end CsiDsp
