import CsiDsp.BlockHeap

set_option autoImplicit false

namespace CsiDsp

open CInt BitArray Regions Segment

section Search

variable (mgr : XvmemMgr) (size exponent : Nat)

-- The block has room for the size behind the next aligned address.
def Fits (index : Nat) : Prop := size + padding (mgr.region index).start (2 ^ exponent) ≤ (mgr.region index).size

instance (index : Nat) : Decidable (Fits mgr size exponent index) := inferInstanceAs (Decidable (_ ≤ _))

theorem first_fit_step (room : size + 2 ^ exponent ≤ 4294967296) (fuel : Nat) (prev : XvmemNode) (index : Nat)
    (low : (mgr.region index).start < 4294967296) : firstFit mgr size (2 ^ exponent) (fuel + 1) prev (.block index) =
      if Fits mgr size exponent index then some (prev, .block index)
      else (mgr.next (.block index)).bind fun next => firstFit mgr size (2 ^ exponent) fuel (.block index) next := by
  have wanted : xvmemComputeNewSize (mgr.nodes (.block index)) size (2 ^ exponent) =
      size + padding (mgr.region index).start (2 ^ exponent) := compute_new_size_value _ size exponent low room
  have same : (mgr.nodes (.block index)).blockSize = (mgr.region index).size := rfl
  rw [firstFit, wanted, same]
  by_cases fits : Fits mgr size exponent index
  · rw [if_pos fits, if_neg (Nat.not_lt.mpr fits)]
  · rw [if_neg fits, if_pos (Nat.lt_of_not_le fits)]

theorem first_fit_tail (room : size + 2 ^ exponent ≤ 4294967296)
    (tail : (mgr.nodes .freeListTail).buffer = 0xffffffff ∧ (mgr.nodes .freeListTail).blockSize = 0xffffffff)
    (fuel : Nat) (prev : XvmemNode) : firstFit mgr size (2 ^ exponent) (fuel + 1) prev .freeListTail = some (prev, .freeListTail) := by
  have less := padding_lt 0xffffffff (2 ^ exponent) (Nat.two_pow_pos exponent)
  have wanted := compute_new_size_value (mgr.nodes .freeListTail) size exponent (by rw [tail.1]; omega) room
  rw [tail.1] at wanted
  rw [firstFit, wanted, tail.2, if_neg (by omega)]

-- The search ends at the first block that fits, or behind the last one.
theorem first_fit_outcome (room : size + 2 ^ exponent ≤ 4294967296)
    (tail : (mgr.nodes .freeListTail).buffer = 0xffffffff ∧ (mgr.nodes .freeListTail).blockSize = 0xffffffff)
    (fuel : Nat) (prev curr : XvmemNode) (rest : List Nat) (enough : rest.length < fuel)
    (low : ∀ index ∈ rest, (mgr.region index).start < 4294967296)
    (linked : Path mgr.next (some curr) (rest.map .block) (some .freeListTail)) :
    firstFit mgr size (2 ^ exponent) fuel prev curr = some (lastNode prev (rest.map .block), .freeListTail) ∧
        (∀ index ∈ rest, ¬ Fits mgr size exponent index) ∨
      ∃ before index after, rest = before ++ index :: after ∧
        firstFit mgr size (2 ^ exponent) fuel prev curr = some (lastNode prev (before.map .block), .block index) ∧
        Fits mgr size exponent index ∧ ∀ earlier ∈ before, ¬ Fits mgr size exponent earlier := by
  induction rest generalizing fuel prev curr with
  | nil =>
      obtain ⟨fuel, rfl⟩ := Nat.exists_eq_succ_of_ne_zero (Nat.ne_of_gt enough)
      obtain rfl : curr = .freeListTail := Option.some.inj linked
      exact .inl ⟨first_fit_tail mgr size exponent room tail fuel prev, fun index member => absurd member List.not_mem_nil⟩
  | cons index rest ih =>
      obtain ⟨fuel, rfl⟩ := Nat.exists_eq_succ_of_ne_zero (Nat.ne_of_gt (Nat.zero_lt_of_lt enough))
      obtain ⟨here, later⟩ := linked
      obtain rfl : curr = .block index := Option.some.inj here
      rw [first_fit_step mgr size exponent room fuel prev index (low index List.mem_cons_self)]
      by_cases fits : Fits mgr size exponent index
      · rw [if_pos fits]
        exact .inr ⟨[], index, rest, rfl, rfl, fits, fun earlier member => absurd member List.not_mem_nil⟩
      · rw [if_neg fits]
        obtain ⟨second, next⟩ : ∃ second, mgr.next (.block index) = some second := by
          cases rest with
          | nil => exact ⟨_, later⟩
          | cons other others => exact ⟨_, later.1⟩
        rw [next] at later ⊢
        have others := ih fuel (.block index) second (Nat.lt_of_succ_lt_succ enough)
          (fun other member => low other (List.mem_cons_of_mem index member)) later
        have unfit_ (names : List Nat) (unfit : ∀ other ∈ names, ¬ Fits mgr size exponent other) :
            ∀ other ∈ index :: names, ¬ Fits mgr size exponent other := fun other member => by
          rcases List.mem_cons.mp member with rfl | inRest
          · exact fits
          · exact unfit other inRest
        simp only [Option.bind_some, List.map_cons, last_cons]
        rcases others with ⟨full, unfit⟩ | ⟨before, given, after, same, found, fits_, unfit⟩
        · exact .inl ⟨full, unfit_ rest unfit⟩
        · refine .inr ⟨index :: before, given, after, by rw [same, List.cons_append], ?_, fits_, unfit_ before unfit⟩
          rw [List.map_cons, last_cons]
          exact found

end Search

section Marked

variable (mgr : XvmemMgr) (index address unused : Nat)

-- The block that was found keeps the address it will be known by.
def markBlock : XvmemMgr :=
  { mgr.setNode (.block index) fun block => { block with alignedBuffer := address } with unusedBytes := unused }

@[simp] theorem region_mark_block : (markBlock mgr index address unused).region = mgr.region :=
  (region_set_block mgr index (fun block => { block with alignedBuffer := address })).trans (Function.update_eq_self index mgr.region)

@[simp] theorem aligned_mark_block : (markBlock mgr index address unused).aligned = Function.update mgr.aligned index address :=
  aligned_set_block mgr index (fun block => { block with alignedBuffer := address })

@[simp] theorem next_mark_block : (markBlock mgr index address unused).next = mgr.next :=
  next_set_kept mgr (.block index) (fun block => { block with alignedBuffer := address }) rfl

theorem mark_block_inv (free used : List Nat) (inv : XvmemInv mgr free [] used) (apart : index ∉ used) :
    XvmemInv (markBlock mgr index address unused) free [] used := by
  refine { freeLinked := ?_, usedLinked := ?_, inArray := inv.inArray, bits := inv.bits, tail := inv.tail, layout := ?_,
           aligned := fun name member => ?_, freeBytes := ?_, allocatedBytes := ?_, whole := inv.whole, pool := inv.pool, few := inv.few }
  · rw [next_mark_block]
    exact inv.freeLinked
  · rw [next_mark_block]
    exact inv.usedLinked
  · rw [region_mark_block]
    exact inv.layout
  · rw [region_mark_block, aligned_mark_block, Function.update_of_ne (ne_of_mem_of_not_mem member apart)]
    exact inv.aligned name member
  · rw [region_mark_block]
    exact inv.freeBytes
  · rw [region_mark_block]
    exact inv.allocatedBytes

end Marked

structure SamePool (mgr next : XvmemMgr) : Prop where
  buffer : next.buffer = mgr.buffer
  bufferSize : next.bufferSize = mgr.bufferSize
  numBlocks : next.numBlocks = mgr.numBlocks
  headerSize : next.headerSize = mgr.headerSize
  hasHeader : next.hasHeader = mgr.hasHeader

theorem same_pool_trans (mgr middle next : XvmemMgr) (first : SamePool mgr middle) (second : SamePool middle next) : SamePool mgr next :=
  ⟨second.buffer.trans first.buffer, second.bufferSize.trans first.bufferSize, second.numBlocks.trans first.numBlocks,
    second.headerSize.trans first.headerSize, second.hasHeader.trans first.hasHeader⟩

theorem same_pool_take (mgr : XvmemMgr) (node : XvmemNode) : SamePool mgr (takeBlock mgr node) := ⟨rfl, rfl, rfl, rfl, rfl⟩

theorem same_pool_split (mgr : XvmemMgr) (before : List Nat) (index other newSize : Nat) :
    SamePool mgr (splitNext mgr before index other newSize) := ⟨rfl, rfl, rfl, rfl, rfl⟩

section Alloc

variable (mgr : XvmemMgr) (free used : List Nat) (size exponent : Nat)

-- The request is met with a block that was free.
structure HeapGiven (next : XvmemMgr) (rest : List Nat) (index : Nat) : Prop where
  inv : XvmemInv next rest [] (index :: used)
  was : index ∈ free
  aligned : next.aligned index = (mgr.region index).start + padding (mgr.region index).start (2 ^ exponent)
  start : (next.region index).start = (mgr.region index).start
  room : next.aligned index + size ≤ (next.region index).stop
  tight : (next.region index).stop ≤ next.aligned index + size + heap3MinAllocSize
  kept : ∀ other ∈ used, next.region other = mgr.region other ∧ next.aligned other = mgr.aligned other
  pool : SamePool mgr next

-- No header is left for what would remain of the block.
structure HeadersOut (next : XvmemMgr) : Prop where
  inv : XvmemInv next free [] used
  full : ∀ index < mgr.numBlocks, index ∈ free ++ used
  region : next.region = mgr.region
  kept : ∀ other ∈ used, next.aligned other = mgr.aligned other
  pool : SamePool mgr next

inductive AllocOutcome : XvmemMgr × Option Nat × XvmemStatus → Prop where
  | full (unfit : ∀ index ∈ free, ¬ Fits mgr size exponent index) : AllocOutcome (mgr, none, .allocFailed)
  | headersOut (next : XvmemMgr) (out : HeadersOut mgr free used next) : AllocOutcome (next, none, .allocFailed)
  | given (next : XvmemMgr) (rest : List Nat) (index : Nat) (given : HeapGiven mgr free used size exponent next rest index) :
      AllocOutcome (next, some (next.aligned index), .ok)

theorem free_length (loose : List Nat) (inv : XvmemInv mgr free loose used) : free.length ≤ mgr.numBlocks := by
  have distinct := (List.nodup_append.mp inv.layout.distinct).1
  have inside : free ⊆ List.range mgr.numBlocks := fun index member =>
    List.mem_range.mpr (inv.inArray index (List.mem_append_left _ member))
  simpa using (List.subperm_of_subset distinct inside).length_le

theorem start_low (inv : XvmemInv mgr free [] used) (index : Nat) (member : index ∈ free ++ used) :
    (mgr.region index).start + (mgr.region index).size ≤ 0xffffffff := by
  have inside := layout_inside mgr.region free _ index _ _ inv.layout member
  have pool := inv.pool
  simp only [Region.stop] at inside
  omega

section Found

variable (marked : XvmemMgr) (before after : List Nat) (index : Nat) (inv : XvmemInv marked (before ++ index :: after) [] used)
  (region : marked.region = mgr.region)
  (aligned : marked.aligned =
    Function.update mgr.aligned index ((mgr.region index).start + padding (mgr.region index).start (2 ^ exponent)))
  (pool : SamePool mgr marked)

include inv in
theorem found_apart : index ∉ used := fun listed => (List.nodup_append.mp inv.layout.distinct).2.2 index (by simp) index listed rfl

include inv region aligned pool in
-- The whole block is given where hardly anything would remain of it.
theorem whole_given (some_ : 0 < size) (fits : Fits mgr size exponent index)
    (little : (mgr.region index).size ≤ size + padding (mgr.region index).start (2 ^ exponent) + heap3MinAllocSize) :
    HeapGiven mgr (before ++ index :: after) used size exponent
      (takeBlock (marked.setNext (lastNode .freeListHead (before.map .block)) (marked.next (.block index))) (.block index))
      (before ++ after) index := by
  have apart := found_apart used marked before after index inv
  have here : marked.aligned index = (mgr.region index).start + padding (mgr.region index).start (2 ^ exponent) := by
    rw [aligned, Function.update_self]
  rw [Fits] at fits
  have gone := unlink_block_inv marked used before after index inv
    (by rw [region, here]; simp only [Region.Has, Region.stop]; omega)
  have unlinked : SamePool marked (marked.setNext (lastNode .freeListHead (before.map .block)) (marked.next (.block index))) :=
    ⟨rfl, rfl, rfl, rfl, rfl⟩
  have same := same_pool_trans _ _ _ pool (same_pool_trans _ _ _ unlinked (same_pool_take _ (.block index)))
  refine { inv := take_block_inv _ _ used index gone, was := by simp, aligned := ?_, start := ?_, room := ?_, tight := ?_,
           kept := fun other listed => ?_, pool := same }
  · rw [aligned_take_block, aligned_set_next, here]
  · rw [region_take_block, region_set_next, region]
  · rw [aligned_take_block, aligned_set_next, here, region_take_block, region_set_next, region, Region.stop]
    omega
  · rw [aligned_take_block, aligned_set_next, here, region_take_block, region_set_next, region, Region.stop]
    omega
  · rw [region_take_block, region_set_next, region, aligned_take_block, aligned_set_next, aligned,
      Function.update_of_ne (ne_of_mem_of_not_mem listed apart)]
    exact ⟨rfl, rfl⟩

include inv region aligned pool in
-- Else it is split.
theorem split_given (other : Nat) (some_ : 0 < size) (valid : other < marked.numBlocks)
    (fresh : other ∉ before ++ index :: after ++ used)
    (much : size + padding (mgr.region index).start (2 ^ exponent) + heap3MinAllocSize < (mgr.region index).size) :
    HeapGiven mgr (before ++ index :: after) used size exponent
      (takeBlock (splitNext marked before index other (size + padding (mgr.region index).start (2 ^ exponent))) (.block index))
      (before ++ other :: after) index := by
  have apart := found_apart used marked before after index inv
  have away : other ≠ index ∧ other ∉ used := by
    simp only [List.mem_append, List.mem_cons, not_or] at fresh
    exact ⟨fresh.1.2.1, fresh.2⟩
  have here : marked.aligned index = (mgr.region index).start + padding (mgr.region index).start (2 ^ exponent) := by
    rw [aligned, Function.update_self]
  generalize newSize_ : size + padding (mgr.region index).start (2 ^ exponent) = newSize at much ⊢
  have kept := split_aligned marked used before after index other newSize fresh
  have cut := split_region marked used before after index other newSize fresh
  have parted := split_block_inv marked used before after index inv other newSize fresh valid
    (by omega) (by rw [region]; omega) (by rw [region, here]; omega)
  have same := same_pool_trans _ _ _ pool
    (same_pool_trans _ _ _ (same_pool_split marked before index other newSize) (same_pool_take _ (.block index)))
  refine { inv := take_block_inv _ _ used index parted, was := by simp, aligned := ?_, start := ?_, room := ?_, tight := ?_,
           kept := fun name listed => ?_, pool := same }
  · rw [aligned_take_block, kept index away.1.symm, here]
  · rw [region_take_block, cut, Function.update_self, region]
  · rw [aligned_take_block, kept index away.1.symm, here, region_take_block, cut, Function.update_self, region, Region.stop]
    simp only
    omega
  · rw [aligned_take_block, kept index away.1.symm, here, region_take_block, cut, Function.update_self, region, Region.stop]
    simp only
    omega
  · have old := ne_of_mem_of_not_mem listed apart
    have new_ := ne_of_mem_of_not_mem listed away.2
    rw [region_take_block, cut, Function.update_of_ne old, Function.update_of_ne new_, region, aligned_take_block, kept name new_,
      aligned, Function.update_of_ne old]
    exact ⟨rfl, rfl⟩

include inv region aligned pool in
-- Whatever becomes of the block that was found.
theorem found_outcome (some_ : 0 < size) (fits : Fits mgr size exponent index) :
    AllocOutcome mgr (before ++ index :: after) used size exponent (
      let address := (mgr.region index).start + padding (mgr.region index).start (2 ^ exponent)
      let newSize := size + padding (mgr.region index).start (2 ^ exponent)
      let prev := lastNode .freeListHead (before.map .block)
      if newSize + heap3MinAllocSize < (mgr.region index).size then
        match splitBlock marked prev (.block index) newSize with
        | none => (marked, none, .allocFailed)
        | some next => (takeBlock next (.block index), some address, .ok)
      else (takeBlock (marked.setNext prev (marked.next (.block index))) (.block index), some address, .ok)) := by
  simp only
  by_cases much : size + padding (mgr.region index).start (2 ^ exponent) + heap3MinAllocSize < (mgr.region index).size
  · rw [if_pos much]
    have blocks : 0 < marked.numBlocks := Nat.zero_lt_of_lt (inv.inArray index (by simp))
    obtain ⟨other, counted⟩ : ∃ other, leadingZeroCount marked.blockFreeBitvec marked.numBlocks 0 (marked.blockFreeBitvec 0) 0 = other :=
      ⟨_, rfl⟩
    obtain ⟨taken, fresh⟩ := free_header marked used (before ++ index :: after) [] inv blocks other counted
    rcases Nat.lt_or_ge other marked.numBlocks with valid | out
    · have parted := split_block_next marked used before after index inv other (size + padding (mgr.region index).start (2 ^ exponent)) valid
        (by rw [region]; exact Nat.lt_of_le_of_lt (Nat.le_add_right _ _) much) counted
      have given := split_given mgr used size exponent marked before after index inv region aligned pool other some_ valid (fresh valid) much
      have answer := AllocOutcome.given _ _ index given
      rw [given.aligned] at answer
      rw [parted]
      exact answer
    · rw [split_block_none marked index _ other _ out counted]
      refine .headersOut _ ⟨inv, fun name inside => ?_, region, fun name listed => ?_, pool⟩
      · rw [← pool.numBlocks] at inside
        exact taken name inside (Nat.lt_of_lt_of_le inside out)
      · rw [aligned, Function.update_of_ne (ne_of_mem_of_not_mem listed (found_apart used marked before after index inv))]
  · rw [if_neg much]
    have given := whole_given mgr used size exponent marked before after index inv region aligned pool some_ fits (Nat.le_of_not_lt much)
    have answer := AllocOutcome.given _ _ index given
    rw [given.aligned] at answer
    exact answer

end Found

-- The call on the block that the search ends at.
theorem alloc_found (some_ : 0 < size) (room : size + 2 ^ exponent ≤ 4294967296) (first prev : XvmemNode) (index : Nat)
    (hung : mgr.next .freeListHead = some first)
    (bound : (mgr.region index).start + (mgr.region index).size ≤ 0xffffffff) (fits : Fits mgr size exponent index)
    (search : firstFit mgr size (2 ^ exponent) (mgr.numBlocks + 1) .freeListHead first = some (prev, .block index)) :
    xvmemAlloc mgr size (2 ^ exponent) = some (
      let address := (mgr.region index).start + padding (mgr.region index).start (2 ^ exponent)
      let newSize := size + padding (mgr.region index).start (2 ^ exponent)
      let marked := markBlock mgr index address (u32 (mgr.unusedBytes + padding (mgr.region index).start (2 ^ exponent)))
      if newSize + heap3MinAllocSize < (mgr.region index).size then
        match splitBlock marked prev (.block index) newSize with
        | none => (marked, none, .allocFailed)
        | some next => (takeBlock next (.block index), some address, .ok)
      else (takeBlock (marked.setNext prev (marked.next (.block index))) (.block index), some address, .ok)) := by
  have legal := (align_legal (2 ^ exponent) (Nat.two_pow_pos exponent) (by omega)).mpr ⟨exponent, rfl⟩
  have wanted : xvmemComputeNewSize (mgr.nodes (.block index)) size (2 ^ exponent) = size + padding (mgr.region index).start (2 ^ exponent) :=
    compute_new_size_value _ size exponent (by simp only [XvmemMgr.region] at bound; omega) room
  rw [Fits] at fits
  have gap : u32 (((size + padding (mgr.region index).start (2 ^ exponent) : Nat) : Int) - size) =
      padding (mgr.region index).start (2 ^ exponent) := by
    have whole : (((size + padding (mgr.region index).start (2 ^ exponent) : Nat) : Int) - size) =
        (padding (mgr.region index).start (2 ^ exponent) : Nat) := by omega
    rw [whole, u32_fits _ (by omega)]
  have start : (mgr.nodes (.block index)).buffer = (mgr.region index).start := rfl
  have address : u32 (((mgr.region index).start : Int) + (padding (mgr.region index).start (2 ^ exponent) : Nat)) =
      (mgr.region index).start + padding (mgr.region index).start (2 ^ exponent) :=
    u32_fits ((mgr.region index).start + padding (mgr.region index).start (2 ^ exponent)) (by omega)
  have left_ : u32 (((mgr.region index).size : Int) - (size + padding (mgr.region index).start (2 ^ exponent) : Nat)) =
      (mgr.region index).size - (size + padding (mgr.region index).start (2 ^ exponent)) := by
    have whole : (((mgr.region index).size : Int) - (size + padding (mgr.region index).start (2 ^ exponent) : Nat)) =
        ((mgr.region index).size - (size + padding (mgr.region index).start (2 ^ exponent)) : Nat) := by omega
    rw [whole, u32_fits _ (by omega)]
  rw [xvmemAlloc, if_neg (not_not.mpr legal), hung, Option.bind_some, search, Option.map_some]
  simp only [reduceCtorEq, if_false, wanted, gap, start, address]
  refine congrArg some (if_congr ?_ rfl rfl)
  simp only [XvmemMgr.setNode, Function.update_self]
  have size_ : (mgr.nodes (.block index)).blockSize = (mgr.region index).size := rfl
  rw [size_, left_]
  omega

theorem alloc_outcome (inv : XvmemInv mgr free [] used) (some_ : 0 < size) (room : size + 2 ^ exponent ≤ 4294967296) :
    ∃ result, xvmemAlloc mgr size (2 ^ exponent) = some result ∧ AllocOutcome mgr free used size exponent result := by
  have low : ∀ index ∈ free, (mgr.region index).start < 4294967296 := fun index member => by
    have bound := start_low mgr free used inv index (List.mem_append_left _ member)
    omega
  have linked := inv.freeLinked
  obtain ⟨first, hung⟩ : ∃ first, mgr.next .freeListHead = some first := by
    cases free with
    | nil => exact ⟨_, linked⟩
    | cons other others => exact ⟨_, linked.1⟩
  rw [hung] at linked
  have legal := (align_legal (2 ^ exponent) (Nat.two_pow_pos exponent) (by omega)).mpr ⟨exponent, rfl⟩
  have found := first_fit_outcome mgr size exponent room inv.tail (mgr.numBlocks + 1) .freeListHead first free
    (Nat.lt_succ_of_le (free_length mgr free used [] inv)) low linked
  rcases found with ⟨full, unfit⟩ | ⟨before, index, after, rfl, search, fits, -⟩
  · refine ⟨(mgr, none, .allocFailed), ?_, .full unfit⟩
    rw [xvmemAlloc, if_neg (not_not.mpr legal), hung, Option.bind_some, full]
    rfl
  · have bound := start_low mgr _ used inv index (by simp)
    have call := alloc_found mgr size exponent some_ room first _ index hung bound fits search
    refine ⟨_, call, ?_⟩
    refine found_outcome mgr used size exponent _ before after index ?_ (region_mark_block _ _ _ _) (aligned_mark_block _ _ _ _)
      ⟨rfl, rfl, rfl, rfl, rfl⟩ some_ fits
    exact mark_block_inv mgr index _ _ _ used inv (found_apart used mgr before after index inv)

end Alloc

end CsiDsp
