import CsiDsp.Base.Regions
import CsiDsp.Base.Segment
import CsiDsp.BlockBits

set_option autoImplicit false

namespace CsiDsp

open CInt BitArray Regions Segment

def XvmemMgr.region (mgr : XvmemMgr) (index : Nat) : Region := ⟨(mgr.nodes (.block index)).buffer, (mgr.nodes (.block index)).blockSize⟩

def XvmemMgr.aligned (mgr : XvmemMgr) (index : Nat) : Nat := (mgr.nodes (.block index)).alignedBuffer

-- The blocks of the free list, in order, those of the allocated list, and those on
-- their way from one list to the other.
structure XvmemInv (mgr : XvmemMgr) (free loose used : List Nat) : Prop where
  freeLinked : Path mgr.next (mgr.next .freeListHead) (free.map .block) (some .freeListTail)
  usedLinked : Path mgr.next (mgr.next .allocListHead) (used.map .block) none
  inArray : ∀ index ∈ free ++ (loose ++ used), index < mgr.numBlocks
  bits : ∀ index < mgr.numBlocks, bit mgr.blockFreeBitvec index = decide (index ∉ free ++ (loose ++ used))
  tail : (mgr.nodes .freeListTail).buffer = 0xffffffff ∧ (mgr.nodes .freeListTail).blockSize = 0xffffffff
  layout : Layout mgr.region free (loose ++ used) mgr.buffer (mgr.buffer + mgr.bufferSize)
  aligned : ∀ index ∈ loose ++ used, (mgr.region index).Has (mgr.aligned index)
  freeBytes : mgr.freeBytes = total (free.map mgr.region) + total (loose.map mgr.region)
  allocatedBytes : mgr.allocatedBytes = total (used.map mgr.region)
  whole : mgr.freeBytes + mgr.allocatedBytes = mgr.bufferSize
  pool : 0 < mgr.buffer ∧ mgr.buffer + mgr.bufferSize ≤ 0xffffffff
  few : mgr.numBlocks < 2147483648

section Nodes

variable (mgr : XvmemMgr) (node : XvmemNode) (index : Nat) (change : XvmemBlock → XvmemBlock) (next : Option XvmemNode)

@[simp] theorem next_set_next : (mgr.setNext node next).next = Function.update mgr.next node next := by
  funext other
  by_cases same : other = node
  · subst same
    simp [XvmemMgr.next, XvmemMgr.setNext, XvmemMgr.setNode]
  · simp [XvmemMgr.next, XvmemMgr.setNext, XvmemMgr.setNode, Function.update_of_ne same]

theorem next_set_node : (mgr.setNode node change).next = Function.update mgr.next node (change (mgr.nodes node)).nextBlock := by
  funext other
  by_cases same : other = node
  · subst same
    simp [XvmemMgr.next, XvmemMgr.setNode]
  · simp [XvmemMgr.next, XvmemMgr.setNode, Function.update_of_ne same]

theorem next_set_kept (kept : (change (mgr.nodes node)).nextBlock = (mgr.nodes node).nextBlock) :
    (mgr.setNode node change).next = mgr.next := by
  rw [next_set_node, kept]
  exact Function.update_eq_self node mgr.next

@[simp] theorem region_set_next : (mgr.setNext node next).region = mgr.region := by
  funext other
  by_cases same : XvmemNode.block other = node
  · simp [XvmemMgr.region, XvmemMgr.setNext, XvmemMgr.setNode, same]
  · simp [XvmemMgr.region, XvmemMgr.setNext, XvmemMgr.setNode, Function.update_of_ne same]

@[simp] theorem aligned_set_next : (mgr.setNext node next).aligned = mgr.aligned := by
  funext other
  by_cases same : XvmemNode.block other = node
  · simp [XvmemMgr.aligned, XvmemMgr.setNext, XvmemMgr.setNode, same]
  · simp [XvmemMgr.aligned, XvmemMgr.setNext, XvmemMgr.setNode, Function.update_of_ne same]

theorem region_set_block : (mgr.setNode (.block index) change).region =
    Function.update mgr.region index ⟨(change (mgr.nodes (.block index))).buffer, (change (mgr.nodes (.block index))).blockSize⟩ := by
  funext other
  by_cases same : other = index
  · subst same
    simp [XvmemMgr.region, XvmemMgr.setNode]
  · have apart : XvmemNode.block other ≠ .block index := fun equal => same (XvmemNode.block.inj equal)
    simp [XvmemMgr.region, XvmemMgr.setNode, Function.update_of_ne same, Function.update_of_ne apart]

theorem aligned_set_block : (mgr.setNode (.block index) change).aligned =
    Function.update mgr.aligned index (change (mgr.nodes (.block index))).alignedBuffer := by
  funext other
  by_cases same : other = index
  · subst same
    simp [XvmemMgr.aligned, XvmemMgr.setNode]
  · have apart : XvmemNode.block other ≠ .block index := fun equal => same (XvmemNode.block.inj equal)
    simp [XvmemMgr.aligned, XvmemMgr.setNode, Function.update_of_ne same, Function.update_of_ne apart]

end Nodes

section Lists

variable (free used before after : List Nat) (index : Nat)

@[simp] theorem block_mem : XvmemNode.block index ∈ free.map XvmemNode.block ↔ index ∈ free := by simp

theorem free_head_nodup (distinct : free.Nodup) : (XvmemNode.freeListHead :: free.map XvmemNode.block).Nodup :=
  List.nodup_cons.mpr ⟨by simp, distinct.map fun _ _ same => XvmemNode.block.inj same⟩

theorem alloc_head_nodup (distinct : used.Nodup) : (XvmemNode.allocListHead :: used.map XvmemNode.block).Nodup :=
  List.nodup_cons.mpr ⟨by simp, distinct.map fun _ _ same => XvmemNode.block.inj same⟩

theorem free_last_block : lastNode XvmemNode.freeListHead (before.map XvmemNode.block) = .freeListHead ∨
    ∃ last ∈ before, lastNode XvmemNode.freeListHead (before.map XvmemNode.block) = .block last := by
  have member := last_mem XvmemNode.freeListHead (before.map XvmemNode.block)
  rcases List.mem_cons.mp member with same | inside
  · exact .inl same
  · obtain ⟨last, listed, same⟩ := List.mem_map.mp inside
    exact .inr ⟨last, listed, same.symm⟩

end Lists

-- What has to be left out in front of an address for the alignment.
def padding (address align : Nat) : Nat := (align - address % align) % align

theorem padding_lt (address align : Nat) (some_ : 0 < align) : padding address align < align := Nat.mod_lt _ some_

theorem padding_aligned (address align : Nat) (some_ : 0 < align) : align ∣ address + padding address align := by
  have below := Nat.mod_lt address some_
  have sum : address % align + (align - address % align) = align := by omega
  refine Nat.dvd_of_mod_eq_zero ?_
  rw [padding, Nat.add_mod_mod, Nat.add_mod, Nat.add_mod_mod, ← Nat.mod_add_mod]
  rw [Nat.mod_mod, sum, Nat.mod_self]

-- No aligned address is nearer.
theorem padding_least (address align other : Nat) (some_ : 0 < align) (from_ : address ≤ other) (aligned : align ∣ other) :
    address + padding address align ≤ other := by
  have below := padding_lt address align some_
  by_contra short
  have past := Nat.lt_of_not_le short
  have gap : align ∣ address + padding address align - other := Nat.dvd_sub (padding_aligned address align some_) aligned
  have least := Nat.le_of_dvd (by omega) gap
  omega

-- The address as a division rounds it up.
theorem padding_round (address align : Nat) (some_ : 0 < align) :
    (address + align - 1) / align * align = address + padding address align := by
  have below := padding_lt address align some_
  obtain ⟨count, same⟩ := padding_aligned address align some_
  have upto : (address + align - 1) / align = count := by
    rw [Nat.div_eq_iff some_, Nat.mul_comm]
    omega
  rw [upto, Nat.mul_comm, same]

section NewSize

variable (block : XvmemBlock) (size exponent : Nat)

theorem extra_size_value (address : Nat) (few : exponent ≤ 32) (low : address < 4294967296) :
    u32 ((u32 ((address : Int) + (2 ^ exponent : Nat) - 1) / 2 ^ exponent * 2 ^ exponent : Nat) - (address : Int)) =
      padding address (2 ^ exponent) := by
  have some_ : 0 < 2 ^ exponent := Nat.two_pow_pos exponent
  have less := padding_lt address (2 ^ exponent) some_
  have whole : 2 ^ 32 = 2 ^ exponent * 2 ^ (32 - exponent) := by rw [← Nat.pow_add, Nat.add_sub_cancel' few]
  have align : 2 ^ exponent ≤ 2 ^ 32 := Nat.pow_le_pow_right (by omega) few
  have sum : u32 ((address : Int) + (2 ^ exponent : Nat) - 1) = (address + 2 ^ exponent - 1) % (2 ^ exponent * 2 ^ (32 - exponent)) := by
    have positive : ((address : Int) + (2 ^ exponent : Nat) - 1) = ((address + 2 ^ exponent - 1 : Nat) : Int) := by omega
    rw [positive, u32, wrapU, ← Int.natCast_emod, Int.toNat_natCast, ← whole]
  -- The address may be rounded up to the end of the address space.
  have cut : (address + 2 ^ exponent - 1) % (2 ^ exponent * 2 ^ (32 - exponent)) / 2 ^ exponent * 2 ^ exponent =
      (address + padding address (2 ^ exponent)) % 2 ^ 32 := by
    rw [Nat.mod_mul_right_div_self, ← Nat.mul_mod_mul_right, padding_round address _ some_, Nat.mul_comm (2 ^ (32 - exponent)), ← whole]
  rw [sum, cut, u32, wrapU]
  generalize padding address (2 ^ exponent) = gap at less ⊢
  generalize 2 ^ exponent = align_ at less align
  simp only [Nat.reducePow] at align ⊢
  omega

theorem compute_new_size_value (low : block.buffer < 4294967296) (fits : size + 2 ^ exponent ≤ 4294967296) :
    xvmemComputeNewSize block size (2 ^ exponent) = size + padding block.buffer (2 ^ exponent) := by
  have some_ : 0 < 2 ^ exponent := Nat.two_pow_pos exponent
  have few : exponent ≤ 32 := (Nat.pow_le_pow_iff_right (by omega)).mp (by omega : 2 ^ exponent ≤ 2 ^ 32)
  have msbit : xvmemFindMsbit (2 ^ exponent) = exponent := by
    rw [xvmemFindMsbit, if_neg (Nat.ne_of_gt some_), Nat.log2_two_pow]
  have less := padding_lt block.buffer (2 ^ exponent) some_
  rw [xvmemComputeNewSize]
  simp only [msbit]
  rw [extra_size_value exponent block.buffer few low]
  exact u32_fits (size + padding block.buffer (2 ^ exponent)) (by omega)

end NewSize

theorem align_legal (align : Nat) (some_ : 0 < align) (fits : align < 4294967296) :
    align &&& u32 (align - 1) = 0 ↔ ∃ exponent, align = 2 ^ exponent := by
  have less : u32 ((align : Int) - 1) = align - 1 := by
    have whole : ((align : Int) - 1) = ((align - 1 : Nat) : Int) := by omega
    rw [whole, u32_fits _ (by omega)]
  rw [less]
  exact Nat.and_sub_one_eq_zero_iff_isPowerOfTwo (Nat.ne_of_gt some_)

section Take

variable (mgr : XvmemMgr) (free used before after : List Nat) (index : Nat)

@[simp] theorem region_take_block : (takeBlock mgr (.block index)).region = mgr.region :=
  (region_set_next (mgr.setNext (.block index) _) .allocListHead (some (.block index))).trans (region_set_next mgr _ _)

@[simp] theorem aligned_take_block : (takeBlock mgr (.block index)).aligned = mgr.aligned :=
  (aligned_set_next (mgr.setNext (.block index) _) .allocListHead (some (.block index))).trans (aligned_set_next mgr _ _)

theorem tail_set_next (node : XvmemNode) (next : Option XvmemNode) :
    ((mgr.setNext node next).nodes .freeListTail).buffer = (mgr.nodes .freeListTail).buffer ∧
      ((mgr.setNext node next).nodes .freeListTail).blockSize = (mgr.nodes .freeListTail).blockSize := by
  by_cases same : node = .freeListTail
  · subst same
    simp [XvmemMgr.setNext, XvmemMgr.setNode]
  · simp [XvmemMgr.setNext, XvmemMgr.setNode, Function.update_of_ne (Ne.symm same)]

-- A block that is in no list becomes the first one of the allocated list.
theorem take_block_inv (inv : XvmemInv mgr free [index] used) : XvmemInv (takeBlock mgr (.block index)) free [] (index :: used) := by
  have distinct := inv.layout.distinct
  simp only [List.singleton_append, List.nodup_append, List.nodup_cons, List.mem_cons] at distinct
  have next : (takeBlock mgr (.block index)).next =
      Function.update (Function.update mgr.next (.block index) (mgr.next .allocListHead)) .allocListHead (some (.block index)) :=
    (next_set_next (mgr.setNext (.block index) _) .allocListHead (some (.block index))).trans (by rw [next_set_next])
  have size : ((((mgr.setNext (.block index) (mgr.next .allocListHead)).setNext .allocListHead (some (.block index))).nodes
      (.block index)).blockSize) = (mgr.region index).size := congrArg (fun region => (region index).size) (region_take_block mgr index)
  have free_ := inv.freeBytes
  have allocated := inv.allocatedBytes
  have whole := inv.whole
  have pool := inv.pool
  simp only [List.map_cons, List.map_nil, total_cons, total_nil] at free_
  have less : (takeBlock mgr (.block index)).freeBytes = total (free.map mgr.region) := by
    rw [takeBlock]
    simp only [size]
    have sub : ((mgr.setNext (.block index) (mgr.next .allocListHead)).setNext .allocListHead (some (.block index))).freeBytes =
        mgr.freeBytes := rfl
    rw [sub]
    have value : ((mgr.freeBytes : Int) - ((mgr.region index).size : Nat)) = (total (free.map mgr.region) : Nat) := by omega
    rw [value, u32_fits _ (by omega)]
  have more : (takeBlock mgr (.block index)).allocatedBytes = mgr.allocatedBytes + (mgr.region index).size := by
    rw [takeBlock]
    simp only [size]
    exact u32_fits (mgr.allocatedBytes + (mgr.region index).size) (by omega)
  refine { freeLinked := ?_, usedLinked := ?_, inArray := inv.inArray, bits := inv.bits, tail := ?_, layout := ?_,
           aligned := ?_, freeBytes := ?_, allocatedBytes := ?_, whole := ?_, pool := inv.pool, few := inv.few }
  · rw [next]
    refine hung_update _ _ _ _ _ _ (by simp) (hung_update _ _ _ _ _ _ ?_ inv.freeLinked)
    simp only [List.mem_cons, block_mem, reduceCtorEq, false_or]
    grind
  · rw [next]
    refine path_push mgr.next .allocListHead (.block index) _ none (alloc_head_nodup used distinct.2.1.2) ?_ inv.usedLinked
    simp only [List.mem_cons, block_mem, reduceCtorEq, false_or]
    exact distinct.2.1.1
  · have first := tail_set_next mgr (.block index) (mgr.next .allocListHead)
    have second := tail_set_next (mgr.setNext (.block index) (mgr.next .allocListHead)) .allocListHead (some (.block index))
    exact ⟨second.1.trans (first.1.trans inv.tail.1), second.2.trans (first.2.trans inv.tail.2)⟩
  · rw [region_take_block]
    exact inv.layout
  · rw [region_take_block, aligned_take_block]
    exact inv.aligned
  · rw [region_take_block, less, List.map_nil, total_nil, Nat.add_zero]
  · rw [region_take_block, more, allocated, List.map_cons, total_cons, Nat.add_comm]
  · rw [less, more]
    exact (by omega : total (free.map mgr.region) + (mgr.allocatedBytes + (mgr.region index).size) = mgr.bufferSize)

end Take

section Leave

variable (mgr : XvmemMgr) (used before after : List Nat) (index : Nat) (inv : XvmemInv mgr (before ++ index :: after) [] used)
  (aligned : (mgr.region index).Has (mgr.aligned index))

include inv in
theorem free_distinct : (XvmemNode.freeListHead :: (before.map XvmemNode.block ++ .block index :: after.map .block)).Nodup := by
  have distinct := free_head_nodup _ (List.nodup_append.mp inv.layout.distinct).1
  rwa [List.map_append, List.map_cons] at distinct

include inv in
theorem used_apart_last : lastNode XvmemNode.freeListHead (before.map .block) ∉ XvmemNode.allocListHead :: used.map .block := by
  have distinct := inv.layout.distinct
  simp only [List.nil_append, List.nodup_append, List.mem_append] at distinct
  rcases free_last_block before with same | ⟨last, member, same⟩
  · rw [same]
    simp
  · rw [same]
    simp only [List.mem_cons, block_mem, reduceCtorEq, false_or]
    exact fun listed => distinct.2.2 last (.inl member) last listed rfl

theorem free_cut : total ((before ++ index :: after).map mgr.region) =
    total ((before ++ after).map mgr.region) + (mgr.region index).size := by
  simp only [List.map_append, List.map_cons, total_append, total_cons]
  omega

include inv aligned in
-- The whole block leaves the free list.
theorem unlink_block_inv :
    XvmemInv (mgr.setNext (lastNode .freeListHead (before.map .block)) (mgr.next (.block index))) (before ++ after) [index] used := by
  have tail := tail_set_next mgr (lastNode .freeListHead (before.map .block)) (mgr.next (.block index))
  have linked := inv.freeLinked
  have free_ := inv.freeBytes
  have cut := free_cut mgr before after index
  rw [List.map_append, List.map_cons] at linked
  refine { freeLinked := ?_, usedLinked := ?_, inArray := fun other member => inv.inArray other ?_, bits := fun other inside => ?_,
           tail := ⟨tail.1.trans inv.tail.1, tail.2.trans inv.tail.2⟩, layout := ?_, aligned := ?_, freeBytes := ?_,
           allocatedBytes := ?_, whole := inv.whole, pool := inv.pool, few := inv.few }
  · rw [next_set_next, List.map_append]
    exact path_unlink mgr.next .freeListHead (.block index) _ _ _ (free_distinct mgr used before after index inv) linked
  · rw [next_set_next]
    exact hung_update mgr.next _ .allocListHead _ none _ (used_apart_last mgr used before after index inv) inv.usedLinked
  · simp only [List.mem_append, List.mem_cons, List.not_mem_nil] at member ⊢
    grind
  · refine (inv.bits other inside).trans (decide_eq_decide.mpr (not_congr ?_))
    simp only [List.mem_append, List.mem_cons, List.not_mem_nil]
    grind
  · rw [region_set_next]
    exact layout_take mgr.region before after used index _ _ inv.layout
  · rw [region_set_next, aligned_set_next]
    intro other member
    rcases List.mem_cons.mp member with rfl | rest
    · exact aligned
    · exact inv.aligned other rest
  · rw [region_set_next]
    refine free_.trans ?_
    simp only [List.map_cons, List.map_nil, total_cons, total_nil]
    omega
  · rw [region_set_next]
    exact inv.allocatedBytes

-- The first header of the array that is in no list.
theorem free_header (free loose : List Nat) (inv : XvmemInv mgr free loose used) (some_ : 0 < mgr.numBlocks) (header : Nat)
    (counted : leadingZeroCount mgr.blockFreeBitvec mgr.numBlocks 0 (mgr.blockFreeBitvec 0) 0 = header) :
    (∀ other < mgr.numBlocks, other < header → other ∈ free ++ (loose ++ used)) ∧
      (header < mgr.numBlocks → header ∉ free ++ (loose ++ used)) := by
  have plain : (fun word => mgr.blockFreeBitvec word ^^^ 0) = mgr.blockFreeBitvec := by
    funext word
    simp
  have spec := leading_zero_count_spec mgr.blockFreeBitvec 0 mgr.numBlocks 0 inv.few some_
  rw [plain, Nat.zero_div, counted] at spec
  constructor
  · intro other inside below
    have clear := spec.clear other below (by omega)
    rw [Nat.zero_add, inv.bits other inside] at clear
    exact of_not_not (of_decide_eq_false clear)
  · intro inside
    have set := spec.set (by omega)
    rw [Nat.zero_add, inv.bits header inside] at set
    exact of_decide_eq_true set

-- What splitBlock leaves behind.
def splitNext (other newSize : Nat) : XvmemMgr :=
  ((({ mgr with blockFreeBitvec := xvmemToggleBitvec mgr.blockFreeBitvec other 1 }.setNode (.block other) fun _ =>
    ⟨mgr.next (.block index), (mgr.region index).size - newSize, (mgr.region index).start + newSize,
      (mgr.region index).start + newSize⟩).setNode (.block index) fun block => { block with blockSize := newSize }).setNext
    (lastNode .freeListHead (before.map .block)) (some (.block other)))

include inv in
theorem split_block_next (other newSize : Nat) (valid : other < mgr.numBlocks) (rest : newSize < (mgr.region index).size)
    (counted : leadingZeroCount mgr.blockFreeBitvec mgr.numBlocks 0 (mgr.blockFreeBitvec 0) 0 = other) :
    splitBlock mgr (lastNode .freeListHead (before.map .block)) (.block index) newSize = some (splitNext mgr before index other newSize) := by
  have inside := layout_inside mgr.region _ _ index _ _ inv.layout (by simp)
  have pool := inv.pool
  have less : u32 (((mgr.nodes (.block index)).blockSize : Int) - newSize) = (mgr.region index).size - newSize := by
    have whole : (((mgr.nodes (.block index)).blockSize : Int) - newSize) = (((mgr.region index).size - newSize : Nat) : Int) := by
      simp only [XvmemMgr.region] at rest ⊢
      omega
    rw [whole, u32_fits _ (by simp only [Region.stop] at inside; omega)]
  have behind : u32 (((mgr.nodes (.block index)).buffer : Int) + newSize) = (mgr.region index).start + newSize :=
    u32_fits ((mgr.region index).start + newSize) (by simp only [Region.stop] at inside; omega)
  rw [splitBlock]
  simp only [counted]
  rw [if_neg (Nat.not_le.mpr valid)]
  simp only [less, behind]
  rfl

theorem split_block_none (prev : XvmemNode) (other newSize : Nat) (out : mgr.numBlocks ≤ other)
    (counted : leadingZeroCount mgr.blockFreeBitvec mgr.numBlocks 0 (mgr.blockFreeBitvec 0) 0 = other) :
    splitBlock mgr prev (.block index) newSize = none := by
  rw [splitBlock]
  simp only [counted]
  rw [if_pos out]

section Split

variable (other newSize : Nat) (fresh : other ∉ before ++ index :: after ++ used)

include fresh in
theorem split_region : (splitNext mgr before index other newSize).region = Function.update (Function.update mgr.region other
    ⟨(mgr.region index).start + newSize, (mgr.region index).size - newSize⟩) index ⟨(mgr.region index).start, newSize⟩ := by
  have apart : XvmemNode.block index ≠ .block other := fun same => fresh (by simp [XvmemNode.block.inj same])
  rw [splitNext, region_set_next, region_set_block, region_set_block]
  simp only [XvmemMgr.setNode, Function.update_of_ne apart]
  rfl

include fresh in
theorem split_aligned (name : Nat) (away : name ≠ other) : (splitNext mgr before index other newSize).aligned name = mgr.aligned name := by
  have apart : XvmemNode.block index ≠ .block other := fun same => fresh (by simp [XvmemNode.block.inj same])
  rw [splitNext, aligned_set_next, aligned_set_block, aligned_set_block]
  simp only [XvmemMgr.setNode, Function.update_of_ne apart]
  by_cases same : name = index
  · subst same
    rw [Function.update_self]
    rfl
  · rw [Function.update_of_ne same, Function.update_of_ne away]
    rfl

theorem split_next : (splitNext mgr before index other newSize).next =
    Function.update (Function.update mgr.next (.block other) (mgr.next (.block index))) (lastNode .freeListHead (before.map .block))
      (some (.block other)) := by
  rw [splitNext, next_set_next, next_set_kept _ _ _ rfl, next_set_node]
  rfl

include inv fresh in
theorem split_block_inv (valid : other < mgr.numBlocks) (some_ : 0 < newSize) (rest : newSize < (mgr.region index).size)
    (kept : (mgr.region index).start ≤ mgr.aligned index ∧ mgr.aligned index < (mgr.region index).start + newSize) :
    XvmemInv (splitNext mgr before index other newSize) (before ++ other :: after) [index] used := by
  have linked := inv.freeLinked
  have free_ := inv.freeBytes
  have cut := free_cut mgr before after index
  have layout := layout_split mgr.region before after used index other _ _ newSize ((mgr.region index).size - newSize)
    (by simpa using inv.layout) fresh (by omega) some_ (by omega)
  have region := split_region mgr used before after index other newSize fresh
  have away : other ≠ index ∧ other ∉ before ∧ other ∉ after ∧ other ∉ used := by
    simp only [List.mem_append, List.mem_cons, not_or] at fresh
    exact ⟨fresh.1.2.1, fresh.1.1, fresh.1.2.2, fresh.2⟩
  have distinct := inv.layout.distinct
  simp only [List.nil_append, List.nodup_append, List.nodup_cons, List.mem_append, List.mem_cons] at distinct
  have maps (names : List Nat) (off : index ∉ names) (not_ : other ∉ names) :
      names.map (splitNext mgr before index other newSize).region = names.map mgr.region := by
    rw [region, map_update _ index names _ off, map_update _ other names _ not_]
  have front := maps before (by grind) away.2.1
  have back := maps after (by grind) away.2.2.1
  have others := maps used (by grind) away.2.2.2
  have here : (splitNext mgr before index other newSize).region index = ⟨(mgr.region index).start, newSize⟩ := by
    rw [region, Function.update_self]
  have there : (splitNext mgr before index other newSize).region other =
      ⟨(mgr.region index).start + newSize, (mgr.region index).size - newSize⟩ := by
    rw [region, Function.update_of_ne away.1, Function.update_self]
  rw [List.map_append, List.map_cons] at linked
  refine { freeLinked := ?_, usedLinked := ?_, inArray := fun name member => ?_, bits := fun name inside => ?_, tail := ?_, layout := ?_,
           aligned := fun name member => ?_, freeBytes := ?_, allocatedBytes := ?_, whole := inv.whole, pool := inv.pool, few := inv.few }
  · rw [split_next mgr before index other newSize, List.map_append, List.map_cons]
    refine path_replace mgr.next .freeListHead (.block index) (.block other) _ _ _ (free_distinct mgr used before after index inv) ?_ linked
    simp only [List.mem_cons, List.mem_append, block_mem, reduceCtorEq, false_or, not_or]
    exact ⟨away.2.1, away.2.2.1⟩
  · rw [split_next mgr before index other newSize]
    refine hung_update _ _ XvmemNode.allocListHead _ none _ (used_apart_last mgr used before after index inv) ?_
    refine hung_update mgr.next _ .allocListHead _ none _ ?_ inv.usedLinked
    simp only [List.mem_cons, block_mem, reduceCtorEq, false_or]
    exact away.2.2.2
  · simp only [List.mem_append, List.mem_cons, List.not_mem_nil, or_false] at member
    by_cases new_ : name = other
    · rw [new_]
      exact valid
    · refine inv.inArray name ?_
      simp only [List.mem_append, List.mem_cons, List.not_mem_nil]
      grind
  · have flipped : bit (splitNext mgr before index other newSize).blockFreeBitvec name = _ :=
      toggle_bitvec_spec mgr.blockFreeBitvec other 1 (by omega) name
    rw [flipped, inv.bits name inside]
    by_cases new_ : name = other
    · subst new_
      simp [away]
    · have off : ¬ (other ≤ name ∧ name < other + 1) := by omega
      rw [decide_eq_false off, Bool.xor_false]
      refine decide_eq_decide.mpr (not_congr ?_)
      simp only [List.mem_append, List.mem_cons, List.not_mem_nil]
      grind
  · have tail := tail_set_next (({ mgr with blockFreeBitvec := xvmemToggleBitvec mgr.blockFreeBitvec other 1 }.setNode (.block other) fun _ =>
      ⟨mgr.next (.block index), (mgr.region index).size - newSize, (mgr.region index).start + newSize,
        (mgr.region index).start + newSize⟩).setNode (.block index) fun block => { block with blockSize := newSize })
      (lastNode .freeListHead (before.map .block)) (some (.block other))
    exact ⟨tail.1.trans inv.tail.1, tail.2.trans inv.tail.2⟩
  · rw [region]
    exact layout
  · have off : name ≠ other := by
      rcases List.mem_cons.mp member with rfl | rest_
      · exact away.1.symm
      · exact ne_of_mem_of_not_mem rest_ away.2.2.2
    rw [split_aligned mgr used before after index other newSize fresh name off]
    rcases List.mem_cons.mp member with rfl | rest_
    · rw [here]
      exact kept
    · have listed : name ∈ used := rest_
      have old : name ≠ index := fun same => distinct.2.2 index (.inr (.inl rfl)) name listed same.symm
      rw [region, Function.update_of_ne old, Function.update_of_ne off]
      exact inv.aligned name rest_
  · refine free_.trans ?_
    rw [cut]
    simp only [List.map_append, List.map_cons, List.map_nil, total_append, total_cons, total_nil, front, back, here, there]
    omega
  · rw [others]
    exact inv.allocatedBytes

end Split

end Leave

end CsiDsp
