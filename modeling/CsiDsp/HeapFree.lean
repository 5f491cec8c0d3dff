import CsiDsp.HeapAlloc

set_option autoImplicit false

namespace CsiDsp

open CInt BitArray Regions Segment

section Search

variable (mgr : XvmemMgr)

-- The place of a buffer in the free list.
theorem find_place_outcome (buffer fuel : Nat) (block : XvmemNode) (rest : List Nat) (enough : rest.length < fuel)
    (low : buffer ≤ (mgr.nodes .freeListTail).buffer)
    (linked : Path mgr.next (mgr.next block) (rest.map .block) (some .freeListTail)) :
    ∃ before after, rest = before ++ after ∧
      findPlace mgr buffer fuel block = some (lastNode block (before.map .block), (after.map XvmemNode.block).headD .freeListTail) ∧
      (∀ index ∈ before, (mgr.region index).start < buffer) ∧ ∀ first others, after = first :: others → buffer ≤ (mgr.region first).start := by
  induction rest generalizing fuel block with
  | nil =>
      obtain ⟨fuel, rfl⟩ := Nat.exists_eq_succ_of_ne_zero (Nat.ne_of_gt enough)
      have hung : mgr.next block = some .freeListTail := linked
      refine ⟨[], [], rfl, ?_, fun index member => absurd member List.not_mem_nil, fun first others none_ => by cases none_⟩
      rw [findPlace, hung, Option.bind_some, if_neg (Nat.not_lt.mpr low)]
      rfl
  | cons index rest ih =>
      obtain ⟨fuel, rfl⟩ := Nat.exists_eq_succ_of_ne_zero (Nat.ne_of_gt (Nat.zero_lt_of_lt enough))
      obtain ⟨here, later⟩ := linked
      have step : findPlace mgr buffer (fuel + 1) block =
          if (mgr.region index).start < buffer then findPlace mgr buffer fuel (.block index) else some (block, .block index) := by
        rw [findPlace, here]
        rfl
      rw [step]
      by_cases below : (mgr.region index).start < buffer
      · obtain ⟨before, after, same, found, front, back⟩ := ih fuel (.block index) (Nat.lt_of_succ_lt_succ enough) later
        refine ⟨index :: before, after, by rw [same, List.cons_append], ?_, fun other member => ?_, back⟩
        · rw [if_pos below, found, List.map_cons, last_cons]
        · rcases List.mem_cons.mp member with rfl | inRest
          · exact below
          · exact front other inRest
      · refine ⟨[], index :: rest, rfl, ?_, fun other member => absurd member List.not_mem_nil, fun first others same => ?_⟩
        · rw [if_neg below]
          rfl
        · rw [← (List.cons.inj same).1]
          exact Nat.le_of_not_lt below

-- The block that a buffer was given from.
theorem find_allocated_outcome (pointer fuel : Nat) (prev : XvmemNode) (rest : List Nat) (enough : rest.length < fuel)
    (linked : Path mgr.next (mgr.next prev) (rest.map .block) none) :
    findAllocated mgr pointer fuel prev = some none ∧ (∀ index ∈ rest, mgr.aligned index ≠ pointer) ∨
      ∃ before index after, rest = before ++ index :: after ∧
        findAllocated mgr pointer fuel prev = some (some (lastNode prev (before.map .block), .block index)) ∧
        mgr.aligned index = pointer ∧ ∀ earlier ∈ before, mgr.aligned earlier ≠ pointer := by
  induction rest generalizing fuel prev with
  | nil =>
      obtain ⟨fuel, rfl⟩ := Nat.exists_eq_succ_of_ne_zero (Nat.ne_of_gt enough)
      have hung : mgr.next prev = none := linked
      left
      rw [findAllocated, hung]
      exact ⟨rfl, fun index member => absurd member List.not_mem_nil⟩
  | cons index rest ih =>
      obtain ⟨fuel, rfl⟩ := Nat.exists_eq_succ_of_ne_zero (Nat.ne_of_gt (Nat.zero_lt_of_lt enough))
      obtain ⟨here, later⟩ := linked
      have step : findAllocated mgr pointer (fuel + 1) prev =
          if mgr.aligned index = pointer then some (some (prev, .block index)) else findAllocated mgr pointer fuel (.block index) := by
        rw [findAllocated, here]
        rfl
      rw [step]
      by_cases same : mgr.aligned index = pointer
      · rw [if_pos same]
        exact .inr ⟨[], index, rest, rfl, rfl, same, fun earlier member => absurd member List.not_mem_nil⟩
      · rw [if_neg same]
        have other_ (names : List Nat) (others : ∀ other ∈ names, mgr.aligned other ≠ pointer) :
            ∀ other ∈ index :: names, mgr.aligned other ≠ pointer := fun other member => by
          rcases List.mem_cons.mp member with rfl | inRest
          · exact same
          · exact others other inRest
        rcases ih fuel (.block index) (Nat.lt_of_succ_lt_succ enough) later with ⟨missing, others⟩ | ⟨before, found, after, cut, call, hit, others⟩
        · exact .inl ⟨missing, other_ rest others⟩
        · refine .inr ⟨index :: before, found, after, by rw [cut, List.cons_append], ?_, hit, other_ before others⟩
          rw [List.map_cons, last_cons]
          exact call

end Search

-- What moving blocks between the lists leaves alone.
structure SameAccount (mgr next : XvmemMgr) : Prop where
  free : next.freeBytes = mgr.freeBytes
  allocated : next.allocatedBytes = mgr.allocatedBytes
  pool : SamePool mgr next

theorem same_account_trans (mgr middle next : XvmemMgr) (first : SameAccount mgr middle) (second : SameAccount middle next) :
    SameAccount mgr next :=
  ⟨second.free.trans first.free, second.allocated.trans first.allocated, same_pool_trans _ _ _ first.pool second.pool⟩

section Account

variable (mgr : XvmemMgr) (node : XvmemNode) (next : Option XvmemNode) (index size : Nat)

theorem same_account_next : SameAccount mgr (mgr.setNext node next) := ⟨rfl, rfl, rfl, rfl, rfl, rfl, rfl⟩

theorem same_account_grow : SameAccount mgr (growBlock mgr node size) := ⟨rfl, rfl, rfl, rfl, rfl, rfl, rfl⟩

theorem same_account_drop : SameAccount mgr (dropBlock mgr (.block index)) := ⟨rfl, rfl, rfl, rfl, rfl, rfl, rfl⟩

@[simp] theorem bits_set_next : (mgr.setNext node next).blockFreeBitvec = mgr.blockFreeBitvec := rfl

@[simp] theorem bits_grow_block : (growBlock mgr node size).blockFreeBitvec = mgr.blockFreeBitvec := rfl

@[simp] theorem bits_drop_block : (dropBlock mgr (.block index)).blockFreeBitvec = xvmemToggleBitvec mgr.blockFreeBitvec index 1 := rfl

end Account

section Return

variable (mgr : XvmemMgr) (free before gone after used : List Nat) (index kept : Nat) (value : Region)

-- A block on its way, and the free blocks gone into one with it, are one free block now.
structure ReturnOf (next : XvmemMgr) : Prop where
  member : kept ∈ index :: gone
  region : next.region = Function.update mgr.region kept value
  covered : ∀ place, (if value.Has place then 1 else 0) = cover ((index :: gone).map mgr.region) place
  size : value.size = total ((index :: gone).map mgr.region)
  below : ∀ name ∈ before, (mgr.region name).stop < value.start
  above : ∀ name ∈ after, value.stop < (mgr.region name).start
  freeLinked : Path next.next (next.next .freeListHead) ((before ++ kept :: after).map .block) (some .freeListTail)
  usedLinked : Path next.next (next.next .allocListHead) (used.map .block) none
  bits : ∀ name, bit next.blockFreeBitvec name = (bit mgr.blockFreeBitvec name ^^ decide (name ∈ index :: gone ∧ name ≠ kept))
  tail : (next.nodes .freeListTail).buffer = (mgr.nodes .freeListTail).buffer ∧
    (next.nodes .freeListTail).blockSize = (mgr.nodes .freeListTail).blockSize
  aligned : next.aligned = mgr.aligned
  account : SameAccount mgr next

theorem return_inv (next : XvmemMgr) (inv : XvmemInv mgr (before ++ gone ++ after) [index] used)
    (back : ReturnOf mgr before gone after used index kept value next) : XvmemInv next (before ++ kept :: after) [] used := by
  have member := back.member
  have distinct := inv.layout.distinct
  simp only [List.singleton_append, List.nodup_append, List.nodup_cons, List.mem_append, List.mem_cons] at distinct
  have filled := inv.layout.filled index (by simp)
  have positive : 0 < value.size := by
    rw [back.size, List.map_cons, total_cons]
    omega
  have layout := layout_return mgr.region before after used index _ _ gone kept value inv.layout member back.covered positive back.below back.above
  have maps (names : List Nat) (away : kept ∉ names) : names.map next.region = names.map mgr.region := by
    rw [back.region, map_update _ kept names _ away]
  have here : next.region kept = value := by rw [back.region, Function.update_self]
  have free_ := inv.freeBytes
  have size := back.size
  have keptUsed : kept ∉ used := by grind
  refine { freeLinked := back.freeLinked, usedLinked := back.usedLinked, inArray := fun name listed => ?_, bits := fun name inside => ?_,
           tail := ⟨back.tail.1.trans inv.tail.1, back.tail.2.trans inv.tail.2⟩, layout := ?_, aligned := fun name listed => ?_,
           freeBytes := ?_, allocatedBytes := ?_, whole := ?_, pool := ?_, few := ?_ }
  · rw [back.account.pool.numBlocks]
    refine inv.inArray name ?_
    simp only [List.mem_append, List.mem_cons, List.not_mem_nil] at listed member ⊢
    grind
  · rw [back.account.pool.numBlocks] at inside
    rw [back.bits name, inv.bits name inside]
    by_cases merged : name ∈ index :: gone ∧ name ≠ kept
    · have was : name ∈ before ++ gone ++ after ++ ([index] ++ used) := by
        have one := merged.1
        simp only [List.mem_append, List.mem_cons, List.not_mem_nil] at one ⊢
        grind
      have not_ : name ∉ before ++ kept :: after ++ ([] ++ used) := by
        have one := merged.1
        have two := merged.2
        simp only [List.mem_append, List.mem_cons, List.not_mem_nil] at one ⊢
        grind
      rw [decide_eq_true merged, decide_eq_false (not_not.mpr was), decide_eq_true not_]
      rfl
    · rw [decide_eq_false merged, Bool.xor_false]
      refine decide_eq_decide.mpr (not_congr ?_)
      simp only [List.mem_append, List.mem_cons, List.not_mem_nil] at member merged ⊢
      grind
  · rw [back.region, back.account.pool.buffer, back.account.pool.bufferSize]
    exact layout
  · have listed_ : name ∈ used := listed
    rw [back.aligned, back.region, Function.update_of_ne (ne_of_mem_of_not_mem listed_ keptUsed)]
    exact inv.aligned name (List.mem_append_right _ listed_)
  · rw [back.account.free, free_]
    simp only [List.map_append, List.map_cons, List.map_nil, total_append, total_cons, total_nil] at size ⊢
    rw [maps before (by grind), maps after (by grind), here]
    omega
  · rw [back.account.allocated, maps used keptUsed]
    exact inv.allocatedBytes
  · rw [back.account.free, back.account.allocated, back.account.pool.bufferSize]
    exact inv.whole
  · rw [back.account.pool.buffer, back.account.pool.bufferSize]
    exact inv.pool
  · rw [back.account.pool.numBlocks]
    exact inv.few

end Return

section Grow

variable (mgr : XvmemMgr) (index other size : Nat)

theorem region_grow_block (fits : (mgr.region index).size + size < 4294967296) : (growBlock mgr (.block index) size).region =
    Function.update mgr.region index ⟨(mgr.region index).start, (mgr.region index).size + size⟩ := by
  have sum : u32 (((mgr.nodes (.block index)).blockSize : Int) + size) = (mgr.region index).size + size :=
    u32_fits ((mgr.region index).size + size) fits
  rw [growBlock, region_set_block, sum]
  rfl

@[simp] theorem aligned_grow_block : (growBlock mgr (.block index) size).aligned = mgr.aligned :=
  (aligned_set_block mgr index fun old => { old with blockSize := u32 (old.blockSize + size) }).trans
    (Function.update_eq_self index mgr.aligned)

@[simp] theorem next_grow_block : (growBlock mgr (.block index) size).next = mgr.next :=
  next_set_kept mgr (.block index) (fun old => { old with blockSize := u32 (old.blockSize + size) }) rfl

theorem touches_region (fits : (mgr.region index).stop < 4294967296) :
    touches mgr (.block index) (.block other) = decide ((mgr.region index).stop = (mgr.region other).start) := by
  have sum : u32 (((mgr.nodes (.block index)).buffer : Int) + (mgr.nodes (.block index)).blockSize) = (mgr.region index).stop :=
    u32_fits (mgr.region index).stop fits
  rw [touches, sum]
  rfl

end Grow

section Merge

variable (mgr : XvmemMgr) (before after used : List Nat) (index : Nat) (inv : XvmemInv mgr (before ++ after) [index] used)

theorem place_next (linked : Path mgr.next (mgr.next .freeListHead) ((before ++ after).map .block) (some .freeListTail)) :
    mgr.next (lastNode .freeListHead (before.map .block)) = some ((after.map XvmemNode.block).headD .freeListTail) := by
  rw [List.map_append, path_append] at linked
  obtain ⟨middle, front, back⟩ := linked
  rw [path_last mgr.next _ _ _ front]
  cases after with
  | nil => exact back
  | cons first others => exact back.1

include inv in
theorem loose_apart : index ∉ before ∧ index ∉ after ∧ index ∉ used := by
  have distinct := inv.layout.distinct
  simp only [List.singleton_append, List.nodup_append, List.nodup_cons, List.mem_append, List.mem_cons] at distinct
  grind

include inv in
theorem used_apart_place : lastNode XvmemNode.freeListHead (before.map .block) ∉ XvmemNode.allocListHead :: used.map .block := by
  have distinct := inv.layout.distinct
  simp only [List.singleton_append, List.nodup_append, List.nodup_cons, List.mem_append, List.mem_cons] at distinct
  rcases free_last_block before with same | ⟨last, member, same⟩
  · rw [same]
    simp
  · rw [same]
    simp only [List.mem_cons, block_mem, reduceCtorEq, false_or]
    grind

include inv in
-- Between two free blocks that it does not touch.
theorem return_alone (below : ∀ name ∈ before, (mgr.region name).stop < (mgr.region index).start)
    (above : ∀ name ∈ after, (mgr.region index).stop < (mgr.region name).start) :
    ReturnOf mgr before [] after used index index (mgr.region index)
      ((mgr.setNext (.block index) (some ((after.map XvmemNode.block).headD .freeListTail))).setNext
        (lastNode .freeListHead (before.map .block)) (some (.block index))) := by
  obtain ⟨front, back, others⟩ := loose_apart mgr before after used index inv
  have distinct := (List.nodup_append.mp inv.layout.distinct).1
  have place := place_next mgr before after inv.freeLinked
  have fresh : XvmemNode.block index ∉ XvmemNode.freeListHead :: (before.map .block ++ after.map .block) := by
    simp only [List.mem_cons, List.mem_append, block_mem, reduceCtorEq, false_or, not_or]
    exact ⟨front, back⟩
  have apart : lastNode XvmemNode.freeListHead (before.map .block) ≠ .block index := fun same => fresh <| by
    rw [← same, ← List.cons_append]
    exact List.mem_append_left _ (last_mem _ _)
  have linked := inv.freeLinked
  rw [List.map_append] at linked
  refine { member := List.mem_cons_self, region := ?_, covered := fun location => ?_, size := ?_, below := below, above := above,
           freeLinked := ?_, usedLinked := ?_, bits := fun name => ?_, tail := ?_, aligned := ?_,
           account := same_account_trans _ _ _ (same_account_next mgr _ _) (same_account_next _ _ _) }
  · rw [region_set_next, region_set_next, Function.update_eq_self]
  · rw [List.map_cons, List.map_nil, cover_cons, cover_nil, Nat.zero_add]
  · simp
  · rw [next_set_next, next_set_next, List.map_append, List.map_cons]
    refine path_link _ _ _ _ _ _ ?_ fresh ?_ (hung_update mgr.next _ _ _ _ _ fresh linked)
    · rw [← List.map_append]
      exact free_head_nodup _ distinct
    · rw [Function.update_self, Function.update_of_ne apart, place]
  · rw [next_set_next, next_set_next]
    refine hung_update _ _ _ _ _ _ (used_apart_place mgr before after used index inv) (hung_update mgr.next _ _ _ _ _ ?_ inv.usedLinked)
    simp only [List.mem_cons, block_mem, reduceCtorEq, false_or]
    exact others
  · have none_ : ¬ (name ∈ [index] ∧ name ≠ index) := fun both => both.2 (List.mem_singleton.mp both.1)
    rw [decide_eq_false none_, Bool.xor_false, bits_set_next, bits_set_next]
  · have first := tail_set_next mgr (.block index) (some ((after.map XvmemNode.block).headD .freeListTail))
    have second := tail_set_next (mgr.setNext (.block index) (some ((after.map XvmemNode.block).headD .freeListTail)))
      (lastNode .freeListHead (before.map .block)) (some (.block index))
    exact ⟨second.1.trans first.1, second.2.trans first.2⟩
  · rw [aligned_set_next, aligned_set_next]

theorem tail_grow_block (size : Nat) : ((growBlock mgr (.block index) size).nodes .freeListTail) = mgr.nodes .freeListTail := by
  have apart : XvmemNode.freeListTail ≠ .block index := by simp
  simp only [growBlock, XvmemMgr.setNode, Function.update_of_ne apart]

-- Behind a free block that it touches.
theorem return_behind (prev : Nat) (inv : XvmemInv mgr (before ++ prev :: after) [index] used)
    (touch : (mgr.region prev).stop = (mgr.region index).start)
    (fits : (mgr.region prev).size + (mgr.region index).size < 4294967296)
    (above : ∀ name ∈ after, (mgr.region index).stop < (mgr.region name).start) :
    ReturnOf mgr before [prev] after used index prev ⟨(mgr.region prev).start, (mgr.region prev).size + (mgr.region index).size⟩
      (dropBlock (growBlock mgr (.block prev) (mgr.region index).size) (.block index)) := by
  have few := inv.few
  have valid := inv.inArray index (by simp)
  have distinct := inv.layout.distinct
  simp only [List.singleton_append, List.nodup_append, List.nodup_cons, List.mem_append, List.mem_cons] at distinct
  have separated := inv.layout.separated
  rw [List.map_append, List.map_cons] at separated
  have below := (separated_parts _ _ _ separated).2.2.1
  have region : (dropBlock (growBlock mgr (.block prev) (mgr.region index).size) (.block index)).region =
      (growBlock mgr (.block prev) (mgr.region index).size).region := rfl
  have next : (dropBlock (growBlock mgr (.block prev) (mgr.region index).size) (.block index)).next =
      (growBlock mgr (.block prev) (mgr.region index).size).next := rfl
  have tail := tail_grow_block mgr prev (mgr.region index).size
  refine { member := by simp, region := ?_, covered := fun location => ?_, size := ?_,
           below := fun name member => below _ (List.mem_map_of_mem member), above := fun name member => ?_, freeLinked := ?_,
           usedLinked := ?_, bits := fun name => ?_, tail := ⟨congrArg XvmemBlock.buffer tail, congrArg XvmemBlock.blockSize tail⟩,
           aligned := aligned_grow_block mgr prev _,
           account := same_account_trans _ _ _ (same_account_grow mgr _ _) (same_account_drop _ _) }
  · rw [region, region_grow_block mgr prev _ fits]
  · rw [touching_joined location _ _ touch]
    simp only [List.map_cons, List.map_nil, cover_cons, cover_nil]
    omega
  · simp only [List.map_cons, List.map_nil, total_cons, total_nil]
    omega
  · have order := above name member
    simp only [Region.stop] at order touch ⊢
    omega
  · rw [next, next_grow_block]
    exact inv.freeLinked
  · rw [next, next_grow_block]
    exact inv.usedLinked
  · rw [bits_drop_block, bits_grow_block, toggle_bitvec_spec _ index 1 (by omega)]
    refine congrArg _ (decide_eq_decide.mpr ?_)
    simp only [List.mem_cons, List.not_mem_nil, or_false]
    constructor
    · intro both
      obtain rfl : name = index := by omega
      exact ⟨.inl rfl, by grind⟩
    · rintro ⟨rfl | same, other⟩
      · omega
      · exact absurd same other

-- In front of a free block that it touches.
theorem return_ahead (first : Nat) (inv : XvmemInv mgr (before ++ first :: after) [index] used)
    (touch : (mgr.region index).stop = (mgr.region first).start)
    (fits : (mgr.region index).size + (mgr.region first).size < 4294967296)
    (below : ∀ name ∈ before, (mgr.region name).stop < (mgr.region index).start) :
    ReturnOf mgr before [first] after used index index ⟨(mgr.region index).start, (mgr.region index).size + (mgr.region first).size⟩
      (((growBlock (dropBlock mgr (.block first)) (.block index) (mgr.region first).size).setNext (.block index) (mgr.next (.block first))).setNext
        (lastNode .freeListHead (before.map .block)) (some (.block index))) := by
  have few := inv.few
  have valid := inv.inArray first (by simp)
  obtain ⟨front, back, others⟩ := loose_apart mgr before (first :: after) used index inv
  have apart : first ≠ index := fun same => back (by simp [same])
  have separated := inv.layout.separated
  rw [List.map_append, List.map_cons] at separated
  have above := (separated_parts _ _ _ separated).2.2.2
  have region := region_grow_block (dropBlock mgr (.block first)) index (mgr.region first).size fits
  have next := next_grow_block (dropBlock mgr (.block first)) index (mgr.region first).size
  have aligned := aligned_grow_block (dropBlock mgr (.block first)) index (mgr.region first).size
  have tail := tail_grow_block (dropBlock mgr (.block first)) index (mgr.region first).size
  have linked := inv.freeLinked
  rw [List.map_append, List.map_cons] at linked
  have nodes : (XvmemNode.freeListHead :: (before.map XvmemNode.block ++ .block first :: after.map .block)).Nodup := by
    have distinct := free_head_nodup _ (List.nodup_append.mp inv.layout.distinct).1
    rwa [List.map_append, List.map_cons] at distinct
  refine { member := List.mem_cons_self, region := ?_, covered := fun location => ?_, size := ?_, below := below,
           above := fun name member => ?_, freeLinked := ?_, usedLinked := ?_, bits := fun name => ?_, tail := ?_, aligned := ?_,
           account := same_account_trans _ _ _ (same_account_drop mgr first) (same_account_trans _ _ _ (same_account_grow _ _ _)
             (same_account_trans _ _ _ (same_account_next _ _ _) (same_account_next _ _ _))) }
  · rw [region_set_next, region_set_next, region]
    rfl
  · rw [touching_joined location _ _ touch]
    simp only [List.map_cons, List.map_nil, cover_cons, cover_nil]
    omega
  · simp only [List.map_cons, List.map_nil, total_cons, total_nil]
    omega
  · have order := above _ (List.mem_map_of_mem member)
    simp only [Region.stop] at order touch ⊢
    omega
  · rw [next_set_next, next_set_next, next, List.map_append, List.map_cons]
    refine path_replace mgr.next .freeListHead (.block first) (.block index) _ _ _ nodes ?_ linked
    simp only [List.mem_cons, List.mem_append, block_mem, reduceCtorEq, false_or, not_or]
    exact ⟨front, fun listed => back (List.mem_cons_of_mem first listed)⟩
  · rw [next_set_next, next_set_next, next]
    refine hung_update _ _ _ _ _ _ (used_apart_place mgr before (first :: after) used index inv) ?_
    refine hung_update mgr.next _ _ _ _ _ ?_ inv.usedLinked
    simp only [List.mem_cons, block_mem, reduceCtorEq, false_or]
    exact others
  · rw [bits_set_next, bits_set_next, bits_grow_block, bits_drop_block, toggle_bitvec_spec _ first 1 (by omega)]
    refine congrArg _ (decide_eq_decide.mpr ?_)
    simp only [List.mem_cons, List.not_mem_nil, or_false]
    constructor
    · intro both
      obtain rfl : name = first := by omega
      exact ⟨.inr rfl, apart⟩
    · rintro ⟨same | rfl, other⟩
      · exact absurd same other
      · omega
  · have one := tail_set_next (growBlock (dropBlock mgr (.block first)) (.block index) (mgr.region first).size) (.block index)
      (mgr.next (.block first))
    have two := tail_set_next ((growBlock (dropBlock mgr (.block first)) (.block index) (mgr.region first).size).setNext (.block index)
      (mgr.next (.block first))) (lastNode .freeListHead (before.map .block)) (some (.block index))
    rw [tail] at one
    exact ⟨two.1.trans one.1, two.2.trans one.2⟩
  · rw [aligned_set_next, aligned_set_next, aligned]
    rfl

-- Between two free blocks that it touches.
theorem return_between (prev first : Nat) (inv : XvmemInv mgr (before ++ prev :: first :: after) [index] used)
    (touch : (mgr.region prev).stop = (mgr.region index).start) (other : (mgr.region index).stop = (mgr.region first).start)
    (fits : (mgr.region prev).size + (mgr.region index).size + (mgr.region first).size < 4294967296) :
    ReturnOf mgr before [prev, first] after used index prev
      ⟨(mgr.region prev).start, (mgr.region prev).size + (mgr.region index).size + (mgr.region first).size⟩
      ((growBlock (dropBlock (dropBlock (growBlock mgr (.block prev) (mgr.region index).size) (.block index)) (.block first)) (.block prev)
        (mgr.region first).size).setNext (.block prev) (mgr.next (.block first))) := by
  have few := inv.few
  have valid := inv.inArray index (by simp)
  have valid_ := inv.inArray first (by simp)
  have distinct := inv.layout.distinct
  simp only [List.singleton_append, List.nodup_append, List.nodup_cons, List.mem_append, List.mem_cons] at distinct
  have separated := inv.layout.separated
  simp only [List.map_append, List.map_cons] at separated
  obtain ⟨-, back, below, -⟩ := separated_parts _ _ _ separated
  have above := (separated_parts [] _ _ back).2.2.2
  have grown := region_grow_block mgr prev (mgr.region index).size (by omega)
  have named : (growBlock mgr (.block prev) (mgr.region index).size).region prev =
      ⟨(mgr.region prev).start, (mgr.region prev).size + (mgr.region index).size⟩ := by rw [grown, Function.update_self]
  have region : (growBlock (dropBlock (dropBlock (growBlock mgr (.block prev) (mgr.region index).size) (.block index)) (.block first))
      (.block prev) (mgr.region first).size).region = Function.update mgr.region prev
        ⟨(mgr.region prev).start, (mgr.region prev).size + (mgr.region index).size + (mgr.region first).size⟩ := by
    have again := region_grow_block (dropBlock (dropBlock (growBlock mgr (.block prev) (mgr.region index).size) (.block index)) (.block first))
      prev (mgr.region first).size
    have same : (dropBlock (dropBlock (growBlock mgr (.block prev) (mgr.region index).size) (.block index)) (.block first)).region =
      (growBlock mgr (.block prev) (mgr.region index).size).region := rfl
    rw [same, named] at again
    rw [again fits, grown, Function.update_idem]
  have next : (growBlock (dropBlock (dropBlock (growBlock mgr (.block prev) (mgr.region index).size) (.block index)) (.block first))
      (.block prev) (mgr.region first).size).next = mgr.next :=
    (next_grow_block _ prev _).trans (next_grow_block mgr prev _)
  have aligned := aligned_grow_block (dropBlock (dropBlock (growBlock mgr (.block prev) (mgr.region index).size) (.block index)) (.block first))
    prev (mgr.region first).size
  have tail := tail_grow_block (dropBlock (dropBlock (growBlock mgr (.block prev) (mgr.region index).size) (.block index)) (.block first))
    prev (mgr.region first).size
  have tail_ := tail_grow_block mgr prev (mgr.region index).size
  have linked := inv.freeLinked
  have nodes := free_head_nodup _ (List.nodup_append.mp inv.layout.distinct).1
  rw [List.append_cons, List.map_append, List.map_cons] at linked nodes
  have apart : XvmemNode.block prev ∉ XvmemNode.allocListHead :: used.map .block := by
    simp only [List.mem_cons, block_mem, reduceCtorEq, false_or]
    grind
  have last : lastNode XvmemNode.freeListHead ((before ++ [prev]).map .block) = .block prev := by
    rw [List.map_append, List.map_cons, List.map_nil, last_append]
  refine { member := by simp, region := ?_, covered := fun location => ?_, size := ?_,
           below := fun name member => below _ (List.mem_map_of_mem member), above := fun name member => ?_, freeLinked := ?_,
           usedLinked := ?_, bits := fun name => ?_, tail := ?_, aligned := ?_, account := ?_ }
  · rw [region_set_next, region]
  · have one := touching_joined location _ _ touch
    have two := touching_joined location ⟨(mgr.region prev).start, (mgr.region prev).size + (mgr.region index).size⟩ (mgr.region first)
      (by simp only [Region.stop] at touch other ⊢; omega)
    rw [one] at two
    refine two.trans ?_
    simp only [List.map_cons, List.map_nil, cover_cons, cover_nil]
    omega
  · simp only [List.map_cons, List.map_nil, total_cons, total_nil]
    omega
  · have order := above _ (List.mem_map_of_mem member)
    simp only [Region.stop] at order touch other ⊢
    omega
  · rw [next_set_next, next]
    have unlinked := path_unlink mgr.next .freeListHead (.block first) ((before ++ [prev]).map .block) _ _ nodes linked
    rw [last, ← List.map_append, List.append_assoc, List.singleton_append] at unlinked
    exact unlinked
  · rw [next_set_next, next]
    exact hung_update mgr.next _ _ _ _ _ apart inv.usedLinked
  · rw [bits_set_next, bits_grow_block, bits_drop_block, bits_drop_block, bits_grow_block, toggle_bitvec_spec _ first 1 (by omega),
      toggle_bitvec_spec _ index 1 (by omega), Bool.xor_assoc]
    rw [decide_either _ _ (by grind)]
    refine congrArg _ (decide_eq_decide.mpr ?_)
    simp only [List.mem_cons, List.not_mem_nil, or_false]
    grind
  · have final := tail_set_next (growBlock (dropBlock (dropBlock (growBlock mgr (.block prev) (mgr.region index).size) (.block index))
      (.block first)) (.block prev) (mgr.region first).size) (.block prev) (mgr.next (.block first))
    rw [tail] at final
    exact ⟨final.1.trans (congrArg XvmemBlock.buffer tail_), final.2.trans (congrArg XvmemBlock.blockSize tail_)⟩
  · rw [aligned_set_next, aligned]
    exact aligned_grow_block mgr prev _
  · exact same_account_trans _ _ _ (same_account_grow mgr _ _) (same_account_trans _ _ _ (same_account_drop _ index)
      (same_account_trans _ _ _ (same_account_drop _ first) (same_account_trans _ _ _ (same_account_grow _ _ _) (same_account_next _ _ _))))

end Merge

section Add

variable (mgr : XvmemMgr) (index : Nat) (block behind : XvmemNode)
  (place : findPlace mgr (mgr.nodes (.block index)).buffer (mgr.numBlocks + 1) .freeListHead = some (block, behind))

include place

theorem add_alone (prev_ : (block ≠ .freeListHead && touches mgr block (.block index)) = false)
    (next_ : (behind ≠ .freeListTail && touches mgr (.block index) behind) = false) :
    xvmemAddBlockToFreeList mgr (.block index) =
      some ((mgr.setNext (.block index) (some behind)).setNext block (some (.block index))) := by
  rw [xvmemAddBlockToFreeList, place, Option.map_some]
  simp only [prev_, next_, Bool.false_eq_true, if_false]

theorem add_behind (prev_ : (block ≠ .freeListHead && touches mgr block (.block index)) = true)
    (next_ : (behind ≠ .freeListTail &&
      touches (dropBlock (growBlock mgr block (mgr.nodes (.block index)).blockSize) (.block index)) block behind) = false) :
    xvmemAddBlockToFreeList mgr (.block index) =
      some (dropBlock (growBlock mgr block (mgr.nodes (.block index)).blockSize) (.block index)) := by
  rw [xvmemAddBlockToFreeList, place, Option.map_some]
  simp only [prev_, next_, Bool.false_eq_true, if_false, if_true]

theorem add_ahead (prev_ : (block ≠ .freeListHead && touches mgr block (.block index)) = false)
    (next_ : (behind ≠ .freeListTail && touches mgr (.block index) behind) = true) :
    xvmemAddBlockToFreeList mgr (.block index) =
      some (((growBlock (dropBlock mgr behind) (.block index) (mgr.nodes behind).blockSize).setNext (.block index)
        ((growBlock (dropBlock mgr behind) (.block index) (mgr.nodes behind).blockSize).next behind)).setNext
          block (some (.block index))) := by
  rw [xvmemAddBlockToFreeList, place, Option.map_some]
  simp only [prev_, next_, Bool.false_eq_true, if_false, if_true]

theorem add_between (prev_ : (block ≠ .freeListHead && touches mgr block (.block index)) = true)
    (next_ : (behind ≠ .freeListTail &&
      touches (dropBlock (growBlock mgr block (mgr.nodes (.block index)).blockSize) (.block index)) block behind) = true) :
    xvmemAddBlockToFreeList mgr (.block index) =
      some ((growBlock (dropBlock (dropBlock (growBlock mgr block (mgr.nodes (.block index)).blockSize) (.block index)) behind) block
        ((dropBlock (growBlock mgr block (mgr.nodes (.block index)).blockSize) (.block index)).nodes behind).blockSize).setNext block
          ((growBlock (dropBlock (dropBlock (growBlock mgr block (mgr.nodes (.block index)).blockSize) (.block index)) behind) block
            ((dropBlock (growBlock mgr block (mgr.nodes (.block index)).blockSize) (.block index)).nodes behind).blockSize).next
              behind)) := by
  rw [xvmemAddBlockToFreeList, place, Option.map_some]
  simp only [prev_, next_, if_true]

end Add

section Outcome

variable (mgr : XvmemMgr) (free used : List Nat) (index : Nat)

-- The block is free again, and the blocks in use are what they were.
structure BlockReturned (next : XvmemMgr) (rest : List Nat) : Prop where
  inv : XvmemInv next rest [] used
  aligned : next.aligned = mgr.aligned
  kept : ∀ name ∈ used, next.region name = mgr.region name
  pool : SamePool mgr next

theorem block_returned (before gone after : List Nat) (kept : Nat) (value : Region) (next : XvmemMgr)
    (inv : XvmemInv mgr (before ++ gone ++ after) [index] used) (back : ReturnOf mgr before gone after used index kept value next) :
    BlockReturned mgr used next (before ++ kept :: after) := by
  have distinct := inv.layout.distinct
  simp only [List.singleton_append, List.nodup_append, List.nodup_cons, List.mem_append, List.mem_cons] at distinct
  have member := back.member
  refine ⟨return_inv mgr before gone after used index kept value next inv back, back.aligned, fun name listed => ?_, back.account.pool⟩
  rw [back.region, Function.update_of_ne (ne_of_mem_of_not_mem listed (by grind))]

-- The blocks on the two sides of the place that the search finds.
structure Placed (before after : List Nat) : Prop where
  below : ∀ name ∈ before, (mgr.region name).stop ≤ (mgr.region index).start
  above : ∀ first others, after = first :: others → (mgr.region index).stop ≤ (mgr.region first).start

theorem placed (before after : List Nat) (inv : XvmemInv mgr (before ++ after) [index] used)
    (front : ∀ name ∈ before, (mgr.region name).start < (mgr.region index).start)
    (back : ∀ first others, after = first :: others → (mgr.region index).start ≤ (mgr.region first).start) : Placed mgr index before after := by
  have listed : index ∈ before ++ after ++ ([index] ++ used) := by simp
  obtain ⟨off, off_, -⟩ := loose_apart mgr before after used index inv
  have apart (name : Nat) (member : name ∈ before ++ after ++ ([index] ++ used)) (different : name ≠ index) :=
    layout_apart mgr.region _ _ name index _ _ inv.layout member listed different
  constructor
  · intro name member
    have order := front name member
    have size := inv.layout.filled index listed
    have away := apart name (by simp [member]) (ne_of_mem_of_not_mem member off)
    simp only [Apart, Region.stop] at away ⊢
    omega
  · intro first others same
    have order := back first others same
    have member : first ∈ after := by simp [same]
    have size := inv.layout.filled first (by simp [member])
    have away := apart first (by simp [member]) (ne_of_mem_of_not_mem member off_)
    simp only [Apart, Region.stop] at away ⊢
    omega

theorem loose_low (inv : XvmemInv mgr free [index] used) (name : Nat) (member : name ∈ free ++ ([index] ++ used)) :
    (mgr.region name).stop ≤ 0xffffffff := by
  have inside := layout_inside mgr.region free _ name _ _ inv.layout member
  have pool := inv.pool
  omega

theorem merges_with_prev (before : List Nat) (low : ∀ name ∈ before, (mgr.region name).stop ≤ 0xffffffff) :
    (lastNode XvmemNode.freeListHead (before.map .block) ≠ .freeListHead &&
        touches mgr (lastNode .freeListHead (before.map .block)) (.block index)) = true ↔
      ∃ init prev, before = init ++ [prev] ∧ (mgr.region prev).stop = (mgr.region index).start := by
  rcases List.eq_nil_or_concat before with rfl | ⟨init, prev, rfl⟩
  · simp
  · have bound := low prev (by simp)
    rw [List.concat_eq_append, List.map_append, List.map_cons, List.map_nil, last_append, touches_region mgr prev index (by omega)]
    simp only [ne_eq, reduceCtorEq, not_false_eq_true, decide_true, Bool.true_and, decide_eq_true_eq]
    constructor
    · exact fun touch => ⟨init, prev, rfl, touch⟩
    · rintro ⟨other, last, same, touch⟩
      rw [(List.append_inj' same rfl).2 |> List.cons.inj |>.1]
      exact touch

-- The block in front may be the one that this block has gone into.
theorem merges_with_next (after : List Nat) (grown : XvmemMgr) (front : Nat) (low : (mgr.region index).stop ≤ 0xffffffff)
    (stop : (grown.region front).stop = (mgr.region index).stop)
    (start : ∀ name ∈ after, (grown.region name).start = (mgr.region name).start) :
    ((after.map XvmemNode.block).headD .freeListTail ≠ .freeListTail &&
        touches grown (.block front) ((after.map XvmemNode.block).headD .freeListTail)) = true ↔
      ∃ first others, after = first :: others ∧ (mgr.region index).stop = (mgr.region first).start := by
  cases after with
  | nil => simp
  | cons first others =>
      have same := start first List.mem_cons_self
      rw [List.map_cons, List.headD_cons, touches_region grown front first (by omega), stop, same]
      simp

theorem add_block_outcome (inv : XvmemInv mgr free [index] used) :
    ∃ next rest, xvmemAddBlockToFreeList mgr (.block index) = some next ∧ BlockReturned mgr used next rest := by
  have low := loose_low mgr free used index inv
  have here := low index (by simp)
  obtain ⟨before, after, rfl, place, front, back⟩ := find_place_outcome mgr (mgr.region index).start (mgr.numBlocks + 1) .freeListHead free
    (Nat.lt_succ_of_le (free_length mgr free used [index] inv)) (by rw [inv.tail.1]; simp only [Region.stop] at here; omega) inv.freeLinked
  obtain ⟨below, above⟩ := placed mgr used index before after inv front back
  have prev_ := merges_with_prev mgr index before fun name member => low name (by simp [member])
  have below_ : (¬ ∃ init prev, before = init ++ [prev] ∧ (mgr.region prev).stop = (mgr.region index).start) →
      ∀ name ∈ before, (mgr.region name).stop < (mgr.region index).start := fun apart => by
    have separated := inv.layout.separated
    rw [List.map_append] at separated
    refine all_below mgr.region before (List.pairwise_append.mp separated).1 _ fun init last same => ?_
    exact Nat.lt_of_le_of_ne (below last (by simp [same])) fun touch => apart ⟨init, last, same, touch⟩
  have above_ : (¬ ∃ first others, after = first :: others ∧ (mgr.region index).stop = (mgr.region first).start) →
      ∀ name ∈ after, (mgr.region index).stop < (mgr.region name).start := fun apart => by
    have separated := inv.layout.separated
    rw [List.map_append] at separated
    refine all_above mgr.region after (List.pairwise_append.mp separated).2.1 _ fun first others same => ?_
    exact Nat.lt_of_le_of_ne (above first others same) fun touch => apart ⟨first, others, same, touch⟩
  by_cases onPrev : ∃ init prev, before = init ++ [prev] ∧ (mgr.region prev).stop = (mgr.region index).start
  · have joined := prev_.mpr onPrev
    obtain ⟨init, prev, rfl, touch⟩ := onPrev
    have last : lastNode XvmemNode.freeListHead ((init ++ [prev]).map .block) = .block prev := by
      rw [List.map_append, List.map_cons, List.map_nil, last_append]
    rw [last] at place joined
    have fits : (mgr.region prev).size + (mgr.region index).size < 4294967296 := by
      simp only [Region.stop] at touch here
      omega
    have inv_ : XvmemInv mgr (init ++ prev :: after) [index] used := by simpa using inv
    have grown : (dropBlock (growBlock mgr (.block prev) (mgr.region index).size) (.block index)).region = _ :=
      region_grow_block mgr prev (mgr.region index).size fits
    have distinct := inv_.layout.distinct
    simp only [List.nodup_append, List.nodup_cons, List.mem_append, List.mem_cons] at distinct
    have others_ (name : Nat) (member : name ∈ after) :
        (dropBlock (growBlock mgr (.block prev) (mgr.region index).size) (.block index)).region name = mgr.region name := by
      rw [grown, Function.update_of_ne (by grind)]
    have next_ := merges_with_next mgr index after (dropBlock (growBlock mgr (.block prev) (mgr.region index).size) (.block index)) prev here
      (by rw [grown, Function.update_self]; simp only [Region.stop] at touch ⊢; omega)
      fun name member => congrArg Region.start (others_ name member)
    by_cases onNext : ∃ first others, after = first :: others ∧ (mgr.region index).stop = (mgr.region first).start
    · have joins := next_.mpr onNext
      obtain ⟨first, others, rfl, other⟩ := onNext
      have call := add_between mgr index _ _ place joined joins
      have fits_ : (mgr.region prev).size + (mgr.region index).size + (mgr.region first).size < 4294967296 := by
        have bound := low first (by simp)
        simp only [Region.stop] at touch other bound
        omega
      have back := return_between mgr init others used index prev first inv_ touch other fits_
      have size : ((dropBlock (growBlock mgr (.block prev) (mgr.region index).size) (.block index)).nodes (.block first)).blockSize =
          (mgr.region first).size := congrArg Region.size (others_ first (by simp))
      have next : (growBlock (dropBlock (dropBlock (growBlock mgr (.block prev) (mgr.region index).size) (.block index)) (.block first))
          (.block prev) (mgr.region first).size).next (.block first) = mgr.next (.block first) :=
        congrFun ((next_grow_block _ prev _).trans (next_grow_block mgr prev _)) (.block first)
      have same : (mgr.nodes (.block index)).blockSize = (mgr.region index).size := rfl
      rw [List.map_cons, List.headD_cons, same, size, next] at call
      exact ⟨_, _, call, block_returned mgr used index init [prev, first] others prev _ _ (by simpa using inv) back⟩
    · have apart := Bool.eq_false_iff.mpr fun joins => onNext (next_.mp joins)
      have call := add_behind mgr index _ _ place joined apart
      have back := return_behind mgr init after used index prev inv_ touch fits (above_ onNext)
      exact ⟨_, _, call, block_returned mgr used index init [prev] after prev _ _ (by simpa using inv) back⟩
  · have not_ := Bool.eq_false_iff.mpr fun joins => onPrev (prev_.mp joins)
    have next_ := merges_with_next mgr index after mgr index here rfl fun _ _ => rfl
    by_cases onNext : ∃ first others, after = first :: others ∧ (mgr.region index).stop = (mgr.region first).start
    · have joins := next_.mpr onNext
      obtain ⟨first, others, rfl, touch⟩ := onNext
      have call := add_ahead mgr index _ _ place not_ joins
      have fits : (mgr.region index).size + (mgr.region first).size < 4294967296 := by
        have bound := low first (by simp)
        simp only [Region.stop] at touch bound
        omega
      have back := return_ahead mgr before others used index first inv touch fits (below_ onPrev)
      have next : (growBlock (dropBlock mgr (.block first)) (.block index) (mgr.nodes (.block first)).blockSize).next (.block first) =
          mgr.next (.block first) := congrFun (next_grow_block _ index _) (.block first)
      rw [List.map_cons, List.headD_cons, next] at call
      exact ⟨_, _, call, block_returned mgr used index before [first] others index _ _ (by simpa using inv) back⟩
    · have apart := Bool.eq_false_iff.mpr fun joins => onNext (next_.mp joins)
      have call := add_alone mgr index _ _ place not_ apart
      have back := return_alone mgr before after used index inv (below_ onPrev) (above_ onNext)
      exact ⟨_, _, call, block_returned mgr used index before [] after index _ _ (by simpa using inv) back⟩

end Outcome

section Free

variable (mgr : XvmemMgr) (free used before after : List Nat) (index : Nat)

-- The block leaves the allocated list.
def leaveUsed (prev block : XvmemNode) : XvmemMgr :=
  { mgr.setNext prev (mgr.next block) with
      freeBytes := u32 (mgr.freeBytes + ((mgr.setNext prev (mgr.next block)).nodes block).blockSize),
      allocatedBytes := u32 (mgr.allocatedBytes - ((mgr.setNext prev (mgr.next block)).nodes block).blockSize),
      unusedBytes := u32 (mgr.unusedBytes - (((mgr.setNext prev (mgr.next block)).nodes block).buffer -
        ((mgr.setNext prev (mgr.next block)).nodes block).alignedBuffer)) }

theorem free_call (pointer : Nat) (some_ : pointer ≠ 0) (prev block : XvmemNode)
    (found : findAllocated mgr pointer (mgr.numBlocks + 1) .allocListHead = some (some (prev, block))) :
    xvmemFree mgr pointer = xvmemAddBlockToFreeList (leaveUsed mgr prev block) block := by
  rw [xvmemFree, if_neg some_, found]
  rfl

theorem used_length (inv : XvmemInv mgr free [] used) : used.length ≤ mgr.numBlocks := by
  have distinct := (List.nodup_append.mp inv.layout.distinct).2.1
  have inside : used ⊆ List.range mgr.numBlocks := fun index member =>
    List.mem_range.mpr (inv.inArray index (List.mem_append_right _ member))
  simpa using (List.subperm_of_subset distinct inside).length_le

theorem leave_used_inv (inv : XvmemInv mgr free [] (before ++ index :: after)) :
    XvmemInv (leaveUsed mgr (lastNode .allocListHead (before.map .block)) (.block index)) free [index] (before ++ after) := by
  have distinct := inv.layout.distinct
  have linked := inv.usedLinked
  have nodes := alloc_head_nodup _ (List.nodup_append.mp distinct).2.1
  have free_ := inv.freeBytes
  have allocated := inv.allocatedBytes
  have whole := inv.whole
  have pool := inv.pool
  simp only [List.nil_append, List.nodup_append, List.nodup_cons, List.mem_append, List.mem_cons] at distinct
  rw [List.map_append, List.map_cons] at linked
  rw [List.nil_append, List.map_append, List.map_cons] at nodes
  simp only [List.map_append, List.map_cons, List.map_nil, total_append, total_cons, total_nil] at allocated free_
  have region : (leaveUsed mgr (lastNode .allocListHead (before.map .block)) (.block index)).region = mgr.region :=
    region_set_next mgr (lastNode .allocListHead (before.map .block)) (mgr.next (.block index))
  have aligned : (leaveUsed mgr (lastNode .allocListHead (before.map .block)) (.block index)).aligned = mgr.aligned :=
    aligned_set_next mgr (lastNode .allocListHead (before.map .block)) (mgr.next (.block index))
  have next : (leaveUsed mgr (lastNode .allocListHead (before.map .block)) (.block index)).next =
      Function.update mgr.next (lastNode .allocListHead (before.map .block)) (mgr.next (.block index)) :=
    next_set_next mgr (lastNode .allocListHead (before.map .block)) (mgr.next (.block index))
  have size : ((mgr.setNext (lastNode .allocListHead (before.map .block)) (mgr.next (.block index))).nodes (.block index)).blockSize =
      (mgr.region index).size := congrArg (fun region => (region index).size) region
  have more : (leaveUsed mgr (lastNode .allocListHead (before.map .block)) (.block index)).freeBytes =
      mgr.freeBytes + (mgr.region index).size := by
    rw [leaveUsed]
    simp only [size]
    exact u32_fits (mgr.freeBytes + (mgr.region index).size) (by omega)
  have less : (leaveUsed mgr (lastNode .allocListHead (before.map .block)) (.block index)).allocatedBytes =
      mgr.allocatedBytes - (mgr.region index).size := by
    rw [leaveUsed]
    simp only [size]
    have value : ((mgr.allocatedBytes : Int) - ((mgr.region index).size : Nat)) = (mgr.allocatedBytes - (mgr.region index).size : Nat) := by omega
    rw [value, u32_fits _ (by omega)]
  have tail := tail_set_next mgr (lastNode .allocListHead (before.map .block)) (mgr.next (.block index))
  refine { freeLinked := ?_, usedLinked := ?_, inArray := fun name member => inv.inArray name ?_, bits := fun name inside => ?_,
           tail := ⟨tail.1.trans inv.tail.1, tail.2.trans inv.tail.2⟩, layout := ?_, aligned := fun name member => ?_, freeBytes := ?_,
           allocatedBytes := ?_, whole := ?_, pool := pool, few := inv.few }
  · rw [next]
    refine hung_update mgr.next _ _ _ _ _ ?_ inv.freeLinked
    have last := last_mem XvmemNode.allocListHead (before.map .block)
    rcases List.mem_cons.mp last with same | listed
    · rw [same]
      simp
    · obtain ⟨name, member, same⟩ := List.mem_map.mp listed
      rw [← same]
      simp only [List.mem_cons, block_mem, reduceCtorEq, false_or]
      grind
  · rw [next, List.map_append]
    exact path_unlink mgr.next _ _ _ _ _ nodes linked
  · simp only [List.mem_append, List.mem_cons, List.not_mem_nil] at member ⊢
    grind
  · refine (inv.bits name inside).trans (decide_eq_decide.mpr (not_congr ?_))
    simp only [List.mem_append, List.mem_cons, List.not_mem_nil]
    grind
  · rw [region]
    refine layout_perm mgr.region free _ _ _ _ ?_ inv.layout
    exact List.perm_middle
  · rw [region, aligned]
    refine inv.aligned name ?_
    simp only [List.mem_append, List.mem_cons, List.not_mem_nil] at member ⊢
    grind
  · rw [more, region, free_]
    simp
  · rw [less, allocated, region]
    simp only [List.map_append, total_append]
    omega
  · rw [more, less]
    exact (by omega : mgr.freeBytes + (mgr.region index).size + (mgr.allocatedBytes - (mgr.region index).size) = mgr.bufferSize)

-- A pointer that is no buffer of the heap changes nothing. A buffer goes back, and the others stay.
inductive FreeOutcome (pointer : Nat) : XvmemMgr → Prop where
  | unknown (missing : ∀ index ∈ used, mgr.aligned index ≠ pointer) : FreeOutcome pointer mgr
  | freed (next : XvmemMgr) (before : List Nat) (index : Nat) (after rest : List Nat) (cut : used = before ++ index :: after)
      (hit : mgr.aligned index = pointer) (back : BlockReturned mgr (before ++ after) next rest) : FreeOutcome pointer next

theorem free_outcome (pointer : Nat) (inv : XvmemInv mgr free [] used) :
    ∃ next, xvmemFree mgr pointer = some next ∧ FreeOutcome mgr used pointer next := by
  have nonzero : ∀ index ∈ used, mgr.aligned index ≠ 0 := fun index member => by
    have inside := layout_inside mgr.region free _ index _ _ inv.layout (List.mem_append_right _ member)
    have within := inv.aligned index member
    have pool := inv.pool
    simp only [Region.Has] at within
    omega
  by_cases zero : pointer = 0
  · refine ⟨mgr, by rw [xvmemFree, if_pos zero], .unknown fun index member => ?_⟩
    rw [zero]
    exact nonzero index member
  · have found := find_allocated_outcome mgr pointer (mgr.numBlocks + 1) .allocListHead used
      (Nat.lt_succ_of_le (used_length mgr free used inv)) inv.usedLinked
    rcases found with ⟨missing, others⟩ | ⟨before, index, after, rfl, search, hit, -⟩
    · refine ⟨mgr, ?_, .unknown others⟩
      rw [xvmemFree, if_neg zero, missing]
      rfl
    · have left_ := leave_used_inv mgr free before after index inv
      obtain ⟨next, rest, call, back⟩ := add_block_outcome _ free _ index left_
      refine ⟨next, (free_call mgr pointer zero _ _ search).trans call, .freed next before index after rest rfl hit ?_⟩
      have pool : SamePool mgr (leaveUsed mgr (lastNode .allocListHead (before.map .block)) (.block index)) := ⟨rfl, rfl, rfl, rfl, rfl⟩
      refine ⟨back.inv, back.aligned.trans (aligned_set_next mgr _ _), fun name member => ?_, same_pool_trans _ _ _ pool back.pool⟩
      exact (back.kept name member).trans (congrFun (region_set_next mgr _ _) name)

end Free

end CsiDsp
