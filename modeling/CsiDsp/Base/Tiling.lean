import Mathlib.Data.List.Basic

set_option autoImplicit false

-- A length cut into blocks of a limit, the last one shorter.
namespace Tiling

structure Block where
  offset : Nat
  size : Nat
deriving DecidableEq, Repr

-- Blocks that follow each other without a gap, none of them empty.
def Consecutive : Nat → List Block → Nat → Prop
  | start, [], stop => start = stop
  | start, block :: rest, stop => block.offset = start ∧ 0 < block.size ∧ Consecutive (start + block.size) rest stop

def blockCount (total limit : Nat) : Nat := total / limit + if total % limit = 0 then 0 else 1

def blockSize (total limit index : Nat) : Nat :=
  if index + 1 = blockCount total limit ∧ total % limit ≠ 0 then total % limit else limit

def blockAt (total limit index : Nat) : Block := ⟨limit * index, blockSize total limit index⟩

def blocks (total limit : Nat) : List Block := (List.range (blockCount total limit)).map (blockAt total limit)

theorem consecutive_append (start middle stop : Nat) (first second : List Block) (before : Consecutive start first middle)
    (after : Consecutive middle second stop) : Consecutive start (first ++ second) stop := by
  induction first generalizing start with
  | nil =>
      cases before
      exact after
  | cons block rest ih => exact ⟨before.1, before.2.1, ih _ before.2.2⟩

-- The sizes determine the blocks.
theorem consecutive_sizes (start stop other : Nat) (first second : List Block) (one : Consecutive start first stop)
    (two : Consecutive start second other) (same : first.map Block.size = second.map Block.size) : first = second ∧ stop = other := by
  induction first generalizing start second with
  | nil =>
      cases second with
      | nil => exact ⟨rfl, one.symm.trans two⟩
      | cons block rest => cases same
  | cons block rest ih =>
      cases second with
      | nil => cases same
      | cons other rest' =>
          obtain ⟨size, tail⟩ := List.cons_eq_cons.mp same
          obtain ⟨offset, -, later⟩ := one
          obtain ⟨offset', -, later'⟩ := two
          rw [← size] at later'
          obtain ⟨equal, last⟩ := ih _ rest' later later' tail
          have block_ : block = other := by
            cases block
            cases other
            exact Block.mk.injEq _ _ _ _ ▸ ⟨offset.trans offset'.symm, size⟩
          exact ⟨by rw [block_, equal], last⟩

theorem consecutive_le (start stop : Nat) (list : List Block) (tiled : Consecutive start list stop) : start ≤ stop := by
  induction list generalizing start with
  | nil => exact Nat.le_of_eq tiled
  | cons block rest ih => exact Nat.le_trans (Nat.le_add_right start block.size) (ih _ tiled.2.2)

theorem consecutive_inside (start stop : Nat) (list : List Block) (tiled : Consecutive start list stop) (block : Block)
    (member : block ∈ list) : start ≤ block.offset ∧ block.offset + block.size ≤ stop := by
  induction list generalizing start with
  | nil => cases member
  | cons first rest ih =>
      obtain ⟨offset, -, later⟩ := tiled
      rcases List.mem_cons.mp member with rfl | inRest
      · exact ⟨Nat.le_of_eq offset.symm, offset ▸ consecutive_le _ stop rest later⟩
      · obtain ⟨low, high⟩ := ih _ later inRest
        exact ⟨Nat.le_trans (Nat.le_add_right start first.size) low, high⟩

-- Every place lies in exactly one block.
theorem consecutive_once (start stop : Nat) (list : List Block) (tiled : Consecutive start list stop) (place : Nat)
    (low : start ≤ place) (high : place < stop) :
    ∃! block, block ∈ list ∧ block.offset ≤ place ∧ place < block.offset + block.size := by
  induction list generalizing start with
  | nil => exact absurd (Nat.lt_of_lt_of_le high (Nat.le_of_eq tiled.symm)) (Nat.not_lt_of_ge low)
  | cons first rest ih =>
      obtain ⟨offset, -, later⟩ := tiled
      rcases Nat.lt_or_ge place (start + first.size) with here | beyond
      · refine ⟨first, ⟨List.mem_cons_self, by omega, by omega⟩, ?_⟩
        rintro other ⟨member, before, -⟩
        rcases List.mem_cons.mp member with same | inRest
        · exact same
        · have after := (consecutive_inside _ stop rest later other inRest).1
          omega
      · obtain ⟨block, ⟨member, before, after⟩, alone⟩ := ih _ later beyond
        refine ⟨block, ⟨List.mem_cons_of_mem first member, before, after⟩, ?_⟩
        rintro other ⟨member', before', after'⟩
        rcases List.mem_cons.mp member' with rfl | inRest
        · omega
        · exact alone other ⟨inRest, before', after'⟩

section Blocks

variable (total limit : Nat)

theorem full_blocks_consecutive (positive : 0 < limit) (count : Nat) :
    Consecutive 0 ((List.range count).map fun index => ⟨limit * index, limit⟩) (limit * count) := by
  induction count with
  | zero => rfl
  | succ count ih =>
      rw [List.range_succ, List.map_append]
      exact consecutive_append 0 _ _ _ _ ih ⟨rfl, positive, rfl⟩

theorem block_count_whole (whole : total % limit = 0) : blockCount total limit = total / limit := by
  rw [blockCount, if_pos whole, Nat.add_zero]

theorem block_count_rest (rest : total % limit ≠ 0) : blockCount total limit = total / limit + 1 := by
  rw [blockCount, if_neg rest]

theorem block_size_full (index : Nat) (full : total % limit = 0 ∨ index < total / limit) : blockSize total limit index = limit := by
  rw [blockSize, if_neg]
  rintro ⟨last, rest⟩
  rw [block_count_rest total limit rest] at last
  omega

theorem block_size_last (rest : total % limit ≠ 0) : blockSize total limit (total / limit) = total % limit := by
  rw [blockSize, if_pos ⟨(block_count_rest total limit rest).symm, rest⟩]

theorem block_size_le (positive : 0 < limit) (index : Nat) : blockSize total limit index ≤ limit := by
  rw [blockSize]
  split
  · exact Nat.le_of_lt (Nat.mod_lt total positive)
  · exact Nat.le_refl limit

theorem block_size_pos (positive : 0 < limit) (index : Nat) : 0 < blockSize total limit index := by
  rw [blockSize]
  split
  case isTrue last => exact Nat.pos_of_ne_zero last.2
  case isFalse => exact positive

theorem blocks_consecutive (positive : 0 < limit) : Consecutive 0 (blocks total limit) total := by
  have whole : limit * (total / limit) + total % limit = total := Nat.div_add_mod total limit
  have front : Consecutive 0 ((List.range (total / limit)).map (blockAt total limit)) (limit * (total / limit)) := by
    have same : (List.range (total / limit)).map (blockAt total limit) =
        (List.range (total / limit)).map fun index => ⟨limit * index, limit⟩ := by
      refine List.map_congr_left fun index member => ?_
      rw [blockAt, block_size_full total limit index (.inr (List.mem_range.mp member))]
    rw [same]
    exact full_blocks_consecutive limit positive (total / limit)
  by_cases rest : total % limit = 0
  · rw [blocks, block_count_whole total limit rest]
    rw [rest, Nat.add_zero] at whole
    rwa [whole] at front
  · rw [blocks, block_count_rest total limit rest, List.range_succ, List.map_append]
    refine consecutive_append 0 _ total _ _ front ⟨rfl, ?_, ?_⟩
    · rw [blockAt, block_size_last total limit rest]
      exact Nat.pos_of_ne_zero rest
    · rw [blockAt, block_size_last total limit rest]
      exact whole

theorem block_inside (positive : 0 < limit) (index : Nat) (below : index < blockCount total limit) :
    limit * index + blockSize total limit index ≤ total := by
  have member : blockAt total limit index ∈ blocks total limit := List.mem_map.mpr ⟨index, List.mem_range.mpr below, rfl⟩
  exact (consecutive_inside 0 total _ (blocks_consecutive total limit positive) _ member).2

theorem block_count_zero (none_ : blockCount total limit = 0) : total = 0 := by
  have whole : limit * (total / limit) + total % limit = total := Nat.div_add_mod total limit
  by_cases rest : total % limit = 0
  · rw [block_count_whole total limit rest] at none_
    rw [← whole, none_, rest]
    rfl
  · rw [block_count_rest total limit rest] at none_
    cases none_

theorem last_block_stop (index : Nat) (last : index + 1 = blockCount total limit) :
    limit * index + blockSize total limit index = total := by
  have whole : limit * (total / limit) + total % limit = total := Nat.div_add_mod total limit
  by_cases rest : total % limit = 0
  · rw [block_count_whole total limit rest] at last
    rw [block_size_full total limit index (.inl rest), ← Nat.mul_succ, Nat.succ_eq_add_one, last]
    omega
  · rw [block_count_rest total limit rest] at last
    have here : index = total / limit := Nat.succ.inj last
    rw [here, block_size_last total limit rest]
    exact whole

end Blocks

end Tiling
