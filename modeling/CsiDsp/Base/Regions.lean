import Mathlib.Algebra.BigOperators.Group.List.Basic
import Mathlib.Algebra.Ring.Nat
import Mathlib.Data.List.Pairwise
import Mathlib.Data.List.Perm.Basic

set_option autoImplicit false

-- A pool of places cut into regions, in any order.
namespace Regions

structure Region where
  start : Nat
  size : Nat
deriving DecidableEq, Repr

def Region.stop (region : Region) : Nat := region.start + region.size

def Region.Has (region : Region) (place : Nat) : Prop := region.start ≤ place ∧ place < region.stop

instance (region : Region) (place : Nat) : Decidable (region.Has place) := inferInstanceAs (Decidable (_ ∧ _))

-- How many of the regions have the place.
def cover (regions : List Region) (place : Nat) : Nat := regions.countP fun region => decide (region.Has place)

-- Every place of the pool is in one region, and no region has another place.
def Tiles (regions : List Region) (low high : Nat) : Prop :=
  ∀ place, cover regions place = if low ≤ place ∧ place < high then 1 else 0

def Apart (first second : Region) : Prop := first.stop ≤ second.start ∨ second.stop ≤ first.start

-- In order, and with something between two neighbours.
def Separated (regions : List Region) : Prop := regions.Pairwise fun first second => first.stop < second.start

def total (regions : List Region) : Nat := (regions.map Region.size).sum

section Cover

variable (regions others : List Region) (region : Region) (place : Nat)

@[simp] theorem cover_nil : cover [] place = 0 := rfl

theorem cover_cons : cover (region :: regions) place = cover regions place + if region.Has place then 1 else 0 := by
  simp [cover, List.countP_cons]

theorem cover_append : cover (regions ++ others) place = cover regions place + cover others place := List.countP_append

theorem cover_perm (perm : regions.Perm others) : cover regions place = cover others place := perm.countP_eq _

theorem cover_pos : 0 < cover regions place ↔ ∃ region ∈ regions, region.Has place := by
  simp [cover, List.countP_pos_iff]

-- Two regions that touch have the places of the one that they make up.
theorem has_joined (start first second : Nat) : (if (⟨start, first + second⟩ : Region).Has place then 1 else 0) =
    (if (⟨start, first⟩ : Region).Has place then 1 else 0) + if (⟨start + first, second⟩ : Region).Has place then 1 else 0 := by
  simp only [Region.Has, Region.stop]
  grind

theorem touching_joined (first second : Region) (touch : first.stop = second.start) :
    (if (⟨first.start, first.size + second.size⟩ : Region).Has place then 1 else 0) =
      (if first.Has place then 1 else 0) + if second.Has place then 1 else 0 := by
  have joined := has_joined place first.start first.size second.size
  rw [Region.stop] at touch
  rw [touch] at joined
  exact joined

end Cover

section Total

variable (regions others : List Region) (region : Region)

@[simp] theorem total_nil : total [] = 0 := rfl

@[simp] theorem total_cons : total (region :: regions) = region.size + total regions := by simp [total]

@[simp] theorem total_append : total (regions ++ others) = total regions + total others := by simp [total]

end Total

section Tiles

variable (regions : List Region) (low high : Nat) (tiled : Tiles regions low high)
  (filled : ∀ region ∈ regions, 0 < region.size)

theorem tiles_perm (others : List Region) (perm : regions.Perm others) (tiled : Tiles regions low high) : Tiles others low high :=
  fun place => cover_perm regions others place perm ▸ tiled place

include tiled

theorem tiles_has (place : Nat) (low_ : low ≤ place) (high_ : place < high) : ∃ region ∈ regions, region.Has place := by
  refine (cover_pos regions place).mp ?_
  rw [tiled place, if_pos ⟨low_, high_⟩]
  exact Nat.one_pos

theorem tiles_inside (region : Region) (member : region ∈ regions) (some_ : 0 < region.size) :
    low ≤ region.start ∧ region.stop ≤ high := by
  have inside (place : Nat) (has : region.Has place) : low ≤ place ∧ place < high := by
    by_contra outside
    have covered := (cover_pos regions place).mpr ⟨region, member, has⟩
    rw [tiled place, if_neg outside] at covered
    exact Nat.lt_irrefl 0 covered
  have first := inside region.start ⟨Nat.le_refl _, Nat.lt_add_of_pos_right some_⟩
  have last := inside (region.start + (region.size - 1)) ⟨Nat.le_add_right _ _, by simp only [Region.stop]; omega⟩
  refine ⟨first.1, ?_⟩
  simp only [Region.stop]
  omega

-- No place is in two regions.
theorem tiles_apart (filled : ∀ region ∈ regions, 0 < region.size) : regions.Pairwise Apart := by
  have once (place : Nat) : cover regions place ≤ 1 := by
    rw [tiled place]
    split
    · exact Nat.le_refl 1
    · exact Nat.zero_le 1
  clear tiled
  induction regions with
  | nil => exact List.Pairwise.nil
  | cons first rest ih =>
      refine List.pairwise_cons.mpr ⟨fun second member => ?_, ih (fun region later => filled region (List.mem_cons_of_mem first later)) ?_⟩
      · by_contra meet
        have one := filled first List.mem_cons_self
        have two := filled second (List.mem_cons_of_mem first member)
        -- The later of the two starts is in both.
        have both : first.Has (max first.start second.start) ∧ second.Has (max first.start second.start) := by
          simp only [Apart, Region.Has, Region.stop] at meet ⊢
          omega
        have twice := once (max first.start second.start)
        rw [cover_cons, if_pos both.1] at twice
        have covered := (cover_pos rest _).mpr ⟨second, member, both.2⟩
        omega
      · intro place
        have twice := once place
        rw [cover_cons] at twice
        omega

end Tiles

theorem separated_order (regions : List Region) (separated : Separated regions) (first second : Region) (one : first ∈ regions)
    (two : second ∈ regions) : first = second ∨ first.stop < second.start ∨ second.stop < first.start := by
  induction regions with
  | nil => cases one
  | cons region rest ih =>
      obtain ⟨ahead, later⟩ := List.pairwise_cons.mp separated
      rcases List.mem_cons.mp one with rfl | inRest
      · rcases List.mem_cons.mp two with rfl | member
        · exact .inl rfl
        · exact .inr (.inl (ahead second member))
      · rcases List.mem_cons.mp two with rfl | member
        · exact .inr (.inr (ahead first inRest))
        · exact ih later inRest member

-- Where the free regions of a pool are separated, each of them is as long as it can be:
-- what no other region has a part of lies in one of them.
theorem free_room (free used : List Region) (low high : Nat) (tiled : Tiles (free ++ used) low high) (separated : Separated free)
    (room : Region) (some_ : 0 < room.size) (from_ : low ≤ room.start) (upto : room.stop ≤ high)
    (unused : ∀ region ∈ used, Apart room region) : ∃ region ∈ free, region.start ≤ room.start ∧ room.stop ≤ region.stop := by
  have find (place : Nat) (has : room.Has place) : ∃ region ∈ free, region.Has place := by
    obtain ⟨region, member, here⟩ := tiles_has _ low high tiled place (Nat.le_trans from_ has.1) (Nat.lt_of_lt_of_le has.2 upto)
    rcases List.mem_append.mp member with inFree | inUsed
    · exact ⟨region, inFree, here⟩
    · exfalso
      rcases unused region inUsed with before | behind
      · exact Nat.lt_irrefl _ (Nat.lt_of_lt_of_le has.2 (Nat.le_trans before here.1))
      · exact Nat.lt_irrefl _ (Nat.lt_of_lt_of_le here.2 (Nat.le_trans behind has.1))
  obtain ⟨region, member, here⟩ := find room.start ⟨Nat.le_refl _, Nat.lt_add_of_pos_right some_⟩
  refine ⟨region, member, here.1, ?_⟩
  by_contra short
  have past := Nat.lt_of_not_le short
  obtain ⟨other, also, there⟩ := find region.stop ⟨Nat.le_of_lt here.2, past⟩
  have order := separated_order free separated region other member also
  simp only [Region.Has, Region.stop] at *
  rcases order with rfl | before | behind <;> omega

theorem separated_around (before after : List Region) (region : Region) (front : Separated before) (back : Separated after)
    (below : ∀ other ∈ before, other.stop < region.start) (above : ∀ other ∈ after, region.stop < other.start) :
    Separated (before ++ region :: after) := by
  refine List.pairwise_append.mpr ⟨front, List.pairwise_cons.mpr ⟨above, back⟩, fun first one second two => ?_⟩
  rcases List.mem_cons.mp two with rfl | later
  · exact below first one
  · have order := below first one
    have next := above second later
    simp only [Region.stop] at *
    omega

theorem separated_parts (before after : List Region) (region : Region) (separated : Separated (before ++ region :: after)) :
    Separated before ∧ Separated after ∧ (∀ other ∈ before, other.stop < region.start) ∧ ∀ other ∈ after, region.stop < other.start := by
  obtain ⟨front, back, across⟩ := List.pairwise_append.mp separated
  obtain ⟨above, rest⟩ := List.pairwise_cons.mp back
  exact ⟨front, rest, fun other member => across other member region List.mem_cons_self, above⟩

-- The named blocks of a pool. The free ones are in order, and no two of them touch.
structure Layout {Name : Type} (region : Name → Region) (free used : List Name) (low high : Nat) : Prop where
  distinct : (free ++ used).Nodup
  filled : ∀ name ∈ free ++ used, 0 < (region name).size
  tiled : Tiles ((free ++ used).map region) low high
  separated : Separated (free.map region)

section Layout

variable {Name : Type} (region : Name → Region) (before after free used : List Name) (name other : Name) (low high : Nat)

theorem layout_inside (layout : Layout region free used low high) (member : name ∈ free ++ used) :
    low ≤ (region name).start ∧ (region name).stop ≤ high :=
  tiles_inside _ low high layout.tiled (region name) (List.mem_map_of_mem member) (layout.filled name member)

theorem layout_apart (layout : Layout region free used low high) (one : name ∈ free ++ used) (two : other ∈ free ++ used)
    (different : name ≠ other) : Apart (region name) (region other) := by
  have filled : ∀ place ∈ (free ++ used).map region, 0 < place.size := fun place member => by
    obtain ⟨owner, listed, rfl⟩ := List.mem_map.mp member
    exact layout.filled owner listed
  have apart := List.pairwise_map.mp (tiles_apart _ low high layout.tiled filled)
  have symmetric : Std.Symm fun first second : Name => Apart (region first) (region second) := ⟨fun _ _ away => away.symm⟩
  exact apart.forall one two different

-- A pool that is one free block, and one whose front is used.
theorem layout_single (some_ : 0 < (region name).size) : Layout region [name] [] (region name).start (region name).stop := by
  refine ⟨by simp, fun other member => ?_, fun place => ?_, List.pairwise_singleton _ _⟩
  · rw [List.mem_singleton.mp member]
    exact some_
  · rw [List.append_nil, List.map_cons, List.map_nil, cover_cons, cover_nil, Nat.zero_add]
    rfl

theorem layout_front (different : name ≠ other) (touch : (region name).stop = (region other).start) (front : 0 < (region name).size)
    (rest : 0 < (region other).size) : Layout region [other] [name] (region name).start (region other).stop := by
  refine ⟨by simp [different.symm], fun owner member => ?_, fun place => ?_, List.pairwise_singleton _ _⟩
  · rcases List.mem_pair.mp member with rfl | rfl
    · exact rest
    · exact front
  · have joined := touching_joined place _ _ touch
    rw [List.singleton_append, List.map_cons, List.map_cons, List.map_nil, cover_cons, cover_cons, cover_nil, Nat.zero_add, ← joined]
    have stop : (⟨(region name).start, (region name).size + (region other).size⟩ : Region).stop = (region other).stop := by
      simp only [Region.stop] at touch ⊢
      omega
    simp only [Region.Has, stop]

theorem layout_take (layout : Layout region (before ++ name :: after) used low high) :
    Layout region (before ++ after) (name :: used) low high := by
  obtain ⟨distinct, filled, tiled, separated⟩ := layout
  refine ⟨?_, fun other member => filled other ?_, fun place => ?_, ?_⟩
  · simp only [List.nodup_append, List.nodup_cons, List.mem_append, List.mem_cons] at distinct ⊢
    grind
  · simp only [List.mem_append, List.mem_cons] at member ⊢
    grind
  · have old := tiled place
    simp only [List.map_append, List.map_cons, cover_append, cover_cons] at old ⊢
    omega
  · rw [Separated, List.map_append] at *
    exact separated.sublist ((List.Sublist.refl _).append (List.sublist_cons_self _ _))

-- The order of the used blocks does not matter.
theorem layout_perm (others : List Name) (perm : used.Perm others) (layout : Layout region free used low high) :
    Layout region free others low high := by
  have all : (free ++ used).Perm (free ++ others) := perm.append_left free
  exact ⟨all.nodup_iff.mp layout.distinct, fun name member => layout.filled name (all.mem_iff.mpr member),
    tiles_perm _ low high _ (all.map region) layout.tiled, layout.separated⟩

-- Below a block that the last of the blocks before it does not touch.
theorem all_below (separated : Separated (before.map region)) (limit : Nat)
    (last : ∀ init last, before = init ++ [last] → (region last).stop < limit) : ∀ name ∈ before, (region name).stop < limit := by
  rcases List.eq_nil_or_concat before with rfl | ⟨init, last_, rfl⟩
  · exact fun _ member => absurd member List.not_mem_nil
  · have here := last init last_ (by simp)
    rw [List.concat_eq_append] at separated ⊢
    rw [Separated, List.map_append, List.pairwise_append] at separated
    intro name member
    rcases List.mem_append.mp member with inside | same
    · have order := separated.2.2 (region name) (List.mem_map_of_mem inside) (region last_) (by simp)
      simp only [Region.stop] at *
      omega
    · rw [List.mem_singleton.mp same]
      exact here

theorem all_above (separated : Separated (after.map region)) (limit : Nat)
    (first : ∀ first rest, after = first :: rest → limit < (region first).start) : ∀ name ∈ after, limit < (region name).start := by
  cases after with
  | nil => exact fun _ member => absurd member List.not_mem_nil
  | cons first_ rest =>
      have here := first first_ rest rfl
      rw [Separated, List.map_cons, List.pairwise_cons] at separated
      intro name member
      rcases List.mem_cons.mp member with rfl | later
      · exact here
      · have order := separated.1 (region name) (List.mem_map_of_mem later)
        simp only [Region.stop] at order
        omega

-- Behind each free block but the last there is a used one.
theorem free_few (layout : Layout region free used low high) : free.length ≤ used.length + 1 := by
  obtain ⟨distinct, filled, tiled, separated⟩ := layout
  rcases List.eq_nil_or_concat free with rfl | ⟨init, last, rfl⟩
  · exact Nat.zero_le _
  · rw [List.concat_eq_append] at *
    have order : (init.map fun name => (region name).stop).Nodup := by
      rw [Separated, List.map_append, List.pairwise_append, List.pairwise_map] at separated
      refine List.pairwise_map.mpr (separated.1.imp fun {first second} before same => ?_)
      simp only [Region.stop] at before same
      omega
    have behind : (init.map fun name => (region name).stop) ⊆ used.map fun name => (region name).start := by
      intro place member
      obtain ⟨name, listed, rfl⟩ := List.mem_map.mp member
      have inFree : name ∈ init ++ [last] := List.mem_append_left _ listed
      have size := filled name (List.mem_append_left _ inFree)
      have size_ := filled last (by simp)
      have apart : (region name).stop < (region last).start := by
        rw [Separated, List.map_append, List.pairwise_append] at separated
        exact separated.2.2 _ (List.mem_map_of_mem listed) _ (by simp)
      have first := tiles_inside _ low high tiled (region name) (List.mem_map_of_mem (List.mem_append_left _ inFree)) size
      have second := tiles_inside _ low high tiled (region last) (List.mem_map_of_mem (by simp)) size_
      obtain ⟨other, found, has⟩ := tiles_has _ low high tiled (region name).stop
        (Nat.le_trans first.1 (Nat.le_add_right _ _)) (by simp only [Region.stop] at *; omega)
      rw [List.map_append] at found
      rcases List.mem_append.mp found with isFree | isUsed
      · exfalso
        have ordered := separated_order _ separated (region name) other (List.mem_map_of_mem inFree) isFree
        simp only [Region.Has, Region.stop] at *
        rcases ordered with rfl | before | after <;> omega
      · obtain ⟨owner, listed_, rfl⟩ := List.mem_map.mp isUsed
        refine List.mem_map.mpr ⟨owner, listed_, ?_⟩
        have different : name ≠ owner := fun same => (List.nodup_append.mp distinct).2.2 name inFree owner listed_ same
        have layout : Layout region (init ++ [last]) used low high := ⟨distinct, filled, tiled, separated⟩
        have away := layout_apart region _ used name owner low high layout (List.mem_append_left _ inFree) (List.mem_append_right _ listed_) different
        simp only [Apart, Region.Has, Region.stop] at *
        omega
    have fewer := (List.subperm_of_subset order behind).length_le
    simpa using fewer

variable [DecidableEq Name]

theorem map_update (names : List Name) (value : Region) (apart : name ∉ names) :
    names.map (Function.update region name value) = names.map region :=
  List.map_congr_left fun _ member => Function.update_of_ne (ne_of_mem_of_not_mem member apart) _ _

-- A free block is used, and another name stands for the end of it.
theorem layout_split (first second : Nat) (layout : Layout region (before ++ name :: after) used low high)
    (fresh : other ∉ before ++ name :: after ++ used) (whole : (region name).size = first + second) (one : 0 < first) (two : 0 < second) :
    Layout (Function.update (Function.update region other ⟨(region name).start + first, second⟩) name ⟨(region name).start, first⟩)
      (before ++ other :: after) (name :: used) low high := by
  obtain ⟨distinct, filled, tiled, separated⟩ := layout
  have others : ∀ owner, owner ≠ name → owner ≠ other →
      Function.update (Function.update region other ⟨(region name).start + first, second⟩) name ⟨(region name).start, first⟩ owner =
        region owner := fun owner apart away => by rw [Function.update_of_ne apart, Function.update_of_ne away]
  have apart : other ≠ name := fun same => fresh (by simp [same])
  simp only [List.mem_append, List.mem_cons, not_or] at fresh
  simp only [List.nodup_append, List.nodup_cons, List.mem_append, List.mem_cons] at distinct
  have maps (names : List Name) (away : name ∉ names) (off : other ∉ names) : names.map
      (Function.update (Function.update region other ⟨(region name).start + first, second⟩) name ⟨(region name).start, first⟩) =
        names.map region := by
    rw [map_update _ name names _ away, map_update _ other names _ off]
  have front := maps before (by grind) (by grind)
  have back := maps after (by grind) (by grind)
  have rest := maps used (by grind) (by grind)
  have here := Function.update_self name (⟨(region name).start, first⟩ : Region) (Function.update region other ⟨(region name).start + first, second⟩)
  have there : Function.update (Function.update region other ⟨(region name).start + first, second⟩) name ⟨(region name).start, first⟩ other =
      ⟨(region name).start + first, second⟩ := by rw [Function.update_of_ne apart, Function.update_self]
  refine ⟨?_, fun owner member => ?_, fun place => ?_, ?_⟩
  · simp only [List.nodup_append, List.nodup_cons, List.mem_append, List.mem_cons]
    grind
  · by_cases same : owner = name
    · rw [same, here]
      exact one
    · by_cases also : owner = other
      · rw [also, there]
        exact two
      · rw [others owner same also]
        refine filled owner ?_
        simp only [List.mem_append, List.mem_cons] at member ⊢
        grind
  · have old := tiled place
    have joined : (if (region name).Has place then 1 else 0) = _ := whole ▸ has_joined place (region name).start first second
    simp only [List.map_append, List.map_cons, cover_append, cover_cons, front, back, rest, here, there] at old ⊢
    omega
  · rw [List.map_append, List.map_cons, front, back, there]
    rw [List.map_append, List.map_cons] at separated
    obtain ⟨first_, rest_, below, above⟩ := separated_parts _ _ _ separated
    refine separated_around _ _ _ first_ rest_ (fun other member => Nat.lt_of_lt_of_le (below other member) (Nat.le_add_right _ _))
      fun other member => ?_
    have order := above other member
    simp only [Region.stop] at order ⊢
    omega

-- A used block is free again, in one with the free blocks that it touches.
theorem layout_return (gone : List Name) (kept : Name) (value : Region)
    (layout : Layout region (before ++ gone ++ after) (name :: used) low high) (kept_ : kept ∈ name :: gone)
    (covered : ∀ place, (if value.Has place then 1 else 0) = cover ((name :: gone).map region) place) (some_ : 0 < value.size)
    (below : ∀ name ∈ before, (region name).stop < value.start) (above : ∀ name ∈ after, value.stop < (region name).start) :
    Layout (Function.update region kept value) (before ++ kept :: after) used low high := by
  obtain ⟨distinct, filled, tiled, separated⟩ := layout
  simp only [List.nodup_append, List.nodup_cons, List.mem_append, List.mem_cons] at distinct
  have front := map_update region kept before value (by grind)
  have back := map_update region kept after value (by grind)
  have rest := map_update region kept used value (by grind)
  refine ⟨?_, fun owner member => ?_, fun place => ?_, ?_⟩
  · simp only [List.nodup_append, List.nodup_cons, List.mem_append, List.mem_cons]
    grind
  · by_cases same : owner = kept
    · rw [same, Function.update_self]
      exact some_
    · rw [Function.update_of_ne same]
      refine filled owner ?_
      simp only [List.mem_append, List.mem_cons] at member ⊢
      grind
  · have old := tiled place
    have joined := covered place
    simp only [List.map_append, List.map_cons, cover_append, cover_cons, front, back, rest, Function.update_self] at old joined ⊢
    omega
  · rw [List.map_append, List.map_append, List.append_assoc] at separated
    obtain ⟨front_, back_, -⟩ := List.pairwise_append.mp separated
    rw [List.map_append, List.map_cons, front, back, Function.update_self]
    refine separated_around _ _ _ front_ (List.pairwise_append.mp back_).2.1 (fun other member => ?_) fun other member => ?_
    · obtain ⟨name, listed, rfl⟩ := List.mem_map.mp member
      exact below name listed
    · obtain ⟨name, listed, rfl⟩ := List.mem_map.mp member
      exact above name listed

end Layout

end Regions
