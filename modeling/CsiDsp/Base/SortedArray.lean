import Mathlib.Order.Lattice

set_option autoImplicit false

-- Arrays in raw memory that are kept sorted by a key. Only the first count
-- cells belong to the array; the memory behind them holds what it happens to.
namespace SortedArray

variable {Cell Key : Type} [LinearOrder Key]

-- The loop of a binary search between two places, and the place it leaves.
def halve (key : Nat → Key) (wanted : Key) : Nat → Nat → Nat → Nat × Nat
  | 0, low, high => (low, high)
  | fuel + 1, low, high =>
      if 1 < high - low then
        if wanted < key ((low + high) / 2) then halve key wanted fuel low ((low + high) / 2)
        else halve key wanted fuel ((low + high) / 2) high
      else (low, high)

def search (key : Nat → Key) (count : Nat) (wanted : Key) : Nat :=
  let bounds := halve key wanted count 0 count
  if bounds.1 < bounds.2 ∧ key bounds.1 < wanted then bounds.1 + 1 else bounds.1

def shiftUp (cells : Nat → Cell) (count place : Nat) : Nat → Cell := fun spot =>
  if place < spot ∧ spot ≤ count then cells (spot - 1) else cells spot

def shiftDown (cells : Nat → Cell) (count place : Nat) : Nat → Cell := fun spot =>
  if place ≤ spot ∧ spot + 1 < count then cells (spot + 1) else cells spot

def insertAt (cells : Nat → Cell) (count place : Nat) (cell : Cell) : Nat → Cell := fun spot =>
  if spot = place then cell else shiftUp cells count place spot

def Sorted (key : Nat → Key) (count : Nat) : Prop := ∀ low high, low < high → high < count → key low < key high

def Holds (cells : Nat → Cell) (count : Nat) (cell : Cell) : Prop := ∃ spot < count, cells spot = cell

-- The place where a key is or belongs: everything below it is smaller, and
-- nothing from it on is.
structure Belongs (key : Nat → Key) (count : Nat) (wanted : Key) (place : Nat) : Prop where
  inside : place ≤ count
  below : ∀ spot < place, key spot < wanted
  above : ∀ spot, place ≤ spot → spot < count → wanted ≤ key spot

section Search

variable (key : Nat → Key) (count : Nat) (wanted : Key)

theorem sorted_le (sorted : Sorted key count) (low high : Nat) (order : low ≤ high) (inside : high < count) : key low ≤ key high := by
  rcases Nat.eq_or_lt_of_le order with same | less
  · rw [same]
  · exact le_of_lt (sorted low high less inside)

structure Between (low high : Nat) : Prop where
  order : low ≤ high
  inside : high ≤ count
  left : low = 0 ∨ key low ≤ wanted
  right : high = count ∨ wanted < key high
  some : 0 < count → low < high

theorem halve_between (fuel low high : Nat) (enough : high - low ≤ fuel) (start : Between key count wanted low high) :
    Between key count wanted (halve key wanted fuel low high).1 (halve key wanted fuel low high).2 ∧
      (halve key wanted fuel low high).2 ≤ (halve key wanted fuel low high).1 + 1 := by
  induction fuel generalizing low high with
  | zero => exact ⟨start, by simp only [halve]; omega⟩
  | succ fuel ih =>
      obtain ⟨order, inside, left, right, some_⟩ := start
      rw [halve]
      by_cases wide : 1 < high - low
      · rw [if_pos wide]
        by_cases less : wanted < key ((low + high) / 2)
        · rw [if_pos less]
          exact ih low _ (by omega) ⟨by omega, by omega, left, .inr less, fun _ => by omega⟩
        · rw [if_neg less]
          exact ih _ high (by omega) ⟨by omega, inside, .inr (not_lt.mp less), right, fun _ => by omega⟩
      · rw [if_neg wide]
        exact ⟨⟨order, inside, left, right, some_⟩, by dsimp only; omega⟩

theorem search_belongs (sorted : Sorted key count) : Belongs key count wanted (search key count wanted) := by
  obtain ⟨⟨order, inside, left, right, some_⟩, narrow⟩ := halve_between key count wanted count 0 count (by omega)
    ⟨by omega, Nat.le_refl _, .inl rfl, .inl rfl, fun positive => positive⟩
  rw [search]
  generalize (halve key wanted count 0 count).1 = low at *
  generalize (halve key wanted count 0 count).2 = high at *
  have beyond : ∀ spot, high ≤ spot → spot < count → wanted ≤ key spot := by
    intro spot from_ small
    rcases right with last | less
    · omega
    · exact le_trans (le_of_lt less) (sorted_le key count sorted high spot from_ small)
  have before : ∀ spot < low, key spot < wanted := by
    intro spot small
    rcases left with first | reached
    · omega
    · exact lt_of_lt_of_le (sorted spot low small (by omega)) reached
  by_cases next : low < high ∧ key low < wanted
  · rw [if_pos next]
    refine ⟨by omega, fun spot small => ?_, fun spot from_ small => beyond spot (by omega) small⟩
    rcases Nat.lt_succ_iff_lt_or_eq.mp small with less | same
    · exact before spot less
    · exact same ▸ next.2
  · rw [if_neg next]
    refine ⟨by omega, before, fun spot from_ small => ?_⟩
    by_cases same : spot = low
    · rw [same]
      exact not_lt.mp fun less => next ⟨some_ (by omega), less⟩
    · exact beyond spot (by omega) small

variable (place : Nat) (belongs : Belongs key count wanted place)

include belongs

theorem belongs_found (spot : Nat) (inside : spot < count) (found : key spot = wanted) (sorted : Sorted key count) : place = spot := by
  have notBelow : ¬ spot < place := fun less => absurd found (ne_of_lt (belongs.below spot less))
  rcases Nat.eq_or_lt_of_le (Nat.not_lt.mp notBelow) with same | less
  · exact same
  · have bound := belongs.above place (Nat.le_refl _) (Nat.lt_trans less inside)
    exact absurd (sorted place spot less inside) (not_lt.mpr (found ▸ bound))

end Search

section Memory

variable (cells : Nat → Cell) (count place : Nat) (cell : Cell)

theorem holds_insert (inside : place ≤ count) (other : Cell) :
    Holds (insertAt cells count place cell) (count + 1) other ↔ other = cell ∨ Holds cells count other := by
  constructor
  · rintro ⟨spot, small, rfl⟩
    by_cases here : spot = place
    · exact .inl (by rw [insertAt, if_pos here])
    · refine .inr ?_
      rw [insertAt, if_neg here, shiftUp]
      by_cases above : place < spot ∧ spot ≤ count
      · rw [if_pos above]
        exact ⟨spot - 1, by omega, rfl⟩
      · rw [if_neg above]
        exact ⟨spot, by omega, rfl⟩
  · rintro (rfl | ⟨spot, small, rfl⟩)
    · exact ⟨place, by omega, by rw [insertAt, if_pos rfl]⟩
    · by_cases below : spot < place
      · refine ⟨spot, by omega, ?_⟩
        rw [insertAt, if_neg (by omega), shiftUp, if_neg (by omega)]
      · refine ⟨spot + 1, by omega, ?_⟩
        rw [insertAt, if_neg (by omega), shiftUp, if_pos (by omega), Nat.add_sub_cancel]

theorem sorted_insert (key : Cell → Key) (sorted : Sorted (fun spot => key (cells spot)) count)
    (belongs : Belongs (fun spot => key (cells spot)) count (key cell) place)
    (fresh : ∀ spot < count, key (cells spot) ≠ key cell) :
    Sorted (fun spot => key (insertAt cells count place cell spot)) (count + 1) := by
  have above : ∀ spot, place ≤ spot → spot < count → key cell < key (cells spot) := fun spot from_ small =>
    lt_of_le_of_ne (belongs.above spot from_ small) (fresh spot small).symm
  have inside := belongs.inside
  intro low high less small
  dsimp only [insertAt, shiftUp]
  by_cases highHere : high = place
  · rw [if_pos highHere, if_neg (by omega), if_neg (by omega)]
    exact belongs.below low (by omega)
  · rw [if_neg highHere]
    by_cases highAbove : place < high ∧ high ≤ count
    · rw [if_pos highAbove]
      by_cases lowHere : low = place
      · rw [if_pos lowHere]
        exact above (high - 1) (by omega) (by omega)
      · rw [if_neg lowHere]
        by_cases lowAbove : place < low ∧ low ≤ count
        · rw [if_pos lowAbove]
          exact sorted (low - 1) (high - 1) (by omega) (by omega)
        · rw [if_neg lowAbove]
          exact lt_trans (belongs.below low (by omega)) (above (high - 1) (by omega) (by omega))
    · rw [if_neg highAbove, if_neg (by omega), if_neg (by omega)]
      exact sorted low high less (by omega)

theorem holds_remove (key : Cell → Key) (sorted : Sorted (fun spot => key (cells spot)) count) (inside : place < count) (other : Cell) :
    Holds (shiftDown cells count place) (count - 1) other ↔ Holds cells count other ∧ key other ≠ key (cells place) := by
  constructor
  · rintro ⟨spot, small, rfl⟩
    rw [shiftDown]
    by_cases above : place ≤ spot ∧ spot + 1 < count
    · rw [if_pos above]
      exact ⟨⟨spot + 1, by omega, rfl⟩, ne_of_gt (sorted place (spot + 1) (by omega) (by omega))⟩
    · rw [if_neg above]
      exact ⟨⟨spot, by omega, rfl⟩, ne_of_lt (sorted spot place (by omega) inside)⟩
  · rintro ⟨⟨spot, small, rfl⟩, apart⟩
    by_cases below : spot < place
    · refine ⟨spot, by omega, ?_⟩
      rw [shiftDown, if_neg (by omega)]
    · have different : spot ≠ place := fun same => apart (by rw [same])
      refine ⟨spot - 1, by omega, ?_⟩
      rw [shiftDown, if_pos (by omega), Nat.sub_add_cancel (by omega)]

theorem sorted_remove (key : Cell → Key) (sorted : Sorted (fun spot => key (cells spot)) count) :
    Sorted (fun spot => key (shiftDown cells count place spot)) (count - 1) := by
  intro low high less small
  dsimp only [shiftDown]
  by_cases highAbove : place ≤ high ∧ high + 1 < count
  · rw [if_pos highAbove]
    by_cases lowAbove : place ≤ low ∧ low + 1 < count
    · rw [if_pos lowAbove]
      exact sorted _ _ (by omega) (by omega)
    · rw [if_neg lowAbove]
      exact sorted _ _ (by omega) (by omega)
  · rw [if_neg highAbove, if_neg (by omega)]
    exact sorted low high less (by omega)

end Memory

end SortedArray
