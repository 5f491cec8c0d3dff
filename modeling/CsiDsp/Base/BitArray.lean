import Mathlib.Logic.Function.Basic

set_option autoImplicit false

-- An array of words, read as one long string of bits.
namespace BitArray

variable {width : Nat}

def bit (words : Nat → BitVec width) (place : Nat) : Bool := (words (place / width)).getLsbD (place % width)

section Word

variable (word : BitVec width)

-- What stands alone in word & -word.
theorem lowest_bit (index : Nat) : (word &&& -word).getLsbD index = true ↔
    word.getLsbD index = true ∧ ∀ lower < index, word.getLsbD lower = false := by
  rw [BitVec.getLsbD_and, BitVec.getLsbD_neg]
  constructor
  · intro both
    obtain ⟨here, negated⟩ := Bool.and_eq_true_iff.mp both
    refine ⟨here, fun lower below => ?_⟩
    have inside : index < width := BitVec.lt_of_getLsbD here
    by_contra set
    have found : ∃ lower < index, word.getLsbD lower = true := ⟨lower, below, by simpa using set⟩
    rw [here, decide_eq_true inside, decide_eq_true found] at negated
    cases negated
  · rintro ⟨here, lower⟩
    have none_ : ¬ ∃ other < index, word.getLsbD other = true := by
      rintro ⟨other, below, set⟩
      rw [lower other below] at set
      cases set
    simp [here, none_]

theorem lowest_zero : word &&& -word = 0 ↔ word = 0 := by
  constructor
  · intro none_
    refine BitVec.eq_of_getLsbD_eq fun index _ => ?_
    rw [BitVec.ofNat_eq_ofNat, BitVec.getLsbD_zero]
    induction index using Nat.strongRecOn with
    | _ index ih =>
        by_contra set
        have alone := (lowest_bit word index).mpr ⟨by simpa using set, fun lower below => ih lower below (by omega)⟩
        rw [none_] at alone
        simp at alone
  · rintro rfl
    simp

-- The index of the lowest bit that is set.
theorem lowest_index (some_ : word ≠ 0) : word.getLsbD (word &&& -word).toNat.log2 = true ∧
    ∀ lower < (word &&& -word).toNat.log2, word.getLsbD lower = false := by
  refine (lowest_bit word _).mp ?_
  have positive : (word &&& -word).toNat ≠ 0 := fun zero => some_ ((lowest_zero word).mp (BitVec.eq_of_toNat_eq (by simpa using zero)))
  exact Nat.testBit_log2 positive

end Word

end BitArray
