import Mathlib.Logic.Function.Basic
import CsiDsp.Base.Runs

set_option autoImplicit false

-- An account of dynamic memory: the size of every block that is in use.
namespace Ledger

variable {Block : Type} [DecidableEq Block]

inductive Use (Block : Type) where
  | take (block : Block) (size : Nat)
  | touch (block : Block)
  | give (block : Block)

-- The result none is a block that is given back twice, that is used when it is
-- not in use, or that is handed out while it is.
def use (ledger : Block → Option Nat) : Use Block → Option (Block → Option Nat)
  | .take block size => if ledger block = none then some (Function.update ledger block (some size)) else none
  | .touch block => if ledger block = none then none else some ledger
  | .give block => if ledger block = none then none else some (Function.update ledger block none)

def gives (blocks : List Block) : List (Use Block) := blocks.map .give

section Uses

variable (ledger : Block → Option Nat)

-- Blocks in use, each named once, can be given back one after the other.
theorem gives_distinct (blocks : List Block) (live : ∀ block ∈ blocks, ledger block ≠ none) (distinct : blocks.Nodup) :
    ∃ final, Runs.run use ledger (gives blocks) = some final ∧
      ∀ block, final block = if block ∈ blocks then none else ledger block := by
  induction blocks generalizing ledger with
  | nil => exact ⟨ledger, rfl, fun _ => rfl⟩
  | cons block rest ih =>
      obtain ⟨apart, distinct⟩ := List.nodup_cons.mp distinct
      have others : ∀ other ∈ rest, Function.update ledger block none other ≠ none := by
        intro other member
        have different : other ≠ block := fun same => apart (same ▸ member)
        rw [Function.update_of_ne different]
        exact live other (List.mem_cons_of_mem block member)
      obtain ⟨final, ran, value⟩ := ih (Function.update ledger block none) others distinct
      refine ⟨final, ?_, fun other => ?_⟩
      · rw [gives, List.map_cons, Runs.run, use, if_neg (live block List.mem_cons_self)]
        exact ran
      · rw [value other]
        by_cases same : other = block
        · simp [same]
        · simp [same]

-- A block that is given back last is not in use then.
theorem given_last (uses : List (Use Block)) (block : Block) (final : Block → Option Nat)
    (ran : Runs.run use ledger (uses ++ gives [block]) = some final) : final block = none := by
  rw [Runs.run_append] at ran
  obtain ⟨middle, -, ran⟩ := Option.bind_eq_some_iff.mp ran
  by_cases live : middle block = none
  · simp [gives, Runs.run, use, live] at ran
  · simp [gives, Runs.run, use, live] at ran
    rw [← ran, Function.update_self]

end Uses

end Ledger
