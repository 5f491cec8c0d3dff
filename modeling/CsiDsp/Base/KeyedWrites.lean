import Mathlib.Logic.Function.Basic

set_option autoImplicit false

-- Items that are written to the slot they name, one after the other.
namespace KeyedWrites

variable {Key Item : Type} [DecidableEq Key] (key : Item → Key)

def writeAll (table : Key → Item) (items : List Item) : Key → Item :=
  items.foldl (fun table item => Function.update table (key item) item) table

def lastNamed (items : List Item) (slot : Key) : Option Item := items.reverse.find? fun item => key item = slot

theorem last_named_cons (item : Item) (rest : List Item) (slot : Key) :
    lastNamed key (item :: rest) slot = (lastNamed key rest slot).or (if key item = slot then some item else none) := by
  rw [lastNamed, lastNamed, List.reverse_cons, List.find?_append, List.find?_singleton]
  simp only [decide_eq_true_eq]

theorem last_named_key (items : List Item) (slot : Key) (item : Item) (last : lastNamed key items slot = some item) :
    item ∈ items ∧ key item = slot := by
  have found := List.find?_some last
  exact ⟨List.mem_reverse.mp (List.mem_of_find?_eq_some last), of_decide_eq_true found⟩

theorem last_named_none (items : List Item) (slot : Key) : lastNamed key items slot = none ↔ ∀ item ∈ items, key item ≠ slot := by
  simp [lastNamed]

-- The last write to a slot wins, and a slot that is not named is left alone.
theorem write_all_slot (items : List Item) (table : Key → Item) (slot : Key) :
    writeAll key table items slot = (lastNamed key items slot).getD (table slot) := by
  induction items generalizing table with
  | nil => rfl
  | cons item rest ih =>
      rw [last_named_cons, writeAll, List.foldl_cons, ← writeAll, ih]
      cases lastNamed key rest slot with
      | some last => rfl
      | none =>
          by_cases named : key item = slot
          · rw [if_pos named, ← named, Function.update_self]
            rfl
          · rw [if_neg named, Function.update_of_ne (Ne.symm named)]
            rfl

section Fields

variable {State Event Value : Type} (write : State → Event → State) (field : State → Value)

-- A write that gives the field a value of its own, or leaves it.
def Overwrites (event : Event) : Prop :=
  (∃ value, ∀ state, field (write state event) = value) ∨ ∀ state, field (write state event) = field state

theorem overwrites_all (events : List Event) (each : ∀ event ∈ events, Overwrites write field event) :
    (∃ value, ∀ state, field (events.foldl write state) = value) ∨ ∀ state, field (events.foldl write state) = field state := by
  induction events with
  | nil => exact .inr fun _ => rfl
  | cons event rest ih =>
      rcases ih fun other listed => each other (List.mem_cons_of_mem event listed) with ⟨value, written⟩ | kept
      · exact .inl ⟨value, fun state => written _⟩
      · rcases each event List.mem_cons_self with ⟨value, written⟩ | same
        · exact .inl ⟨value, fun state => (kept _).trans (written state)⟩
        · exact .inr fun state => (kept _).trans (same state)

-- The same writes a second time change nothing.
theorem overwrites_twice (events : List Event) (each : ∀ event ∈ events, Overwrites write field event) (state : State) :
    field (events.foldl write (events.foldl write state)) = field (events.foldl write state) := by
  rcases overwrites_all write field events each with ⟨value, written⟩ | kept
  · rw [written, written]
  · rw [kept]

end Fields

end KeyedWrites
