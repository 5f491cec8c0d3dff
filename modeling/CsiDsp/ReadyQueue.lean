import Mathlib.Data.Finset.Basic
import Mathlib.Data.Finset.Lattice.Lemmas
import CsiDsp.ReadyTable

set_option autoImplicit false

namespace CsiDsp

-- A callback that marks some tasks ready and answers TTRUE or something else.
def marking (marks : List Nat) (done : Bool) : EmptyCheck := fun ready => (marks.foldl setReadyTask ready, done)

-- The callbacks of the scheduler are of this kind.
theorem idle_marking : psIsIdleTaskDone = marking [] false := rfl

theorem vipre_marking (empty : Bool) (highPriTask : Int) : dspVipreTaskCheck empty highPriTask =
    if empty || decide (highPriTask < 0) then marking [] true else marking [highPriTask.toNat] false := by
  funext ready
  rw [dspVipreTaskCheck]
  split <;> rfl

inductive ReadyCall where
  | set (pri : Nat)
  | clr (pri : Nat) (isDone : Option (List Nat × Bool))

def readyCall (ready : ReadyTable) : ReadyCall → ReadyTable
  | .set pri => setReadyTask ready pri
  | .clr pri isDone => clrReadyTask ready pri (isDone.map fun callback => marking callback.1 callback.2)

def ReadyCall.InRange : ReadyCall → Prop
  | .set pri | .clr pri none => pri < 64
  | .clr pri (some (marks, _)) => pri < 64 ∧ ∀ mark ∈ marks, mark < 64

-- What the calls mean: a set of priorities. A clear whose callback does not
-- answer TTRUE leaves what the callback has marked.
def pendingCall (pending : Finset Nat) : ReadyCall → Finset Nat
  | .set pri => insert pri pending
  | .clr pri none => pending.erase pri
  | .clr pri (some (marks, done)) => if done then (pending ∪ marks.toFinset).erase pri else pending ∪ marks.toFinset

structure ReadyQueue (ready : ReadyTable) (pending : Finset Nat) : Prop where
  groups : GroupsAgree ready
  encoded : ∀ pri < 64, isReady ready pri = true ↔ pri ∈ pending
  least : ready.grp ≠ 0 → getReadyTask ready ∈ pending ∧ ∀ pri ∈ pending, getReadyTask ready ≤ pri

structure Represents (ready : ReadyTable) (pending : Finset Nat) : Prop where
  groups : GroupsAgree ready
  encoded : ∀ pri < 64, isReady ready pri = true ↔ pri ∈ pending
  small : ∀ pri ∈ pending, pri < 64

section Represents

variable (ready : ReadyTable) (pending : Finset Nat) (pri : Nat) (small : pri < 64) (held : Represents ready pending)

include small held

theorem represents_set : Represents (setReadyTask ready pri) (insert pri pending) := by
  refine ⟨groups_agree_set ready pri held.groups, fun other otherSmall => ?_, fun other member => ?_⟩
  · by_cases same : other = pri
    · rw [same]
      exact iff_of_true (is_ready_set_same ready pri) (Finset.mem_insert_self pri pending)
    · rw [is_ready_set_other ready pri other small otherSmall same, held.encoded other otherSmall, Finset.mem_insert]
      exact (or_iff_right same).symm
  · rcases Finset.mem_insert.mp member with rfl | member
    · exact small
    · exact held.small other member

theorem represents_clear : Represents (clearBit ready pri) (pending.erase pri) := by
  refine ⟨groups_agree_clear ready pri held.groups, fun other otherSmall => ?_, fun other member => ?_⟩
  · by_cases same : other = pri
    · rw [same, is_ready_clear_same]
      exact iff_of_false Bool.false_ne_true (Finset.notMem_erase pri pending)
    · rw [is_ready_clear_other ready pri other small otherSmall same, held.encoded other otherSmall, Finset.mem_erase]
      exact (and_iff_right same).symm
  · exact held.small other (Finset.mem_of_mem_erase member)

end Represents

theorem represents_marks (marks : List Nat) (small : ∀ mark ∈ marks, mark < 64) (ready : ReadyTable) (pending : Finset Nat)
    (held : Represents ready pending) : Represents (marks.foldl setReadyTask ready) (pending ∪ marks.toFinset) := by
  induction marks generalizing ready pending with
  | nil =>
      rw [List.toFinset_nil, Finset.union_empty]
      exact held
  | cons mark rest ih =>
      have marked := represents_set ready pending mark (small mark List.mem_cons_self) held
      have kept := ih (fun other member => small other (List.mem_cons_of_mem mark member)) _ _ marked
      rw [List.toFinset_cons, Finset.union_insert, ← Finset.insert_union]
      exact kept

theorem represents_call (ready : ReadyTable) (pending : Finset Nat) (call : ReadyCall) (inRange : call.InRange)
    (held : Represents ready pending) : Represents (readyCall ready call) (pendingCall pending call) := by
  cases call with
  | set pri => exact represents_set ready pending pri inRange held
  | clr pri isDone =>
      cases isDone with
      | none => exact represents_clear ready pending pri inRange held
      | some callback =>
          obtain ⟨marks, done⟩ := callback
          obtain ⟨small, marksSmall⟩ := inRange
          have marked := represents_marks marks marksSmall ready pending held
          cases done with
          | true => exact represents_clear _ _ pri small marked
          | false => exact marked

theorem represents_calls (calls : List ReadyCall) (inRange : ∀ call ∈ calls, call.InRange) (ready : ReadyTable)
    (pending : Finset Nat) (held : Represents ready pending) :
    Represents (calls.foldl readyCall ready) (calls.foldl pendingCall pending) := by
  induction calls generalizing ready pending with
  | nil => exact held
  | cons call rest ih =>
      exact ih (fun other member => inRange other (List.mem_cons_of_mem call member)) _ _
        (represents_call ready pending call (inRange call List.mem_cons_self) held)

theorem represents_zero : Represents zeroReady ∅ := by
  refine ⟨groups_agree_zero, fun pri _ => ?_, fun pri member => absurd member (Finset.notMem_empty pri)⟩
  simp [isReady, zeroReady]

-- Every sequence of calls makes the table the queue of the priorities that have
-- been set and not been cleared since.
theorem ready_table_queue (calls : List ReadyCall) (inRange : ∀ call ∈ calls, call.InRange) :
    ReadyQueue (calls.foldl readyCall zeroReady) (calls.foldl pendingCall ∅) := by
  have held := represents_calls calls inRange zeroReady ∅ represents_zero
  refine ⟨held.groups, held.encoded, fun anyReady => ?_⟩
  obtain ⟨found, small⟩ := get_ready_task_ready _ held.groups anyReady
  refine ⟨(held.encoded _ small).mp found, fun pri member => ?_⟩
  have prioritySmall := held.small pri member
  exact get_ready_task_least _ pri held.groups prioritySmall ((held.encoded pri prioritySmall).mpr member)

-- Task 9 stays ready, its callback having marked task 4 instead.
def refusedClear : List ReadyCall := [.set 15, .set 9, .clr 9 (some ([4], false)), .clr 15 none]

theorem ready_table_queue_refused : ReadyQueue (refusedClear.foldl readyCall zeroReady) (refusedClear.foldl pendingCall ∅) := by
  refine ready_table_queue refusedClear fun call member => ?_
  simp only [refusedClear, List.mem_cons, List.not_mem_nil, or_false] at member
  rcases member with rfl | rfl | rfl | rfl
  · exact show 15 < 64 by decide
  · exact show 9 < 64 by decide
  · exact ⟨by decide, by decide⟩
  · exact show 15 < 64 by decide

end CsiDsp
