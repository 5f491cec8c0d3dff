import CsiDsp.Base.KeyedWrites
import Mathlib.Data.List.TakeWhile
import CsiDsp.TaskCommands

set_option autoImplicit false

namespace CsiDsp

open CInt KeyedWrites

-- The buffers of the message are few enough, and each stands under its id.
def UpdateTaken (bufferNum : UInt32) (old : Nat → AlgoBuffer) (message : AlgoConfigPar) (bufs : Nat → AlgoBuffer) : Prop :=
  message.bufsPtr = 0 ∨ message.bufNum.toNat = 0 ∨
    message.bufNum.toNat ≤ u32 ((bufferNum.toNat : Int) - extraBufStartIndex) ∧
      ∀ buffer ∈ namedBuffers message bufs, (old buffer.slot).bufId = buffer.bufId

-- The buffers of the list up to the first that does not stand under its id.
def placedBuffers (old : Nat → AlgoBuffer) (named : List AlgoBuffer) : List AlgoBuffer :=
  named.takeWhile fun buffer => (old buffer.slot).bufId == buffer.bufId

structure SlotsUpdated (bufferNum : UInt32) (old updated : Nat → AlgoBuffer) (named : List AlgoBuffer) : Prop where
  slots : ∀ slot, updated slot =
    if extraBufStartIndex ≤ slot then (lastNamed AlgoBuffer.slot named slot).getD (old slot) else old slot
  inside : ∀ buffer ∈ named, buffer.slot < bufferNum.toNat

section Update

variable (bufferNum : UInt32) (old : Nat → AlgoBuffer) (message : AlgoConfigPar) (bufs : Nat → AlgoBuffer)

-- A slot that has been written still holds its id, so the check of a buffer does
-- not depend on those before it.
theorem placed_buffer_id (buffer other : AlgoBuffer) (listed : (old buffer.slot).bufId = buffer.bufId) :
    (Function.update old buffer.slot buffer other.slot).bufId = (old other.slot).bufId := by
  by_cases same : other.slot = buffer.slot
  · rw [same, Function.update_self, listed]
  · rw [Function.update_of_ne same]

theorem update_buffers_ids (named : List AlgoBuffer) (slot : Nat) : ((updateBuffers old named).1 slot).bufId = (old slot).bufId := by
  induction named generalizing old with
  | nil => rfl
  | cons buffer rest ih =>
      by_cases listed : (old buffer.slot).bufId = buffer.bufId
      · rw [updateBuffers, if_neg (not_not_intro listed), ih]
        by_cases same : slot = buffer.slot
        · rw [same, Function.update_self, listed]
        · rw [Function.update_of_ne same]
      · rw [updateBuffers, if_pos listed]

theorem update_buffers_taken (named : List AlgoBuffer) :
    (updateBuffers old named).2 = true ↔ ∀ buffer ∈ named, (old buffer.slot).bufId = buffer.bufId := by
  induction named generalizing old with
  | nil => simp [updateBuffers]
  | cons buffer rest ih =>
      by_cases listed : (old buffer.slot).bufId = buffer.bufId
      · rw [updateBuffers, if_neg (not_not_intro listed), ih, List.forall_mem_cons]
        simp only [placed_buffer_id old buffer _ listed, listed, true_and]
      · rw [updateBuffers, if_pos listed, List.forall_mem_cons]
        exact iff_of_false Bool.false_ne_true fun all => listed all.1

-- The buffers before the first that is refused have been written.
theorem update_buffers_written (named : List AlgoBuffer) :
    (updateBuffers old named).1 = writeAll AlgoBuffer.slot old (placedBuffers old named) := by
  induction named generalizing old with
  | nil => rfl
  | cons buffer rest ih =>
      by_cases listed : (old buffer.slot).bufId = buffer.bufId
      · have placed : placedBuffers old (buffer :: rest) = buffer :: placedBuffers (Function.update old buffer.slot buffer) rest := by
          simp only [placedBuffers, List.takeWhile_cons, listed, beq_self_eq_true, if_true, placed_buffer_id old buffer _ listed]
        rw [updateBuffers, if_neg (not_not_intro listed), ih, placed]
        rfl
      · have placed : placedBuffers old (buffer :: rest) = [] := by simp [placedBuffers, listed]
        rw [updateBuffers, if_pos listed, placed]
        rfl

theorem placed_buffers_all (named : List AlgoBuffer) (listed : ∀ buffer ∈ named, (old buffer.slot).bufId = buffer.bufId) :
    placedBuffers old named = named :=
  List.takeWhile_eq_self_iff.mpr fun buffer member => beq_iff_eq.mpr (listed buffer member)

theorem buf_update_taken : (dspTaskAlgoBufUpdate bufferNum old message bufs).2 = true ↔ UpdateTaken bufferNum old message bufs := by
  by_cases none_ : message.bufsPtr = 0 ∨ message.bufNum.toNat = 0
  · rw [dspTaskAlgoBufUpdate, if_pos none_, UpdateTaken, ← or_assoc]
    exact iff_of_true rfl (.inl none_)
  · rw [dspTaskAlgoBufUpdate, if_neg none_, UpdateTaken, ← or_assoc, or_iff_right none_]
    by_cases many : message.bufNum.toNat > u32 ((bufferNum.toNat : Int) - extraBufStartIndex)
    · rw [if_pos many]
      exact iff_of_false Bool.false_ne_true fun taken => Nat.not_le_of_gt many taken.1
    · rw [if_neg many, update_buffers_taken, and_iff_right (Nat.le_of_not_lt many)]

theorem named_buffers_nil (unasked : message.bufsPtr = 0 ∨ message.bufNum.toNat = 0) : namedBuffers message bufs = [] := by
  rw [namedBuffers]
  rcases unasked with null | zero
  · rw [if_pos null]
  · rw [zero, List.range_zero, List.map_nil, ite_self]

theorem buf_update_slot (taken : (dspTaskAlgoBufUpdate bufferNum old message bufs).2 = true) (slot : Nat) :
    (dspTaskAlgoBufUpdate bufferNum old message bufs).1 slot =
      (lastNamed AlgoBuffer.slot (namedBuffers message bufs) slot).getD (old slot) := by
  by_cases none_ : message.bufsPtr = 0 ∨ message.bufNum.toNat = 0
  · rw [dspTaskAlgoBufUpdate, if_pos none_, named_buffers_nil message bufs none_]
    rfl
  · rw [dspTaskAlgoBufUpdate, if_neg none_] at taken ⊢
    by_cases many : message.bufNum.toNat > u32 ((bufferNum.toNat : Int) - extraBufStartIndex)
    · rw [if_pos many] at taken
      cases taken
    · rw [if_neg many] at taken ⊢
      rw [update_buffers_written, placed_buffers_all old _ ((update_buffers_taken old _).mp taken), write_all_slot]

-- An update that is taken is exact if and only if it names buffers of the task
-- only, and leaves the two reserved ones as they are.
theorem buf_update_exact :
    ((dspTaskAlgoBufUpdate bufferNum old message bufs).2 = true →
      SlotsUpdated bufferNum old (dspTaskAlgoBufUpdate bufferNum old message bufs).1 (namedBuffers message bufs)) ↔
    (UpdateTaken bufferNum old message bufs → ∀ buffer ∈ namedBuffers message bufs, buffer.slot < bufferNum.toNat ∧
      (buffer.slot < extraBufStartIndex → lastNamed AlgoBuffer.slot (namedBuffers message bufs) buffer.slot = some (old buffer.slot))) := by
  rw [buf_update_taken]
  refine imp_congr_right fun taken => ?_
  have written := buf_update_slot bufferNum old message bufs ((buf_update_taken bufferNum old message bufs).mpr taken)
  constructor
  · intro updated buffer member
    refine ⟨updated.inside buffer member, fun reserved => ?_⟩
    have kept := updated.slots buffer.slot
    rw [if_neg (Nat.not_le_of_gt reserved), written] at kept
    cases last : lastNamed AlgoBuffer.slot (namedBuffers message bufs) buffer.slot with
    | none => exact absurd rfl ((last_named_none _ _ _).mp last buffer member)
    | some other =>
        rw [last] at kept
        exact congrArg some kept
  · intro good
    refine ⟨fun slot => ?_, fun buffer member => (good buffer member).1⟩
    rw [written]
    split
    · rfl
    · rename_i reserved
      cases last : lastNamed AlgoBuffer.slot (namedBuffers message bufs) slot with
      | none => rfl
      | some other =>
          obtain ⟨member, named⟩ := last_named_key _ _ _ _ last
          have same := (good other member).2 (by rw [named]; exact Nat.lt_of_not_le reserved)
          rw [named, last] at same
          exact Option.some.inj same

end Update

-- A task with three buffers, and an update of its first one.
def firstBufferMessage : AlgoConfigPar := ⟨-1, 0, 0, 0, 1, 1⟩

theorem reserved_buffer_updated : ¬ ∀ (bufferNum : UInt32) (old : Nat → AlgoBuffer) (message : AlgoConfigPar) (bufs : Nat → AlgoBuffer),
    (dspTaskAlgoBufUpdate bufferNum old message bufs).2 = true →
      SlotsUpdated bufferNum old (dspTaskAlgoBufUpdate bufferNum old message bufs).1 (namedBuffers message bufs) := by
  intro claim
  have updated := claim 3 (fun _ => zeroAlgoBuffer) firstBufferMessage (fun _ => { zeroAlgoBuffer with height := 8 }) (by decide)
  exact absurd (congrArg AlgoBuffer.height (updated.slots 0)) (by decide)

end CsiDsp
