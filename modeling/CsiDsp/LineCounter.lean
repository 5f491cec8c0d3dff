import Mathlib.Data.Bool.Basic
import CsiDsp.IspSteps
import CsiDsp.IspStream

set_option autoImplicit false

namespace CsiDsp

open CInt

def producerFifo (handler : SispHandler) : Sfifo := handler.fifo.get handler.producePingPongFlag

def producerInfo (handler : SispHandler) : SispControlInfo := handler.info.get handler.producePingPongFlag

-- What isp_interrupt_handler takes for the new lines when the counter of the
-- hardware is at this line.
def newLines (handler : SispHandler) (line : UInt16) : Nat := u16 ((line.toNat : Int) - ispcGetPushedLineNum handler)

-- A recorded event leaves the software where the hardware is: at its line, or
-- at the start of the next frame.
def LineFollowed (handler : SispHandler) (line : UInt16) : Prop :=
  ∀ next, ispcPushNewLine handler (newLines handler line) = some (next, true) →
    (producerFifo next).tail = line.toNat ∨
      line.toNat = (producerInfo handler).lineNumPerFrame ∧ next.producePingPongFlag = (!handler.producePingPongFlag) ∧
        isEmptyFifo (producerFifo next) = true

-- The size is taken, there is room for an entry, and no division traps.
structure PushTaken (handler : SispHandler) (element : Nat) : Prop where
  sized : acceptsSize handler element = true
  room : isEnoughSpaceToPushFifo (producerFifo handler)
    (u16 ((producerInfo handler).lineNumPerEntry + ispcPushOffset handler : Nat)) = true
  divides : u16 ((producerFifo handler).tail + (producerInfo handler).lineNumPerEntry : Nat) = (producerFifo handler).maxIndex →
    ispcSwitchBuffer (producerInfo handler) handler.base = true ∨ (producerFifo handler).depth ≠ 0

section Push

variable (handler : SispHandler) (element : Nat) (ok : handler.status = .ok)

include ok

theorem push_taken (next : SispHandler) (pushed : ispcPushNewLine handler element = some (next, true)) : PushTaken handler element := by
  have room : isEnoughSpaceToPushFifo (producerFifo handler)
      (u16 ((producerInfo handler).lineNumPerEntry + ispcPushOffset handler : Nat)) = true := by
    refine Decidable.not_not.mp fun crowded => ?_
    have returned := pushed
    rw [ispcPushNewLine] at returned
    simp only [ok, ne_eq, not_true_eq_false, if_false] at returned
    split at returned
    · cases returned
    · rw [producerFifo, producerInfo] at crowded
      simp only [pushFifo, if_neg crowded, if_true] at returned
      cases returned
  cases push_outcome handler next element true pushed with
  | recorded ok sized tail moved more => exact ⟨sized, room, fun last => absurd (moved.trans last) more⟩
  | finished ok sized tail baseIndex moved last following =>
      refine ⟨sized, room, fun _ => ?_⟩
      by_cases switched : ispcSwitchBuffer (producerInfo handler) handler.base = true
      · exact .inl switched
      · refine .inr fun trap => ?_
        rw [producerInfo] at switched
        rw [producerFifo] at trap
        rw [if_neg switched, nextBaseIndex, if_pos trap] at following
        cases following

theorem taken_push (taken : PushTaken handler element) : ∃ next, ispcPushNewLine handler element = some (next, true) := by
  obtain ⟨sized, room, divides⟩ := taken
  rw [acceptsSize, Bool.not_eq_true'] at sized
  rw [producerFifo, producerInfo] at room divides
  rw [ispcPushNewLine]
  simp only [ok, ne_eq, not_true_eq_false, if_false, sized, Bool.false_eq_true, pushFifo, if_pos room, Bool.true_eq_false]
  split
  · rename_i last
    rw [isLastEntryPushFifo, beq_iff_eq] at last
    split
    · exact ⟨_, rfl⟩
    · rename_i same
      rw [nextBaseIndex, if_neg ((divides last).resolve_left same)]
      exact ⟨_, rfl⟩
  · exact ⟨_, rfl⟩

end Push

-- The software follows the hardware if and only if the event is refused or the
-- counter is one entry ahead of the recorded lines.
theorem line_counter_followed (handler : SispHandler) (ok : handler.status = .ok) (line : UInt16) : LineFollowed handler line ↔
    ¬ PushTaken handler (newLines handler line) ∨
      (if u16 ((producerFifo handler).tail + (producerInfo handler).lineNumPerEntry : Nat) = (producerFifo handler).maxIndex then
        line.toNat = (producerInfo handler).lineNumPerFrame ∨ line.toNat = 0
      else line.toNat = u16 ((producerFifo handler).tail + (producerInfo handler).lineNumPerEntry : Nat)) := by
  by_cases taken : PushTaken handler (newLines handler line)
  · rw [or_iff_right (not_not_intro taken)]
    obtain ⟨next, pushed⟩ := taken_push handler _ ok taken
    have only : LineFollowed handler line ↔ (producerFifo next).tail = line.toNat ∨
        line.toNat = (producerInfo handler).lineNumPerFrame ∧ next.producePingPongFlag = (!handler.producePingPongFlag) ∧
          isEmptyFifo (producerFifo next) = true := by
      refine ⟨fun followed => followed next pushed, fun followed other recorded => ?_⟩
      cases pushed.symm.trans recorded
      exact followed
    rw [only, producerFifo, producerFifo, producerInfo]
    cases push_outcome handler next _ true pushed with
    | recorded ok sized tail moved more =>
        rw [if_neg fun last => more (moved.trans last)]
        have flag := Bool.self_ne_not handler.producePingPongFlag
        simp only [PingPong.get_set_same, flag, false_and, and_false, or_false]
        rw [moved]
        exact eq_comm
    | finished ok sized tail baseIndex moved last following =>
        rw [if_pos (moved.symm.trans last)]
        simp only [PingPong.get_set_same, resetFifo, isEmptyFifo, beq_self_eq_true, and_true]
        rw [or_comm, eq_comm (a := 0)]
  · exact iff_of_true (fun next pushed => absurd (push_taken handler _ ok next pushed) taken) (.inl taken)

theorem line_counter_followed_four : LineFollowed (smallIsp 512) 4 :=
  (line_counter_followed (smallIsp 512) (by decide) 4).mpr (.inr (by decide))

-- Two events of four lines in one interrupt, at the end of the frame: four lines are recorded.
theorem second_event_lost : ¬ ∀ (handler : SispHandler), handler.status = .ok → ∀ line, LineFollowed handler line := by
  intro claim
  have followed := claim (smallIsp 512) (by decide) 8 ((ispcPushNewLine (smallIsp 512) 8).get (by decide)).1
    (Option.eq_some_of_isSome (by decide))
  exact absurd followed (by decide)

end CsiDsp
