import CsiDsp.FrameStream

set_option autoImplicit false

namespace CsiDsp

open Runs

-- get_next_entry of a task accepts the frame at the head.
def TakesHead (handler : SvipreHandler) (id : Nat) : Prop :=
  ∃ buffer next entry, vipreGetNextEntry handler id buffer = some (next, entry, true)

-- Of the tasks with the ids 1 and 2, exactly one accepts the frame at the head,
-- and not the same one as for the frame before.
def EvenOddSplit (start : SvipreHandler) : Prop :=
  ∀ events stream, run frameOpStep (frameStream start) events = some stream → ∀ frame, headNumber stream = some frame →
    (TakesHead stream.handler 1 ↔ ¬ TakesHead stream.handler 2) ∧
      ∀ later after, run frameOpStep stream later = some after → headNumber after = some (frame + 1) →
        ∀ id, id = 1 ∨ id = 2 → TakesHead stream.handler id → ¬ TakesHead after.handler id

theorem takes_head_iff (stream : FrameStream) (number frame id : Nat) (sides : FrameSides stream number)
    (found : headNumber stream = some frame) : TakesHead stream.handler id ↔ evenOddFrameMatch id (frame % number) = true := by
  obtain ⟨some_, head⟩ := head_buffer stream number sides frame found
  rw [vipreIsEmpty] at some_
  constructor
  · rintro ⟨buffer, next, entry, looked⟩
    simp only [vipreGetNextEntry, some_, sides.mode, head, Bool.false_eq_true, if_false, Option.bind_eq_bind, Option.bind_some] at looked
    split at looked
    · cases looked
    · rename_i accepted
      exact (Bool.not_eq_false _).mp accepted
  · intro accepted
    refine ⟨⟨0, 0, 0, 0, fun _ => 0⟩, ?_⟩
    simp only [vipreGetNextEntry, some_, sides.mode, head, Bool.false_eq_true, if_false, Option.bind_eq_bind, Option.bind_some, accepted,
      Bool.true_eq_false]
    exact ⟨_, _, rfl⟩

theorem one_takes (frame number : Nat) : evenOddFrameMatch 1 (frame % number) = true ↔ ¬ evenOddFrameMatch 2 (frame % number) = true := by
  simp only [evenOddFrameMatch, beq_iff_eq]
  omega

-- An even number of buffers keeps the parity of a frame in its buffer.
theorem even_alternates (frame number id : Nat) (even : number % 2 = 0) (task : id = 1 ∨ id = 2)
    (first : evenOddFrameMatch id (frame % number) = true) : ¬ evenOddFrameMatch id ((frame + 1) % number) = true := by
  have parity (count : Nat) : count % number % 2 = count % 2 := Nat.mod_mod_of_dvd count (Nat.dvd_of_mod_eq_zero even)
  rcases task with rfl | rfl
  · simp only [evenOddFrameMatch, beq_iff_eq, parity] at first ⊢
    omega
  · simp only [evenOddFrameMatch, beq_iff_eq, parity] at first ⊢
    omega

-- Frames that are popped one by one, as they come.
theorem frame_reached (config : VipreConfigPar) (start : SvipreHandler) (number : Nat) (configured : FrameConfigured config start number)
    (some_ : 0 < number) (frame : Nat) :
    ∃ events stream head, run frameOpStep (frameStream start) events = some stream ∧ OrderInv start stream number head 0 frame := by
  induction frame with
  | zero => exact ⟨[], frameStream start, 0, rfl, configured_order config start number configured⟩
  | succ frame ih =>
      obtain ⟨events, stream, head, ran, inv⟩ := ih
      obtain ⟨pushed, stored, later⟩ := order_push start stream number head 0 frame inv zeroMeta some_
      obtain ⟨popped, gone, last⟩ := order_pop start pushed number head 1 frame later 0
      refine ⟨events ++ [.push zeroMeta, .pop 0], popped, _, ?_, last⟩
      rw [run_append, ran, Option.bind_some, run, stored, Option.bind_some, run, gone]
      rfl

-- With an odd number of buffers, the last one and the first one are both even.
theorem odd_repeats (config : VipreConfigPar) (start : SvipreHandler) (number : Nat) (configured : FrameConfigured config start number)
    (odd : number % 2 = 1) : ¬ EvenOddSplit start := by
  intro split
  have some_ : 0 < number := by omega
  obtain ⟨events, stream, head, ran, inv⟩ := frame_reached config start number configured some_ (number - 1)
  obtain ⟨pushed, stored, first⟩ := order_push start stream number head 0 (number - 1) inv zeroMeta some_
  obtain ⟨popped, gone, between⟩ := order_pop start pushed number head 1 (number - 1) first 0
  obtain ⟨again, restored, second⟩ := order_push start popped number _ _ _ between zeroMeta some_
  have reached : run frameOpStep (frameStream start) (events ++ [.push zeroMeta]) = some pushed := by
    rw [run_append, ran, Option.bind_some, run, stored]
    rfl
  have later : run frameOpStep pushed [.pop 0, .push zeroMeta] = some again := by
    rw [run, gone, Option.bind_some, run, restored]
    rfl
  obtain ⟨_, whole, sides⟩ := sides_run (frameStream start) number (configured_sides config start number configured some_)
    (events ++ [.push zeroMeta])
  cases whole.symm.trans reached
  obtain ⟨_, rest, after⟩ := sides_run pushed number sides [.pop 0, .push zeroMeta]
  cases rest.symm.trans later
  have before := head_number start pushed number head 1 (number - 1) first (by omega)
  have now := head_number start again number _ _ _ second (by omega)
  rw [if_pos (show 0 < 1 by omega), show number - 1 + 1 = number by omega] at now
  have taken : TakesHead pushed.handler 1 := by
    rw [takes_head_iff pushed number (number - 1) 1 sides before, Nat.mod_eq_of_lt (by omega)]
    simp only [evenOddFrameMatch, beq_iff_eq]
    omega
  refine (split _ pushed reached (number - 1) before).2 _ again later (by rw [now, Nat.sub_add_cancel some_]) 1 (.inl rfl) taken ?_
  rw [takes_head_iff again number number 1 after now, Nat.mod_self]
  rfl

-- The frames are split between the two tasks in turn if and only if the number of buffers is even.
theorem even_odd_split (config : VipreConfigPar) (before start : SvipreHandler)
    (accepted : vipreFrameModeHandlerConfig before config = some (start, true)) (some_ : 1 ≤ start.baseBufferInfo.bufferNum) :
    EvenOddSplit start ↔ start.baseBufferInfo.bufferNum % 2 = 0 := by
  obtain ⟨number, configured⟩ := frame_configured config before start accepted
  rw [configured.ring.buffers] at some_ ⊢
  constructor
  · intro split
    by_contra odd
    exact odd_repeats config start number configured (by omega) split
  · intro even events stream ran frame found
    obtain ⟨reached, whole, sides⟩ := sides_run (frameStream start) number (configured_sides config start number configured some_) events
    cases whole.symm.trans ran
    refine ⟨?_, fun later after rest next id task taken => ?_⟩
    · rw [takes_head_iff stream number frame 1 sides found, takes_head_iff stream number frame 2 sides found]
      exact one_takes frame number
    · obtain ⟨last, done, final⟩ := sides_run stream number sides later
      cases done.symm.trans rest
      rw [takes_head_iff stream number frame id sides found] at taken
      rw [takes_head_iff after number (frame + 1) id final next]
      exact even_alternates frame number id even task taken

theorem even_odd_split_two : EvenOddSplit twoFramesStart ↔ twoFramesStart.baseBufferInfo.bufferNum % 2 = 0 :=
  even_odd_split twoFrames zeroVipre twoFramesStart (Option.eq_some_of_isSome (by decide)) (by decide)

-- One channel with three buffers: the third and the fourth frame are both even.
def threeFrames : VipreConfigPar := { twoFrames with bufferNum := 3 }

theorem third_frame_repeats : ¬ ∀ (config : VipreConfigPar) (before start : SvipreHandler),
    vipreFrameModeHandlerConfig before config = some (start, true) → 1 ≤ start.baseBufferInfo.bufferNum → EvenOddSplit start := by
  intro claim
  let start := ((vipreFrameModeHandlerConfig zeroVipre threeFrames).get (by decide)).1
  have accepted : vipreFrameModeHandlerConfig zeroVipre threeFrames = some (start, true) := Option.eq_some_of_isSome (by decide)
  obtain ⟨number, configured⟩ := frame_configured threeFrames zeroVipre start accepted
  have three : number = 3 := configured.ring.buffers.symm
  exact odd_repeats threeFrames start number configured (by rw [three]) (claim threeFrames zeroVipre start accepted (by decide))

end CsiDsp
