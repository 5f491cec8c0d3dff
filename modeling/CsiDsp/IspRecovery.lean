import CsiDsp.Base.Runs
import CsiDsp.IspSteps
import CsiDsp.IspStream

set_option autoImplicit false

namespace CsiDsp

open CInt

-- The ISP hardware and its driver. The hardware has written line lines of
-- frame number frame and set the interrupt bits: raised is the N-line bit of MI3
-- with the frame of the entry that set it last, done the frame-done bit of MI2.
-- overflows counts the overflows so far, and marks holds for each line in a FIFO
-- the count at the time the line was recorded.
structure IspRecovery where
  handler : SispHandler
  frame : Nat
  line : Nat
  ended : Bool
  raised : Option Nat
  done : Bool
  got : Option Nat
  overflows : Nat
  marks : PingPong (List Nat)
deriving DecidableEq, Repr

def startRecovery (handler : SispHandler) : IspRecovery := ⟨handler, 0, 0, false, none, false, none, 0, .const []⟩

-- The hardware completes an entry, ends a frame and starts the next one. The
-- handler serves a cause that is pending when it gets to run, so that a bit that
-- was set twice is served once. A call that finds both causes is the two events
-- in a row (isp_interrupt_split). The event getEntry carries the caller's buffer list.
inductive RecoveryEvent where
  | writeEntry
  | endFrame
  | startFrame
  | nLines
  | frameDone
  | getEntry (list : SispBuffer × SispBuffer)
  | popEntry
  | updateState
deriving DecidableEq, Repr

-- The marks after a push: a recorded entry is marked, and the side the
-- producer has switched to starts afresh.
def markPush (marks : PingPong (List Nat)) (before after : SispHandler) (overflows : Nat) : PingPong (List Nat) :=
  if before.status = .ok ∧ after.status = .ok then
    let marks := marks.set before.producePingPongFlag (marks.get before.producePingPongFlag ++
      List.replicate (before.info.get before.producePingPongFlag).lineNumPerEntry overflows)
    if after.producePingPongFlag ≠ before.producePingPongFlag then marks.set after.producePingPongFlag [] else marks
  else marks

def recoveryStep (state : IspRecovery) : RecoveryEvent → Option IspRecovery
  | .writeEntry =>
      let base := state.handler.base
      if state.ended = false ∧ state.line < base.lineNumPerFrame then
        some { state with
          line := state.line + min base.lineNumPerEntry (base.lineNumPerFrame - state.line)
          raised := some state.frame }
      else none
  | .endFrame =>
      if state.ended = false ∧ state.line = state.handler.base.lineNumPerFrame then some { state with ended := true, done := true }
      else none
  | .startFrame => if state.ended then some { state with frame := state.frame + 1, line := 0, ended := false } else none
  | .nLines =>
      if state.raised.isSome then do
        let handler ← ispInterruptHandler state.handler ⟨true, UInt16.ofNat state.line, false⟩
        some { state with
          handler := handler
          raised := none
          overflows := if state.handler.status = .ok ∧ handler.status = .overFlow then state.overflows + 1 else state.overflows
          marks := markPush state.marks state.handler handler state.overflows }
      else none
  | .frameDone =>
      if state.done then do
        let handler ← ispInterruptHandler state.handler ⟨false, UInt16.ofNat state.line, true⟩
        some { state with
          handler := handler
          done := false
          marks := if state.handler.status = .recoverying then state.marks.set handler.producePingPongFlag [] else state.marks }
      else none
  | .getEntry list => do
      let (handler, list, found) ← ispGetNextEntry state.handler list
      some { state with handler := handler, got := if found then some (list.1.lineNum + list.2.lineNum) else none }
  | .popEntry => do
      let count ← state.got
      let side := state.handler.customerPingPongFlag
      let (handler, _) := ispPopNLine state.handler (u16 count)
      some { state with
        handler := handler
        got := none
        marks := state.marks.set side ((state.marks.get side).drop ((handler.fifo.get side).head - (state.handler.fifo.get side).head)) }
  | .updateState =>
      -- The task calls it in these two states only.
      if state.handler.status = .overFlow ∨ state.handler.status = .recoverying then do
        let handler ← ispRecoveryStateUpdate state.handler
        some { state with
          handler := handler
          marks := if state.handler.status = .recoverying then state.marks.set handler.producePingPongFlag [] else state.marks }
      else none

-- The frame whose lines the next push records: that of a pending interrupt, or
-- that of the next entry.
def nextFrame (state : IspRecovery) : Nat :=
  match state.raised with
  | some frame => frame
  | none => if state.line < state.handler.base.lineNumPerFrame then state.frame else state.frame + 1

structure Aligned (state : IspRecovery) : Prop where
  offset : (state.handler.fifo.get state.handler.producePingPongFlag).offset =
    (frameStart state.handler.base (nextFrame state) : Nat)
  fresh : ∀ mark ∈ state.marks.get state.handler.customerPingPongFlag ++ state.marks.get state.handler.producePingPongFlag,
    mark = state.overflows

-- Interrupts are served in time: an N-line interrupt before the next entry is
-- complete, before the next frame starts and before the end of its own frame is
-- served, and a frame done before the next frame's first entry is complete. And no
-- frame done is served while the driver is in overflow, unless a frame fills the
-- ring a whole number of times.
def ServedInTime (state : IspRecovery) : RecoveryEvent → Prop
  | .writeEntry => state.done = false ∧ (state.handler.status = .ok → state.raised = none)
  | .endFrame => state.done = false
  | .startFrame => state.handler.status = .ok → state.raised = none
  | .frameDone => state.raised = none ∧
      (state.handler.status ≠ .overFlow ∨ state.handler.base.lineNumPerBuffer ∣ state.handler.base.lineNumUsedPerFrame)
  | _ => True

instance (state : IspRecovery) : ∀ event, Decidable (ServedInTime state event)
  | .writeEntry => inferInstanceAs (Decidable (_ ∧ (_ → _)))
  | .endFrame => inferInstanceAs (Decidable (_ = _))
  | .startFrame => inferInstanceAs (Decidable (_ → _))
  | .frameDone => inferInstanceAs (Decidable (_ ∧ (_ ∨ _)))
  | .nLines | .getEntry _ | .popEntry | .updateState => inferInstanceAs (Decidable True)

def ShortStarts (base : SispControlInfo) : Prop := ∀ frame, frameStart base frame < 32768

-- The frames whose end the handler has been told of.
def servedFrames (state : IspRecovery) : Nat := state.frame + (if state.ended then 1 else 0) - (if state.done then 1 else 0)

-- The producer's FIFO holds what the hardware has written of the frame, up to
-- the entry that is still to be served.
def TailInv (base : SispControlInfo) (state : IspRecovery) (tail : Nat) : Prop :=
  match state.raised with
  | none => tail = if state.line < base.lineNumPerFrame then state.line else 0
  | some frame => frame = state.frame ∧ state.ended = state.done ∧ tail < base.lineNumPerFrame ∧
      state.line = tail + min base.lineNumPerEntry (base.lineNumPerFrame - tail)

-- What each status means for the producer's FIFO.
def PhaseInv (base : SispControlInfo) (state : IspRecovery) : Prop :=
  let fifo := state.handler.fifo.get state.handler.producePingPongFlag
  match state.handler.status with
  | .ok => fifo.offset = (frameStart base (nextFrame state) : Nat) ∧ TailInv base state fifo.tail ∧
      ∀ mark ∈ state.marks.get state.handler.customerPingPongFlag ++ state.marks.get state.handler.producePingPongFlag,
        mark = state.overflows
  | .overFlow | .recoverying => fifo.offset = (frameStart base (servedFrames state) : Nat)
  | .recoveryDone => fifo.offset = (frameStart base (servedFrames state + 1) : Nat) ∧ fifo.tail = 0 ∧
      state.handler.customerPingPongFlag = state.handler.producePingPongFlag ∧
      state.marks.get state.handler.producePingPongFlag = []
  | _ => True

-- Where the hardware is in its frame.
structure HardwareInv (base : SispControlInfo) (frame line : Nat) (ended done : Bool) : Prop where
  lineIn : line ≤ base.lineNumPerFrame
  whole : ended = true → line = base.lineNumPerFrame
  doneAt : done = true → ended = true ∨ (line = 0 ∧ 0 < frame)

structure RecoveryInv (base : SispControlInfo) (state : IspRecovery) : Prop where
  baseEq : state.handler.base = base
  infoEq : state.handler.info.get state.handler.producePingPongFlag = base
  depthEq : (state.handler.fifo.get state.handler.producePingPongFlag).depth = base.lineNumPerBuffer
  maxEq : (state.handler.fifo.get state.handler.producePingPongFlag).maxIndex = base.lineNumPerFrame
  hardware : HardwareInv base state.frame state.line state.ended state.done
  phase : PhaseInv base state

theorem mark_push_fresh (marks : PingPong (List Nat)) (before after : SispHandler) (overflows : Nat)
    (ok : before.status = .ok) (still : after.status = .ok)
    (customer : after.customerPingPongFlag = before.customerPingPongFlag)
    (fresh : ∀ mark ∈ marks.get before.customerPingPongFlag ++ marks.get before.producePingPongFlag, mark = overflows) :
    ∀ mark ∈ (markPush marks before after overflows).get after.customerPingPongFlag ++
      (markPush marks before after overflows).get after.producePingPongFlag, mark = overflows := by
  have written : ∀ mark ∈ marks.get before.producePingPongFlag ++
      List.replicate (before.info.get before.producePingPongFlag).lineNumPerEntry overflows, mark = overflows := by
    intro mark member
    rcases List.mem_append.mp member with old | new
    · exact fresh mark (List.mem_append_right _ old)
    · exact List.eq_of_mem_replicate new
  have read : ∀ mark ∈ marks.get before.customerPingPongFlag, mark = overflows :=
    fun mark member => fresh mark (List.mem_append_left _ member)
  simp only [markPush, ok, still, and_self, if_true, customer]
  intro mark member
  rcases List.mem_append.mp member with inCustomer | inProducer
  · split at inCustomer <;> simp only [PingPong.get_set] at inCustomer
    · split at inCustomer
      · cases inCustomer
      · split at inCustomer
        · exact written mark inCustomer
        · exact read mark inCustomer
    · split at inCustomer
      · exact written mark inCustomer
      · exact read mark inCustomer
  · split at inProducer
    · simp at inProducer
    · rename_i same
      rw [Decidable.not_not.mp same, PingPong.get_set_same] at inProducer
      exact written mark inProducer

theorem mark_drop_mem (marks : PingPong (List Nat)) (side other : Bool) (count mark : Nat)
    (member : mark ∈ (marks.set side ((marks.get side).drop count)).get other) : mark ∈ marks.get other := by
  rw [PingPong.get_set] at member
  split at member
  · rename_i same
    rw [same]
    exact List.mem_of_mem_drop member
  · exact member

theorem pop_keeps_tail (fifos : PingPong Sfifo) (side other : Bool) (head : Nat) :
    ((fifos.set side { fifos.get side with head := head }).get other).tail = (fifos.get other).tail ∧
    ((fifos.set side { fifos.get side with head := head }).get other).offset = (fifos.get other).offset ∧
    ((fifos.set side { fifos.get side with head := head }).get other).depth = (fifos.get other).depth ∧
    ((fifos.set side { fifos.get side with head := head }).get other).maxIndex = (fifos.get other).maxIndex := by
  cases side <;> cases other <;> exact ⟨rfl, rfl, rfl, rfl⟩

theorem phase_ok (base : SispControlInfo) (state : IspRecovery) (ok : state.handler.status = .ok)
    (offset : (state.handler.fifo.get state.handler.producePingPongFlag).offset = (frameStart base (nextFrame state) : Nat))
    (tail : TailInv base state (state.handler.fifo.get state.handler.producePingPongFlag).tail)
    (fresh : ∀ mark ∈ state.marks.get state.handler.customerPingPongFlag ++ state.marks.get state.handler.producePingPongFlag,
      mark = state.overflows) : PhaseInv base state := by
  simp only [PhaseInv, ok]
  exact ⟨offset, tail, fresh⟩

-- What the hardware does in between touches the phase of a driver that records
-- nothing only by the frames served.
theorem phase_hardware (base : SispControlInfo) (state : IspRecovery) (frame line : Nat) (ended done : Bool) (raised : Option Nat)
    (phase : PhaseInv base state) (failed : state.handler.status ≠ .ok)
    (frames : servedFrames { state with frame := frame, ended := ended, done := done } = servedFrames state) :
    PhaseInv base { state with frame := frame, line := line, ended := ended, raised := raised, done := done } := by
  have same : servedFrames { state with frame := frame, line := line, ended := ended, raised := raised, done := done } =
      servedFrames state := frames
  cases status : state.handler.status with
  | ok => exact absurd status failed
  | overFlow | recoverying | recoveryDone =>
      simp only [PhaseInv, status, same] at phase ⊢
      exact phase
  | parmaInvalid | popFail | frameSwitchFail | inputEmpry => simp only [PhaseInv, status]

theorem next_base_start (base : SispControlInfo) (fifo : Sfifo) (frame : Nat) (baseIndex : Int) (short : ShortStarts base)
    (depth : fifo.depth = base.lineNumPerBuffer) (offset : fifo.offset = (frameStart base frame : Nat))
    (next : nextBaseIndex fifo base = some baseIndex) : baseIndex = (frameStart base (frame + 1) : Nat) := by
  by_cases zero : fifo.depth = 0
  · simp [nextBaseIndex, zero] at next
  · have held : FrameFifo fifo base.lineNumPerBuffer fifo.maxIndex (frameStart base frame) fifo.head fifo.tail :=
      ⟨rfl, rfl, depth, rfl, offset⟩
    rw [frame_fifo_next_base base fifo frame _ _ _ held (by omega) (short _)] at next
    exact (Option.some.inj next).symm

-- The reset of both sides takes the producer's FIFO to the start of the next frame.
theorem fifo_reset_start (base : SispControlInfo) (handler next : SispHandler) (frame : Nat) (short : ShortStarts base)
    (baseEq : handler.base = base) (info : handler.info.get handler.producePingPongFlag = base)
    (depth : (handler.fifo.get handler.producePingPongFlag).depth = base.lineNumPerBuffer)
    (offset : (handler.fifo.get handler.producePingPongFlag).offset = (frameStart base frame : Nat))
    (reset : ispFifoReset handler = some next) :
    next = { handler with
      customerPingPongFlag := handler.producePingPongFlag
      info := handler.info.set handler.producePingPongFlag base
      interactCounter := 0
      fifo := handler.fifo.set handler.producePingPongFlag
        (resetFifo base.lineNumPerBuffer (frameStart base (frame + 1)) base.lineNumPerFrame)
      base := base } := by
  simp only [ispFifoReset, ispcFifoReset, info, baseEq] at reset
  obtain ⟨baseIndex, index, rest⟩ := Option.bind_eq_some_iff.mp reset
  rw [next_base_start base _ frame baseIndex short depth offset index] at rest
  exact (Option.some.inj rest).symm

theorem serve_frame_done (handler : SispHandler) : ispServeFrameDone handler =
    if handler.status = .recoveryDone then some { handler with status := .ok }
    else if handler.status = .recoverying then ispFifoReset handler
    else some handler := by
  cases phase : handler.status <;>
    simp [ispServeFrameDone, ispGetStatus, ispRecoveryStateUpdate, phase, EhwErrorCode.code]

section Recovery

variable (base : SispControlInfo) (state : IspRecovery) (geometry : Geometry base) (short : ShortStarts base)
variable (used : base.lineNumUsedPerFrame = base.lineNumPerFrame) (inv : RecoveryInv base state)

include geometry inv in
theorem recovery_element (ok : state.handler.status = .ok) (frame : Nat) (pending : state.raised = some frame) :
    u16 (((UInt16.ofNat state.line).toNat : Int) - ispcGetPushedLineNum state.handler) =
      min base.lineNumPerEntry
        (base.lineNumPerFrame - (state.handler.fifo.get state.handler.producePingPongFlag).tail) := by
  have phase := inv.phase
  simp only [PhaseInv, ok, TailInv, pending] at phase
  obtain ⟨-, ⟨-, -, more, written⟩, -⟩ := phase
  have frameMax := frame_bound base geometry
  have register : (UInt16.ofNat state.line).toNat = state.line :=
    UInt16.toNat_ofNat_of_lt' (by simp only [UInt16.size]; omega)
  rw [ispcGetPushedLineNum, getTailIndexFifo, i16_fits _ (by omega), register]
  generalize (state.handler.fifo.get state.handler.producePingPongFlag).tail = tail at more written ⊢
  have difference : (state.line : Int) - (tail : Int) = (min base.lineNumPerEntry (base.lineNumPerFrame - tail) : Nat) := by omega
  rw [difference, u16_fits _ (by omega)]

include inv in
theorem recovery_sized (more : (state.handler.fifo.get state.handler.producePingPongFlag).tail < base.lineNumPerFrame)
    (sized : acceptsSize state.handler (min base.lineNumPerEntry
      (base.lineNumPerFrame - (state.handler.fifo.get state.handler.producePingPongFlag).tail)) = true) :
    (state.handler.fifo.get state.handler.producePingPongFlag).tail + base.lineNumPerEntry ≤ base.lineNumPerFrame := by
  apply Nat.le_of_not_lt
  intro ragged
  have small : min base.lineNumPerEntry
      (base.lineNumPerFrame - (state.handler.fifo.get state.handler.producePingPongFlag).tail) < base.lineNumPerEntry := by omega
  simp only [acceptsSize, inv.infoEq, isLastEntryToPushFifo, inv.maxEq, decide_eq_true small, Bool.true_or,
    Bool.true_and, Bool.not_not, beq_iff_eq] at sized
  omega

-- With an empty frame every frame starts at the ring's first line.
include used in
theorem frame_start_empty (frame : Nat) (empty : base.lineNumPerFrame = 0) : frameStart base frame = 0 := by
  rw [frameStart, used, empty, Nat.mul_zero, Nat.zero_mod]

theorem frame_start_whole (frame : Nat) (whole : base.lineNumPerBuffer ∣ base.lineNumUsedPerFrame) :
    frameStart base frame = 0 :=
  Nat.mod_eq_zero_of_dvd (Nat.dvd_mul_left_of_dvd whole frame)

-- The frame that begins where the driver expects it, its first line still to come.
include used in
theorem frame_start_next (frame : Nat) :
    frameStart base (if 0 < base.lineNumPerFrame then frame else frame + 1) = frameStart base frame := by
  split
  · rfl
  · rw [frame_start_empty base used _ (by omega), frame_start_empty base used _ (by omega)]

include inv in
theorem recovery_write_step (next : IspRecovery) (served : ServedInTime state .writeEntry)
    (taken : recoveryStep state .writeEntry = some next) : RecoveryInv base next := by
  obtain ⟨quiet, prompt⟩ := served
  simp only [recoveryStep, inv.baseEq] at taken
  split at taken
  · rename_i within
    obtain ⟨running, more⟩ := within
    cases taken
    refine ⟨inv.baseEq, inv.infoEq, inv.depthEq, inv.maxEq, ⟨by simp only; omega, fun over_ => ?_, fun told => ?_⟩, ?_⟩
    · exact absurd (over_.symm.trans running) (by decide)
    · exact absurd (told.symm.trans quiet) (by decide)
    have phase := inv.phase
    by_cases ok : state.handler.status = .ok
    · simp only [PhaseInv, ok, nextFrame, TailInv, prompt ok, inv.baseEq, if_pos more] at phase
      obtain ⟨offset, tail, fresh⟩ := phase
      refine phase_ok base _ ok offset ⟨rfl, running.trans quiet.symm, ?_, ?_⟩ fresh
      · simpa only [tail] using more
      · simp only [tail]
    · exact phase_hardware base state _ _ _ _ _ phase ok rfl
  · cases taken

include inv in
theorem recovery_end_step (next : IspRecovery) (served : ServedInTime state .endFrame)
    (taken : recoveryStep state .endFrame = some next) : RecoveryInv base next := by
  have quiet : state.done = false := served
  simp only [recoveryStep, inv.baseEq] at taken
  split at taken
  · rename_i within
    obtain ⟨running, full⟩ := within
    cases taken
    refine ⟨inv.baseEq, inv.infoEq, inv.depthEq, inv.maxEq, ⟨inv.hardware.lineIn, fun _ => full, fun _ => .inl rfl⟩, ?_⟩
    have phase := inv.phase
    by_cases ok : state.handler.status = .ok
    · simp only [PhaseInv, ok] at phase
      obtain ⟨offset, tail, fresh⟩ := phase
      refine phase_ok base _ ok offset ?_ fresh
      cases pending : state.raised with
      | none => simpa only [TailInv, pending] using tail
      | some frame =>
          simp only [TailInv, pending] at tail ⊢
          exact ⟨tail.1, trivial, tail.2.2⟩
    · exact phase_hardware base state _ _ _ _ _ phase ok (by simp [servedFrames, running, quiet])
  · cases taken

include used inv in
theorem recovery_start_step (next : IspRecovery) (served : ServedInTime state .startFrame)
    (taken : recoveryStep state .startFrame = some next) : RecoveryInv base next := by
  simp only [recoveryStep] at taken
  split at taken
  · rename_i ended
    cases taken
    have full := inv.hardware.whole ended
    refine ⟨inv.baseEq, inv.infoEq, inv.depthEq, inv.maxEq, ⟨Nat.zero_le _, fun later => ?_, fun _ => .inr ⟨rfl, Nat.succ_pos _⟩⟩, ?_⟩
    · cases later
    have phase := inv.phase
    by_cases ok : state.handler.status = .ok
    · simp only [PhaseInv, ok, nextFrame, TailInv, served ok, inv.baseEq, full, Nat.lt_irrefl, if_false] at phase
      obtain ⟨offset, tail, fresh⟩ := phase
      refine phase_ok base _ ok ?_ ?_ fresh
      · simp only [nextFrame, served ok, inv.baseEq, frame_start_next base used]
        exact offset
      · simp only [TailInv, served ok, ite_self]
        exact tail
    · exact phase_hardware base state _ _ _ _ _ phase ok (by simp [servedFrames, ended])
  · cases taken

-- While an entry waits to be served in its own frame, the frames served are those before it.
theorem served_frames_running (running : state.ended = state.done) : servedFrames state = state.frame := by
  simp [servedFrames, running]

include geometry short inv in
theorem recovery_push_step (next : IspRecovery) (taken : recoveryStep state .nLines = some next) : RecoveryInv base next := by
  simp only [recoveryStep] at taken
  split at taken
  · rename_i pending
    obtain ⟨frame, raised⟩ := Option.isSome_iff_exists.mp pending
    obtain ⟨handler, served, rest⟩ := Option.bind_eq_some_iff.mp taken
    cases rest
    obtain ⟨after, recorded, outcome, same⟩ := n_lines_outcome _ _ _ served
    subst same
    have phase := inv.phase
    have frameMax := frame_bound base geometry
    cases outcome with
    | stopped failed =>
        refine ⟨inv.baseEq, inv.infoEq, inv.depthEq, inv.maxEq, inv.hardware, ?_⟩
        cases status : state.handler.status <;> simp_all [PhaseInv, markPush, servedFrames]
    | unsized ok sized => exact ⟨inv.baseEq, inv.infoEq, inv.depthEq, inv.maxEq, inv.hardware, trivial⟩
    | crowded ok sized =>
        simp only [PhaseInv, ok, nextFrame, TailInv, raised] at phase
        obtain ⟨offset, ⟨own, running, -, -⟩, -⟩ := phase
        refine ⟨inv.baseEq, inv.infoEq, by simpa using inv.depthEq, by simpa using inv.maxEq, inv.hardware, ?_⟩
        have before := served_frames_running state running
        rw [own, ← before] at offset
        simpa [PhaseInv, servedFrames] using offset
    | recorded ok sized tail moved longer =>
        rw [recovery_element base state geometry inv ok frame raised] at sized
        simp only [PhaseInv, ok, nextFrame, TailInv, raised] at phase
        obtain ⟨offset, ⟨own, running, more, written⟩, fresh⟩ := phase
        have inFrame := recovery_sized base state inv more sized
        have tailNext : tail = state.line := by
          rw [moved, inv.infoEq, u16_fits _ (by omega)]
          omega
        have later : state.line < base.lineNumPerFrame := by
          rw [inv.maxEq] at longer
          have lineIn := inv.hardware.lineIn
          omega
        refine ⟨inv.baseEq, inv.infoEq, by simpa using inv.depthEq, by simpa using inv.maxEq, inv.hardware,
          phase_ok base _ ok ?_ ?_ ?_⟩
        · simpa [nextFrame, inv.baseEq, later, own] using offset
        · simpa [TailInv, later] using tailNext
        · have notCrowded : ¬ (state.handler.status = .ok ∧ state.handler.status = .overFlow) := by simp [ok]
          simp only [if_neg notCrowded]
          exact mark_push_fresh state.marks state.handler _ state.overflows ok ok rfl fresh
    | finished ok sized tail baseIndex moved last index =>
        rw [recovery_element base state geometry inv ok frame raised] at sized
        simp only [PhaseInv, ok, nextFrame, TailInv, raised] at phase
        obtain ⟨offset, ⟨own, running, more, written⟩, fresh⟩ := phase
        have inFrame := recovery_sized base state inv more sized
        have full : state.line = base.lineNumPerFrame := by
          rw [inv.maxEq, moved, inv.infoEq, u16_fits _ (by omega)] at last
          omega
        rw [inv.infoEq, inv.baseEq, switch_buffer_same, if_neg Bool.false_ne_true] at index
        have start := next_base_start base _ frame baseIndex short inv.depthEq offset index
        refine ⟨inv.baseEq, by simpa using inv.baseEq, by simp [resetFifo, inv.baseEq], by simp [resetFifo, inv.baseEq],
          inv.hardware, phase_ok base _ ok ?_ ?_ ?_⟩
        · simpa [nextFrame, inv.baseEq, full, own, resetFifo] using start
        · simp [TailInv, full, resetFifo]
        · have notCrowded : ¬ (state.handler.status = .ok ∧ state.handler.status = .overFlow) := by simp [ok]
          simp only [if_neg notCrowded]
          exact mark_push_fresh state.marks state.handler _ state.overflows ok ok rfl fresh
  · cases taken

-- The end of a frame is served: the frames served become one more.
theorem served_frames_told (told : state.done = true)
    (hardware : HardwareInv base state.frame state.line state.ended state.done) :
    state.frame + (if state.ended then 1 else 0) = servedFrames state + 1 := by
  have doneAt := hardware.doneAt told
  cases ended : state.ended with
  | true => simp [servedFrames, ended, told]
  | false =>
      simp only [ended, Bool.false_eq_true, false_or] at doneAt
      simp only [servedFrames, ended, told, Bool.false_eq_true, if_false, if_true]
      omega

include short used inv in
theorem recovery_frame_step (next : IspRecovery) (kept : ServedInTime state .frameDone)
    (taken : recoveryStep state .frameDone = some next) : RecoveryInv base next := by
  obtain ⟨quiet, noticed⟩ := kept
  simp only [recoveryStep] at taken
  split at taken
  · rename_i told
    obtain ⟨handler, served, rest⟩ := Option.bind_eq_some_iff.mp taken
    cases rest
    simp only [ispInterruptHandler, Bool.false_eq_true, if_false, if_true, serve_frame_done, Option.bind_eq_bind,
      Option.bind_some] at served
    have phase := inv.phase
    have hardware : HardwareInv base state.frame state.line state.ended false :=
      ⟨inv.hardware.lineIn, inv.hardware.whole, fun later => by cases later⟩
    have count := served_frames_told base state told inv.hardware
    cases status : state.handler.status with
    | ok =>
        simp only [status, reduceCtorEq, if_false, Option.some.injEq] at served
        subst served
        simp only [PhaseInv, status, nextFrame, TailInv, quiet] at phase
        refine ⟨inv.baseEq, inv.infoEq, inv.depthEq, inv.maxEq, hardware, phase_ok base _ status ?_ ?_ ?_⟩
        · simpa only [nextFrame, quiet] using phase.1
        · simpa only [TailInv, quiet] using phase.2.1
        · simpa using phase.2.2
    | recoveryDone =>
        simp only [status, if_true, Option.some.injEq] at served
        subst served
        simp only [PhaseInv, status, ← count] at phase
        obtain ⟨offset, tail, sides, clear⟩ := phase
        refine ⟨inv.baseEq, inv.infoEq, inv.depthEq, inv.maxEq, hardware, phase_ok base _ rfl ?_ ?_ ?_⟩
        · simp only [nextFrame, quiet, inv.baseEq]
          rcases inv.hardware.doneAt told with ended | ⟨empty, -⟩
          · simpa [inv.hardware.whole ended, ended] using offset
          · rw [empty, frame_start_next base used]
            by_cases ended : state.ended = true
            · have none_ : base.lineNumPerFrame = 0 := (inv.hardware.whole ended).symm.trans empty
              rw [frame_start_empty base used _ none_] at offset ⊢
              exact offset
            · simpa [ended] using offset
        · simp only [TailInv, quiet, tail]
          rcases inv.hardware.doneAt told with ended | ⟨empty, -⟩
          · simp [inv.hardware.whole ended]
          · simp [empty]
        · simp [sides, clear]
    | recoverying =>
        simp only [status, reduceCtorEq, if_false, if_true] at served
        simp only [PhaseInv, status] at phase
        have reset := fifo_reset_start base state.handler handler _ short inv.baseEq inv.infoEq inv.depthEq phase served
        subst reset
        refine ⟨rfl, by simp, by simp [resetFifo], by simp [resetFifo], hardware, ?_⟩
        simp only [PhaseInv, status, PingPong.get_set_same, resetFifo]
        rw [← count]
        rfl
    | overFlow =>
        simp only [status, reduceCtorEq, if_false, Option.some.injEq] at served
        subst served
        have whole : base.lineNumPerBuffer ∣ base.lineNumUsedPerFrame := by
          simpa [status, inv.baseEq] using noticed
        simp only [PhaseInv, status, frame_start_whole base _ whole] at phase
        refine ⟨inv.baseEq, inv.infoEq, inv.depthEq, inv.maxEq, hardware, ?_⟩
        simp only [PhaseInv, status, frame_start_whole base _ whole]
        exact phase
    | parmaInvalid | popFail | frameSwitchFail | inputEmpry =>
        simp only [status, reduceCtorEq, if_false, Option.some.injEq] at served
        subst served
        refine ⟨inv.baseEq, inv.infoEq, inv.depthEq, inv.maxEq, hardware, ?_⟩
        simp only [PhaseInv, status]
  · cases taken

include inv in
theorem recovery_get_step (list : SispBuffer × SispBuffer) (next : IspRecovery)
    (taken : recoveryStep state (.getEntry list) = some next) : RecoveryInv base next := by
  obtain ⟨⟨handler, entry, found⟩, got, rest⟩ := Option.bind_eq_some_iff.mp taken
  cases rest
  rcases get_outcome _ _ _ _ _ got with same | ⟨ok, failed⟩
  · subst same
    exact ⟨inv.baseEq, inv.infoEq, inv.depthEq, inv.maxEq, inv.hardware, inv.phase⟩
  · subst failed
    exact ⟨inv.baseEq, inv.infoEq, inv.depthEq, inv.maxEq, inv.hardware, trivial⟩

include short inv in
theorem recovery_update_step (next : IspRecovery) (taken : recoveryStep state .updateState = some next) :
    RecoveryInv base next := by
  simp only [recoveryStep] at taken
  split at taken
  · rename_i allowed
    obtain ⟨handler, updated, rest⟩ := Option.bind_eq_some_iff.mp taken
    cases rest
    have phase := inv.phase
    rcases allowed with status | status
    · simp only [ispRecoveryStateUpdate, status, Option.some.injEq] at updated
      subst updated
      simp only [PhaseInv, status] at phase
      exact ⟨inv.baseEq, inv.infoEq, inv.depthEq, inv.maxEq, inv.hardware, phase⟩
    · simp only [ispRecoveryStateUpdate, status] at updated
      obtain ⟨middle, served, rest⟩ := Option.map_eq_some_iff.mp updated
      subst rest
      simp only [PhaseInv, status] at phase
      have reset := fifo_reset_start base state.handler middle _ short inv.baseEq inv.infoEq inv.depthEq phase served
      subst reset
      refine ⟨rfl, by simp, by simp [resetFifo], by simp [resetFifo], inv.hardware, ?_⟩
      simp [PhaseInv, status, resetFifo, servedFrames]
  · cases taken

include inv in
theorem recovery_pop_step (next : IspRecovery) (taken : recoveryStep state .popEntry = some next) : RecoveryInv base next := by
  obtain ⟨count, -, rest⟩ := Option.bind_eq_some_iff.mp taken
  simp only [ispPopNLine] at rest
  have outcome := pop_outcome state.handler (u16 count)
  generalize ispcPopNewLine state.handler (u16 count) = result at outcome rest
  obtain ⟨handler, popped⟩ := result
  cases rest
  have phase := inv.phase
  cases outcome with
  | idle =>
      refine ⟨inv.baseEq, inv.infoEq, inv.depthEq, inv.maxEq, inv.hardware, ?_⟩
      cases status : state.handler.status with
      | ok =>
          simp only [PhaseInv, status] at phase ⊢
          refine ⟨phase.1, phase.2.1, fun mark member => phase.2.2 mark ?_⟩
          simp only [List.mem_append] at member ⊢
          exact member.imp (mark_drop_mem _ _ _ _ _) (mark_drop_mem _ _ _ _ _)
      | recoveryDone =>
          simp only [PhaseInv, status] at phase ⊢
          obtain ⟨offset, tail, sides, clear⟩ := phase
          exact ⟨offset, tail, sides, by simp [sides, clear]⟩
      | overFlow | recoverying =>
          simp only [PhaseInv, status] at phase ⊢
          exact phase
      | parmaInvalid | popFail | frameSwitchFail | inputEmpry => simp only [PhaseInv, status]
  | kept ok head | finished ok head ahead =>
      simp only [PhaseInv, ok] at phase
      obtain ⟨offset, tail, fresh⟩ := phase
      obtain ⟨tailKept, offsetKept, depthKept, maxKept⟩ := pop_keeps_tail state.handler.fifo
        state.handler.customerPingPongFlag state.handler.producePingPongFlag head
      refine ⟨inv.baseEq, inv.infoEq, depthKept.trans inv.depthEq, maxKept.trans inv.maxEq, inv.hardware,
        phase_ok base _ ok (offsetKept.trans offset) (by rw [tailKept]; exact tail) fun mark member => fresh mark ?_⟩
      simp only [List.mem_append] at member ⊢
      rcases member with inCustomer | inProducer
      · have old := mark_drop_mem _ _ _ _ _ inCustomer
        first
        | exact .inl old
        | exact .inr (ahead ▸ old)
      · exact .inr (mark_drop_mem _ _ _ _ _ inProducer)
  | outside ok head | unswitched ok head =>
      obtain ⟨-, -, depthKept, maxKept⟩ := pop_keeps_tail state.handler.fifo
        state.handler.customerPingPongFlag state.handler.producePingPongFlag head
      exact ⟨inv.baseEq, inv.infoEq, depthKept.trans inv.depthEq, maxKept.trans inv.maxEq, inv.hardware, trivial⟩

include geometry short used inv in
theorem recovery_step_inv (event : RecoveryEvent) (next : IspRecovery) (kept : ServedInTime state event)
    (taken : recoveryStep state event = some next) : RecoveryInv base next := by
  cases event with
  | writeEntry => exact recovery_write_step base state inv next kept taken
  | endFrame => exact recovery_end_step base state inv next kept taken
  | startFrame => exact recovery_start_step base state used inv next kept taken
  | nLines => exact recovery_push_step base state geometry short inv next taken
  | frameDone => exact recovery_frame_step base state short used inv next kept taken
  | getEntry list => exact recovery_get_step base state inv list next taken
  | popEntry => exact recovery_pop_step base state inv next taken
  | updateState => exact recovery_update_step base state short inv next taken

include inv in
theorem recovery_inv_aligned (ok : state.handler.status = .ok) : Aligned state := by
  have phase := inv.phase
  simp only [PhaseInv, ok] at phase
  exact ⟨by rw [inv.baseEq]; exact phase.1, phase.2.2⟩

end Recovery

theorem recovery_start_inv (handler : SispHandler) (base : SispControlInfo)
    (used : base.lineNumUsedPerFrame = base.lineNumPerFrame) (healthy : handler.status = .ok) :
    RecoveryInv base (startRecovery (ispcStart handler base)) := by
  refine ⟨rfl, by simp [startRecovery, ispcStart], by simp [startRecovery, ispcStart, resetFifo],
    by simp [startRecovery, ispcStart, resetFifo],
    ⟨Nat.zero_le _, (fun ended => by cases ended), (fun told => by cases told)⟩, phase_ok base _ healthy ?_ ?_ ?_⟩
  · by_cases empty : base.lineNumPerFrame = 0
    · simp [startRecovery, ispcStart, resetFifo, frame_start_empty base used _ empty]
    · have positive : 0 < base.lineNumPerFrame := by omega
      simp [startRecovery, ispcStart, resetFifo, nextFrame, positive, frameStart]
  · exact (ite_self 0).symm
  · simp [startRecovery]

-- The producer's FIFO stays aligned with the hardware through every overflow
-- and recovery that loses no frame.
theorem isp_recovery_aligned (id : Nat) (config : SispConfigPar) (start : SispHandler) (events : List RecoveryEvent)
    (finish : IspRecovery) (accepted : ispHandlerConfig (zeroHandler id) config = some (start, .ok))
    (short : ShortStarts start.base) (guarded : Runs.Guarded recoveryStep ServedInTime (startRecovery start) events)
    (ran : Runs.run recoveryStep (startRecovery start) events = some finish) (ok : finish.handler.status = .ok) :
    Aligned finish := by
  obtain ⟨base, geometry, used, begun⟩ := isp_config_start (zeroHandler id) start config accepted
  have same : start.base = base := by rw [begun]; rfl
  rw [same] at short
  have inv := Runs.guarded_run_invariant recoveryStep ServedInTime (RecoveryInv base)
    (fun state event next held kept taken => recovery_step_inv base state geometry short used held event next kept taken)
    (startRecovery start) finish events (by rw [begun]; exact recovery_start_inv (zeroHandler id) base used rfl) guarded ran
  exact recovery_inv_aligned base finish inv ok

-- A ring of a frame and a half. The second frame overflows, and the task
-- notices before the frame ends.
def recoveredRun : List RecoveryEvent := [.writeEntry, .nLines, .writeEntry, .nLines, .endFrame, .frameDone, .startFrame,
  .writeEntry, .nLines, .writeEntry, .nLines, .updateState, .endFrame, .frameDone, .updateState, .startFrame,
  .writeEntry, .nLines, .writeEntry, .nLines, .endFrame, .frameDone, .startFrame, .writeEntry, .nLines]

theorem isp_recovery_aligned_noticed : Aligned ((Runs.run recoveryStep (startRecovery (smallIsp 768)) recoveredRun).get (by decide)) :=
  isp_recovery_aligned 0 (smallIspConfig 768) (smallIsp 768) recoveredRun _ (by decide)
    (fun frame => Nat.lt_trans (Nat.mod_lt (frame * (smallIsp 768).base.lineNumUsedPerFrame) (by decide)) (by decide))
    (by decide) (Option.some_get _).symm (by decide)

-- The same overflow noticed after the end of the frame: the driver counts one frame too few.
theorem isp_recovery_misaligned : ¬ ∀ (id : Nat) (config : SispConfigPar) (start : SispHandler) (events : List RecoveryEvent)
    (finish : IspRecovery), ispHandlerConfig (zeroHandler id) config = some (start, .ok) →
    Runs.run recoveryStep (startRecovery start) events = some finish → finish.handler.status = .ok → Aligned finish := by
  intro claim
  let events : List RecoveryEvent := [.writeEntry, .nLines, .writeEntry, .nLines, .endFrame, .frameDone, .startFrame,
    .writeEntry, .nLines, .writeEntry, .nLines, .endFrame, .frameDone, .updateState, .startFrame,
    .writeEntry, .nLines, .writeEntry, .nLines, .endFrame, .frameDone, .updateState, .startFrame,
    .writeEntry, .nLines, .writeEntry, .nLines, .endFrame, .frameDone]
  have aligned := claim 0 (smallIspConfig 768) (smallIsp 768) events
    ((Runs.run recoveryStep (startRecovery (smallIsp 768)) events).get (by decide)) (by decide) (Option.some_get _).symm (by decide)
  exact absurd aligned.offset (by decide)

end CsiDsp
