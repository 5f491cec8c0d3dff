import CsiDsp.Base.Runs
import CsiDsp.ReadyTable
import CsiDsp.XrpDsp

set_option autoImplicit false

namespace CsiDsp

-- The priorities init_scheduler gives to the command task and the idle task.
def commonPri : Nat := 3
def idlePri : Nat := 15

-- Where ps_task_shedule is: about to pick a task, in the command task before or
-- after its read of the flags, in another task, or about to clear a ready bit.
inductive LoopPc where
  | pick
  | read
  | handle (flags : BitVec 32)
  | run (pri : Nat)
  | clear (pri : Nat)
deriving DecidableEq, Repr

-- The host's requests, the device interrupt and the loop. raised says that the
-- host has raised the interrupt of its last request, taken that the interrupt
-- has run since.
structure CommandLoop where
  cmd : XrpDspCmd
  ready : ReadyTable
  pc : LoopPc
  irqPending : Bool
  raised : Bool
  taken : Bool

-- The state after the handshake and init_scheduler.
def startLoop : CommandLoop :=
  ⟨⟨syncDspToHost, 0, 0, 0, 0, 0⟩, setReadyTask zeroReady idlePri, .pick, false, true, false⟩

-- schedule is one step of the loop: outcome is the end of the command it may
-- process, and hasPro and isDone say whether the other task it may run has a
-- task_pro and what its task_empty_check answers.
inductive CommandEvent where
  | hostWrite (flags : BitVec 32)
  | hostRaise
  | interrupt
  | otherReady (pri : Nat)
  | schedule (outcome : CommandOutcome) (hasPro isDone : Bool)
deriving DecidableEq, Repr

def scheduleStep (state : CommandLoop) (outcome : CommandOutcome) (hasPro isDone : Bool) : CommandLoop :=
  match state.pc with
  | .pick =>
      if state.ready.grp = 0 then state
      else if getReadyTask state.ready = commonPri then { state with pc := .read }
      else { state with pc := .run (getReadyTask state.ready) }
  | .read => { state with pc := if dispatchable state.cmd.flags then .handle state.cmd.flags else .clear commonPri }
  | .handle flags => { state with cmd := (processCommand state.cmd flags outcome).1, pc := .clear commonPri }
  | .run pri => { state with pc := if hasPro then .clear pri else .pick }
  | .clear pri => { state with
      ready := clrReadyTask state.ready pri (if pri = commonPri then none else some fun ready => (ready, isDone))
      pc := .pick }

def commandStep (state : CommandLoop) : CommandEvent → Option CommandLoop
  | .hostWrite flags =>
      if state.cmd.flags &&& flagResponseValid ≠ 0 ∧ dispatchable flags then
        some { state with cmd := { state.cmd with flags := flags }, raised := false, taken := false }
      else none
  | .hostRaise => if state.raised then none else some { state with raised := true, irqPending := true }
  | .interrupt =>
      if state.irqPending then
        some { state with irqPending := false, taken := state.raised, ready := setReadyTask state.ready commonPri }
      else none
  | .otherReady pri =>
      if pri < 16 ∧ pri ≠ commonPri then some { state with ready := setReadyTask state.ready pri } else none
  | .schedule outcome hasPro isDone => some (scheduleStep state outcome hasPro isDone)

def NoCommandLost (state : CommandLoop) : Prop :=
  dispatchable state.cmd.flags = true → state.taken = true → isReady state.ready commonPri = true ∨ state.pc = .read

-- The interrupt of a waiting request is not taken between the command task's
-- read or answer of the previous one and the clearing of its ready bit.
def InterruptInTime (state : CommandLoop) : CommandEvent → Prop
  | .interrupt => state.pc = .clear commonPri → dispatchable state.cmd.flags = true → state.raised = false
  | _ => True

instance (state : CommandLoop) : ∀ event, Decidable (InterruptInTime state event)
  | .interrupt => inferInstanceAs (Decidable (_ → _ → _))
  | .hostWrite _ | .hostRaise | .otherReady _ | .schedule _ _ _ => inferInstanceAs (Decidable True)

def PcInv (state : CommandLoop) : Prop :=
  match state.pc with
  | .pick => True
  | .read | .handle _ => isReady state.ready commonPri = true
  | .run pri => pri < 64 ∧ pri ≠ commonPri
  | .clear pri => pri < 64

structure CommandInv (state : CommandLoop) : Prop where
  agree : GroupsAgree state.ready
  place : PcInv state
  waiting : dispatchable state.cmd.flags = true → state.taken = true →
    isReady state.ready commonPri = true ∧ state.pc ≠ .clear commonPri

theorem command_start_inv : CommandInv startLoop := by
  refine ⟨groups_agree_set _ _ groups_agree_zero, trivial, ?_⟩
  intro valid
  exact absurd valid (by decide)

section Command

variable (state : CommandLoop)

-- The command task left to itself does what xrp_device_command_dispatch does.
theorem whole_dispatch (outcome : CommandOutcome) (hasPro isDone : Bool) (place : state.pc = .read) :
    ∃ steps, Runs.run commandStep state (List.replicate steps (.schedule outcome hasPro isDone)) =
      some { state with cmd := (xrpDeviceCommandDispatch state.cmd outcome).1, pc := .clear commonPri } := by
  obtain ⟨cmd, ready, pc, irqPending, raised, taken⟩ := state
  cases place
  cases valid : dispatchable cmd.flags with
  | true => exact ⟨2, by simp [Runs.run, commandStep, scheduleStep, xrpDeviceCommandDispatch, valid]⟩
  | false => exact ⟨1, by simp [Runs.run, commandStep, scheduleStep, xrpDeviceCommandDispatch, valid]⟩

variable (inv : CommandInv state)

theorem pc_inv_set (pri : Nat) (place : PcInv state) : PcInv { state with ready := setReadyTask state.ready pri } := by
  obtain ⟨cmd, ready, pc, irqPending, raised, taken⟩ := state
  cases pc with
  | read | handle => exact is_ready_set_mono _ _ _ place
  | pick | run | clear => exact place

include inv

theorem schedule_inv (outcome : CommandOutcome) (hasPro isDone : Bool) : CommandInv (scheduleStep state outcome hasPro isDone) := by
  obtain ⟨agree, place, waiting⟩ := inv
  obtain ⟨cmd, ready, pc, irqPending, raised, taken⟩ := state
  cases pc with
  | pick =>
      by_cases none_ready : ready.grp = 0
      · simp only [scheduleStep, none_ready, if_true]
        exact ⟨agree, trivial, waiting⟩
      · obtain ⟨picked, small⟩ := get_ready_task_ready ready agree none_ready
        by_cases common : getReadyTask ready = commonPri
        · simp only [scheduleStep, if_neg none_ready, if_pos common]
          rw [common] at picked
          exact ⟨agree, picked, fun valid took => ⟨picked, by simp⟩⟩
        · simp only [scheduleStep, if_neg none_ready, if_neg common]
          exact ⟨agree, ⟨small, common⟩, fun valid took => ⟨(waiting valid took).1, by simp⟩⟩
  | read =>
      by_cases valid : dispatchable cmd.flags = true
      · simp only [scheduleStep, valid, if_true]
        exact ⟨agree, place, fun valid took => ⟨(waiting valid took).1, by simp⟩⟩
      · simp only [scheduleStep, valid, if_false, Bool.false_eq_true]
        exact ⟨agree, show commonPri < 64 by decide, fun found => absurd found valid⟩
  | handle flags =>
      refine ⟨agree, show commonPri < 64 by decide, fun valid => ?_⟩
      rw [scheduleStep, processed_not_dispatchable] at valid
      exact absurd valid (by decide)
  | run pri =>
      cases hasPro with
      | true =>
          refine ⟨agree, place.1, fun valid took => ⟨(waiting valid took).1, ?_⟩⟩
          intro same
          exact place.2 (LoopPc.clear.inj same)
      | false => exact ⟨agree, trivial, fun valid took => ⟨(waiting valid took).1, by simp [scheduleStep]⟩⟩
  | clear pri =>
      by_cases common : pri = commonPri
      · subst common
        simp only [scheduleStep, if_true, clrReadyTask]
        exact ⟨groups_agree_clear _ _ agree, trivial, fun valid took => absurd rfl (waiting valid took).2⟩
      · cases isDone with
        | true =>
            simp only [scheduleStep, if_neg common, clrReadyTask, if_true]
            refine ⟨groups_agree_clear _ _ agree, trivial, fun valid took => ⟨?_, by simp⟩⟩
            rw [is_ready_clear_other ready pri commonPri place (by decide) (Ne.symm common)]
            exact (waiting valid took).1
        | false =>
            simp only [scheduleStep, if_neg common, clrReadyTask, Bool.false_eq_true, if_false]
            exact ⟨agree, trivial, fun valid took => ⟨(waiting valid took).1, by simp⟩⟩

theorem command_step_inv (event : CommandEvent) (next : CommandLoop) (inTime : InterruptInTime state event)
    (taken : commandStep state event = some next) : CommandInv next := by
  cases event with
  | hostWrite flags =>
      simp only [commandStep] at taken
      split at taken
      · cases taken
        exact ⟨inv.agree, inv.place, fun _ took => absurd took (by simp)⟩
      · cases taken
  | hostRaise =>
      simp only [commandStep] at taken
      split at taken
      · cases taken
      · cases taken
        exact ⟨inv.agree, inv.place, inv.waiting⟩
  | interrupt =>
      simp only [commandStep] at taken
      split at taken
      · cases taken
        refine ⟨groups_agree_set _ _ inv.agree, pc_inv_set state commonPri inv.place, ?_⟩
        intro valid took
        refine ⟨is_ready_set_same _ _, fun atClear => ?_⟩
        rw [inTime atClear valid] at took
        exact absurd took Bool.false_ne_true
      · cases taken
  | otherReady pri =>
      simp only [commandStep] at taken
      split at taken
      · cases taken
        refine ⟨groups_agree_set _ _ inv.agree, pc_inv_set state pri inv.place, ?_⟩
        intro valid took
        obtain ⟨set, place⟩ := inv.waiting valid took
        exact ⟨is_ready_set_mono _ _ _ set, place⟩
      · cases taken
  | schedule outcome hasPro isDone =>
      cases taken
      exact schedule_inv state inv outcome hasPro isDone

end Command

-- No request is lost in a run whose device interrupts come in time.
theorem no_command_lost (events : List CommandEvent) (finish : CommandLoop)
    (inTime : Runs.Guarded commandStep InterruptInTime startLoop events)
    (ran : Runs.run commandStep startLoop events = some finish) : NoCommandLost finish := by
  have inv := Runs.guarded_run_invariant commandStep InterruptInTime CommandInv
    (fun state event next held inTime taken => command_step_inv state held event next inTime taken)
    startLoop finish events command_start_inv inTime ran
  intro valid took
  exact .inl (inv.waiting valid took).1

-- One request, from the host's write to the loop's next pick.
def promptRun : List CommandEvent :=
  let schedule : CommandEvent := .schedule (.handled .success) true false
  [.hostWrite 1, .hostRaise, .interrupt, schedule, schedule, schedule, schedule, .hostWrite 1, .hostRaise, .interrupt]

theorem no_command_lost_prompt : NoCommandLost ((Runs.run commandStep startLoop promptRun).get (by decide)) :=
  no_command_lost promptRun _ (by decide) (Option.some_get _).symm

-- The interrupt of the second request finds the ready bit of the first still set.
theorem command_lost : ¬ ∀ (events : List CommandEvent) (finish : CommandLoop),
    Runs.run commandStep startLoop events = some finish → NoCommandLost finish := by
  intro claim
  let schedule : CommandEvent := .schedule (.handled .success) true false
  let events : List CommandEvent := [.hostWrite 1, .hostRaise, .interrupt, schedule, schedule, schedule,
    .hostWrite 1, .hostRaise, .interrupt, schedule]
  have kept := claim events ((Runs.run commandStep startLoop events).get (by decide)) (Option.some_get _).symm
  exact absurd (kept (by decide) (by decide)) (by decide)

end CsiDsp
