import CsiDsp.CommandLoop
import CsiDsp.QuietCommands
import CsiDsp.Scheduler

set_option autoImplicit false

namespace CsiDsp

open Chain

-- Where the common task is inside TASK_START or TASK_STOP, whose writes an
-- interrupt may separate: before the old handler is linked behind the new one,
-- before the line is enabled and before the task is RUNING; before the line is
-- disabled and before the task is READY.
inductive CommandPc where
  | idle
  | startLink (pri : Nat) (irq : Irq) (old : Handler)
  | startEnable (pri : Nat) (irq : Irq)
  | startRun (pri : Nat)
  | stopDisable (pri : Nat) (irq : Irq)
  | stopReady (pri : Nat)
deriving DecidableEq, Repr

structure TaskRun where
  sched : Sched
  command : CommandPc

inductive TaskEvent where
  | loop (event : LoopEvent)
  | command (command : Command)
  | advance

def endCommand (dsp : Dsp) : TaskRun := ⟨⟨dsp, .clear commonPri⟩, .idle⟩

def insideCommand (dsp : Dsp) (command : CommandPc) : TaskRun := ⟨⟨dsp, .other commonPri⟩, command⟩

def setStatus (dsp : Dsp) (pri : Nat) (status : TaskStatus) : Dsp := modifyTask dsp pri fun task => { task with status := status }

-- The first write of TASK_START and of TASK_STOP, or a whole other command.
def beginCommand (dsp : Dsp) : Command → Option TaskRun
  | .taskStart id =>
      match dspSearchTaskById dsp id with
      | none => some (endCommand dsp)
      | some pri =>
          match (dsp.tasks pri).status with
          | .ready =>
              let irq := (dsp.tasks pri).irqNum
              let old := (dsp.vectors irq).handler
              let dsp := installTrigger dsp pri irq
              some (if old = .null then endCommand dsp else insideCommand dsp (.startLink pri irq old))
          | _ => some (endCommand dsp)
  | .taskStop id =>
      match dspSearchTaskById dsp id with
      | none => some (endCommand dsp)
      | some pri =>
          match (dsp.tasks pri).status with
          | .runing =>
              let irq := (dsp.tasks pri).irqNum
              some (insideCommand (reinstallOld dsp pri irq) (.stopDisable pri irq))
          | _ => some (endCommand dsp)
  | command => (psCommonCommand dsp command).map fun result => endCommand result.1

def advanceCommand (dsp : Dsp) : CommandPc → Option TaskRun
  | .idle => none
  | .startLink pri irq old => some (insideCommand (linkOldHandler dsp pri irq old) (.startEnable pri irq))
  | .startEnable pri irq => some (insideCommand (enableLine dsp irq) (.startRun pri))
  | .startRun pri => some (endCommand (setStatus dsp pri .runing))
  | .stopDisable pri irq => some (insideCommand (disableLine dsp irq) (.stopReady pri))
  | .stopReady pri => some (endCommand (setStatus dsp pri .ready))

def loopOf (state : TaskRun) (event : LoopEvent) : Option TaskRun :=
  (loopStep state.sched event).map fun sched => { state with sched := sched }

def taskStep (state : TaskRun) : TaskEvent → Option TaskRun
  | .loop (.schedule scratch algo) => if state.command = .idle then loopOf state (.schedule scratch algo) else none
  | .loop event => loopOf state event
  | .command command =>
      if state.command = .idle ∧ state.sched.pc = .other commonPri then beginCommand state.sched.dsp command else none
  | .advance => advanceCommand state.sched.dsp state.command

-- Undisturbed, the steps of TASK_START and TASK_STOP are the handlers of
-- ps_common_command.
def wholeCommand (dsp : Dsp) (command : Command) : Option TaskRun :=
  (beginCommand dsp command).bind fun first =>
    match first.command with
    | .startLink _ _ _ => Runs.run taskStep first [.advance, .advance, .advance]
    | .stopDisable _ _ => Runs.run taskStep first [.advance, .advance]
    | _ => some first

theorem whole_command (dsp : Dsp) (command : Command) :
    wholeCommand dsp command = (psCommonCommand dsp command).map fun result => endCommand result.1 := by
  cases command with
  | taskStart id =>
      simp only [wholeCommand, beginCommand, psCommonCommand, dspTaskStart]
      cases dspSearchTaskById dsp id with
      | none => rfl
      | some pri =>
          cases status : (dsp.tasks pri).status with
          | free | idel | runing | invalid => simp only [status]; rfl
          | ready =>
              simp only [status, psTaskInterruptRegister]
              by_cases null : (dsp.vectors (dsp.tasks pri).irqNum).handler = .null
              · simp only [if_pos null]
                rfl
              · simp only [if_neg null]
                rfl
  | taskStop id =>
      simp only [wholeCommand, beginCommand, psCommonCommand, dspTaskStop]
      cases dspSearchTaskById dsp id with
      | none => rfl
      | some pri =>
          cases status : (dsp.tasks pri).status <;> (simp only [status]; rfl)
  | taskAlloc | taskFree | feConfig | beConfig | algoConfig | algoLoad | reportConfig | beAssginBuf =>
      simp only [wholeCommand, beginCommand]
      cases psCommonCommand dsp _ <;> rfl

end CsiDsp
