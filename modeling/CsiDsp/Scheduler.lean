import CsiDsp.Base.Runs
import CsiDsp.HwTask
import CsiDsp.TaskInterrupt

set_option autoImplicit false

namespace CsiDsp

open Chain

-- Where ps_task_shedule is: about to pick a task, in a hardware task, in the
-- common or the idle task, about to send a report, or about to clear a ready bit.
inductive SchedPc where
  | pick
  | hw (pri : Nat) (pc : HwPc)
  | other (pri : Nat)
  | report (pri : Nat)
  | clear (pri : Nat)
deriving DecidableEq, Repr

def SchedPc.task : SchedPc → Option Nat
  | .pick => none
  | .hw pri _ | .other pri | .report pri | .clear pri => some pri

structure Sched where
  dsp : Dsp
  pc : SchedPc

def taskEmptyCheck (dsp : Dsp) : TaskCheck → EmptyCheck
  | .idle => psIsIdleTaskDone
  | .vipre => dspVipreTaskCheck (vipreIsEmpty dsp.vipre) dsp.highPriTask

def clearTask (dsp : Dsp) (pri : Nat) : Dsp :=
  { dsp with ready := clrReadyTask dsp.ready pri ((dsp.tasks pri).emptyCheck.map (taskEmptyCheck dsp)) }

def sendReport (dsp : Dsp) (pri : Nat) : Dsp :=
  { dsp with cmd := (xrpSendReport dsp.cmd ((dsp.tasks pri).report.reportId ||| reportToHostFlag)).1 }

-- A task without a task_pro is only warned about.
def schedStep (state : Sched) (scratch : Scratch) (algo : AlgoResult) : Option Sched :=
  let dsp := state.dsp
  match state.pc with
  | .pick =>
      if dsp.ready.grp = 0 then some state
      else
        match (dsp.tasks (getReadyTask dsp.ready)).taskPro with
        | none => some state
        | some .hw => some { state with pc := .hw (getReadyTask dsp.ready) .resetExtra }
        | some .xrp | some .idle => some { state with pc := .other (getReadyTask dsp.ready) }
  | .hw pri (.finish result) => some { state with pc := if result.withReport then .report pri else .clear pri }
  | .hw pri pc => (hwStep scratch algo dsp pri pc).map fun (dsp, pc) => ⟨dsp, .hw pri pc⟩
  | .other pri => some { state with pc := .clear pri }
  | .report pri => some ⟨sendReport dsp pri, .clear pri⟩
  | .clear pri => some ⟨clearTask dsp pri, .pick⟩

-- The host answers a report by writing 0 over its id.
inductive LoopEvent where
  | interrupt (irq : Irq) (registers : DeviceRegisters)
  | schedule (scratch : Scratch) (algo : AlgoResult)
  | hostAck

-- The ISP has written up to a line of the frame.
def ispLines (line : UInt16) : LoopEvent :=
  .interrupt .isp0 ⟨⟨true, line, false⟩, ⟨false, false, false, zeroMeta⟩, ⟨false, false⟩⟩

def loopStep (state : Sched) : LoopEvent → Option Sched
  | .interrupt irq registers =>
      if state.dsp.enabled irq then (takeInterrupt state.dsp irq registers).map fun dsp => { state with dsp := dsp } else none
  | .schedule scratch algo => schedStep state scratch algo
  | .hostAck =>
      if state.dsp.cmd.reportId = 0 then none
      else some { state with dsp := { state.dsp with cmd := { state.dsp.cmd with reportId := 0 } } }

inductive SchedOutcome (state : Sched) (scratch : Scratch) (algo : AlgoResult) (next : Sched) : Prop where
  | stayed (place : state.pc = .pick) (same : next = state)
  | picked (place : state.pc = .pick) (waiting : state.dsp.ready.grp ≠ 0)
      (pro : (state.dsp.tasks (getReadyTask state.dsp.ready)).taskPro = some .hw)
      (same : next = { state with pc := .hw (getReadyTask state.dsp.ready) .resetExtra })
  | passed (place : state.pc = .pick) (waiting : state.dsp.ready.grp ≠ 0)
      (pro : (state.dsp.tasks (getReadyTask state.dsp.ready)).taskPro ≠ some .hw)
      (same : next = { state with pc := .other (getReadyTask state.dsp.ready) })
  | ran (pri : Nat) (pc after : HwPc) (dsp : Dsp) (place : state.pc = .hw pri pc)
      (done : hwStep scratch algo state.dsp pri pc = some (dsp, after)) (same : next = ⟨dsp, .hw pri after⟩)
  | finished (pri : Nat) (result : TaskResult) (place : state.pc = .hw pri (.finish result))
      (same : next = { state with pc := if result.withReport then .report pri else .clear pri })
  | left (pri : Nat) (place : state.pc = .other pri) (same : next = { state with pc := .clear pri })
  | sent (pri : Nat) (place : state.pc = .report pri) (same : next = ⟨sendReport state.dsp pri, .clear pri⟩)
  | cleared (pri : Nat) (place : state.pc = .clear pri) (same : next = ⟨clearTask state.dsp pri, .pick⟩)

theorem sched_outcome (state next : Sched) (scratch : Scratch) (algo : AlgoResult)
    (done : schedStep state scratch algo = some next) : SchedOutcome state scratch algo next := by
  unfold schedStep at done
  cases place : state.pc with
  | pick =>
      simp only [place] at done
      by_cases idle : state.dsp.ready.grp = 0
      · rw [if_pos idle] at done
        cases done
        exact .stayed place rfl
      · rw [if_neg idle] at done
        cases pro : (state.dsp.tasks (getReadyTask state.dsp.ready)).taskPro with
        | none =>
            simp only [pro] at done
            cases done
            exact .stayed place rfl
        | some kind =>
            cases kind with
            | hw =>
                simp only [pro] at done
                cases done
                exact .picked place idle pro rfl
            | xrp | idle =>
                simp only [pro] at done
                cases done
                exact .passed place idle (by rw [pro]; simp) rfl
  | hw pri pc =>
      simp only [place] at done
      by_cases ends : ∃ result, pc = .finish result
      · obtain ⟨result, rfl⟩ := ends
        cases done
        exact .finished pri result place rfl
      · split at done <;> rename_i same <;> cases same
        · exact absurd ⟨_, rfl⟩ ends
        · obtain ⟨⟨dsp, after⟩, ran, same⟩ := Option.map_eq_some_iff.mp done
          cases same
          exact .ran pri pc after dsp place ran rfl
  | other pri =>
      simp only [place] at done
      cases done
      exact .left pri place rfl
  | report pri =>
      simp only [place] at done
      cases done
      exact .sent pri place rfl
  | clear pri =>
      simp only [place] at done
      cases done
      exact .cleared pri place rfl

section Clear

variable (dsp : Dsp) (pri other : Nat)

-- What the clearing of a ready bit does: the bit stays, it goes, or the VIPRE is
-- not empty and its first task is made ready instead.
inductive ClearOutcome (dsp : Dsp) (pri : Nat) (ready : ReadyTable) : Prop where
  | kept (same : ready = dsp.ready)
  | gone (same : ready = clearBit dsp.ready pri)
  | passedOn (check : (dsp.tasks pri).emptyCheck = some .vipre) (waiting : vipreIsEmpty dsp.vipre = false)
      (named : 0 ≤ dsp.highPriTask) (same : ready = setReadyTask dsp.ready dsp.highPriTask.toNat)

theorem clear_outcome : ClearOutcome dsp pri (clearTask dsp pri).ready := by
  cases check : (dsp.tasks pri).emptyCheck with
  | none => exact .gone (by simp only [clearTask, check, Option.map_none, clrReadyTask])
  | some kind =>
      cases kind with
      | idle => exact .kept (by simp [clearTask, check, clrReadyTask, taskEmptyCheck, psIsIdleTaskDone])
      | vipre =>
          by_cases done : (vipreIsEmpty dsp.vipre || decide (dsp.highPriTask < 0)) = true
          · exact .gone (by simp [clearTask, check, clrReadyTask, taskEmptyCheck, dspVipreTaskCheck, done])
          · have open_ := done
            simp only [Bool.or_eq_true, decide_eq_true_eq, not_or, Bool.not_eq_true, Int.not_lt] at open_
            exact .passedOn check open_.1 open_.2
              (by simp [clearTask, check, clrReadyTask, taskEmptyCheck, dspVipreTaskCheck, done])

theorem clear_keeps_ready (small : pri < 64) (otherSmall : other < 64) (different : other ≠ pri)
    (ready : isReady dsp.ready other = true) : isReady (clearTask dsp pri).ready other = true := by
  cases clear_outcome dsp pri with
  | kept same => rw [same, ready]
  | gone same => rw [same, is_ready_clear_other dsp.ready pri other small otherSmall different, ready]
  | passedOn check waiting named same =>
      rw [same]
      exact is_ready_set_mono _ _ _ ready

theorem clear_keeps_checked (check : (dsp.tasks pri).emptyCheck = some .vipre) (waiting : vipreIsEmpty dsp.vipre = false)
    (named : 0 ≤ dsp.highPriTask) (ready : isReady dsp.ready pri = true) : isReady (clearTask dsp pri).ready pri = true := by
  have passed : (clearTask dsp pri).ready = setReadyTask dsp.ready dsp.highPriTask.toNat := by
    have late : ¬ dsp.highPriTask < 0 := by omega
    simp [clearTask, check, clrReadyTask, taskEmptyCheck, dspVipreTaskCheck, waiting, late]
  rw [passed]
  exact is_ready_set_mono _ _ _ ready

theorem groups_agree_clear_task (agree : GroupsAgree dsp.ready) : GroupsAgree (clearTask dsp pri).ready := by
  cases clear_outcome dsp pri with
  | kept same => exact same ▸ agree
  | gone same => exact same ▸ groups_agree_clear dsp.ready pri agree
  | passedOn check waiting named same => exact same ▸ groups_agree_set dsp.ready _ agree

end Clear

section Interrupt

variable (dsp next : Dsp) (irq : Irq) (registers : DeviceRegisters)

structure InterruptEffect (dsp : Dsp) (irq : Irq) (registers : DeviceRegisters) (next driven : Dsp) (visited : List Nat)
    (last : Vector) : Prop where
  walked : interruptWalk dsp irq = some (visited, last)
  ran : runDriver dsp registers last.handler = some driven
  same : next = { driven with ready := visited.reverse.foldl setReadyTask dsp.ready }
  inTable : ∀ id ∈ visited, id < psMaxTaskType

theorem vector_link_in_table (vector : Vector) (id : Nat) (link : vectorLink vector = .node id) : id < psMaxTaskType := by
  unfold vectorLink at link
  split at link
  · rename_i found
    obtain ⟨-, positive, small⟩ := found
    cases link
    omega
  · cases link

theorem chained_in_table (start : Link Nat Vector) (visited : List Nat) (stop : Vector)
    (chained : Chained (taskLink dsp) start visited stop) (first : ∀ id, start = .node id → id < psMaxTaskType) :
    ∀ id ∈ visited, id < psMaxTaskType := by
  induction chained with
  | last stop => exact fun id member => absurd member List.not_mem_nil
  | node name rest stop _ ih =>
      intro id member
      rcases List.mem_cons.mp member with rfl | later
      · exact first id rfl
      · exact ih (fun other link => vector_link_in_table _ other link) id later

theorem interrupt_effect (taken : takeInterrupt dsp irq registers = some next) :
    ∃ driven visited last, InterruptEffect dsp irq registers next driven visited last := by
  obtain ⟨⟨visited, last⟩, walked, rest⟩ := Option.bind_eq_some_iff.mp taken
  obtain ⟨driven, ran, done⟩ := Option.bind_eq_some_iff.mp rest
  cases done
  refine ⟨driven, visited, last, walked, ran, ?_, ?_⟩
  · have ready : driven.ready = dsp.ready := by rw [run_driver_frame dsp driven registers _ ran]
    rw [ready]
  · exact chained_in_table dsp _ visited last (chained_of_walk _ _ _ _ _ walked) fun id link =>
      vector_link_in_table _ id link

end Interrupt

-- What the loop and the interrupts leave alone: the tasks, the scheduler's list,
-- the vectors and the heap.
def LoopFrame (dsp next : Dsp) : Prop :=
  next = { dsp with
    ready := next.ready, isp := next.isp, postIsp := next.postIsp, vipre := next.vipre, swBe := next.swBe, cmd := next.cmd
    payload := next.payload, extraReport := next.extraReport }

section Frame

variable (dsp middle next : Dsp)

theorem loop_frame_trans (first : LoopFrame dsp middle) (second : LoopFrame middle next) : LoopFrame dsp next := by
  rw [LoopFrame] at first second ⊢
  rw [second, first]

theorem loop_frame_tasks (frame : LoopFrame dsp next) : next.tasks = dsp.tasks := by
  rw [LoopFrame] at frame
  rw [frame]

theorem loop_frame_vectors (frame : LoopFrame dsp next) : next.vectors = dsp.vectors := by
  rw [LoopFrame] at frame
  rw [frame]

theorem loop_frame_enabled (frame : LoopFrame dsp next) : next.enabled = dsp.enabled := by
  rw [LoopFrame] at frame
  rw [frame]

theorem loop_frame_high (frame : LoopFrame dsp next) : next.highPriTask = dsp.highPriTask := by
  rw [LoopFrame] at frame
  rw [frame]

theorem loop_frame_walk (frame : LoopFrame dsp next) (irq : Irq) : interruptWalk next irq = interruptWalk dsp irq := by
  have links : taskLink next = taskLink dsp := by
    funext pri
    rw [taskLink, taskLink, loop_frame_tasks dsp next frame]
  rw [interruptWalk, interruptWalk, links, loop_frame_vectors dsp next frame]

theorem interrupt_frame (irq : Irq) (registers : DeviceRegisters) (taken : takeInterrupt dsp irq registers = some next) :
    LoopFrame dsp next := by
  obtain ⟨driven, visited, last, effect⟩ := interrupt_effect dsp next irq registers taken
  rw [LoopFrame]
  rw [effect.same, run_driver_frame dsp driven registers _ effect.ran]

theorem hw_loop_frame (frame : HwFrame dsp next) : LoopFrame dsp next := by
  rw [LoopFrame]
  rw [HwFrame] at frame
  rw [frame]

theorem loop_step_frame (state after : Sched) (event : LoopEvent) (taken : loopStep state event = some after) :
    LoopFrame state.dsp after.dsp := by
  cases event with
  | interrupt irq registers =>
      simp only [loopStep, Option.ite_none_right_eq_some, Option.map_eq_some_iff] at taken
      obtain ⟨-, next, interrupted, rfl⟩ := taken
      exact interrupt_frame state.dsp next irq registers interrupted
  | hostAck =>
      simp only [loopStep, Option.ite_none_left_eq_some] at taken
      obtain ⟨-, same⟩ := taken
      cases same
      rfl
  | schedule scratch algo =>
      cases sched_outcome state after scratch algo taken with
      | ran pri pc later next place done same =>
          subst same
          exact hw_loop_frame state.dsp next (hw_change_frame state.dsp next _ pc
            (hw_step_change scratch state.dsp next pc algo pri later done))
      | stayed | picked | passed | finished | left | sent | cleared => rename_i same; subst same; rfl

end Frame

end CsiDsp
