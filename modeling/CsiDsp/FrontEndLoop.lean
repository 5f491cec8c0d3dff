import CsiDsp.Scheduler
import CsiDsp.TaskStatus

set_option autoImplicit false

namespace CsiDsp

open CInt

def FeOps.driver : FeOps → Handler
  | .isp => .isp
  | .vipre => .vipre

def feStatus (dsp : Dsp) : FeOps → EhwErrorCode
  | .isp => dsp.isp.status
  | .vipre => dsp.vipre.status

-- Whether the side of the front end's ring that is read holds no entry.
def consumerEmpty (dsp : Dsp) : FeOps → Bool
  | .isp => isEmptyFifo (dsp.isp.fifo.get dsp.isp.customerPingPongFlag)
  | .vipre => vipreIsEmpty dsp.vipre

structure AttachedTo (fe : FeOps) (dsp : Dsp) (pri : Nat) : Prop where
  inTable : pri < psMaxTaskType
  running : Running dsp pri
  pro : (dsp.tasks pri).taskPro = some .hw
  ops : (dsp.tasks pri).fe.ops = some fe

-- Where the loop is about to pick a task, an entry of a front end without an
-- error wakes a task of that front end.
def NoEntryStranded (fe : FeOps) (state : Sched) : Prop :=
  state.pc = .pick → feStatus state.dsp fe = .ok → consumerEmpty state.dsp fe = false →
    ∃ pri, AttachedTo fe state.dsp pri ∧ isReady state.dsp.ready pri = true

-- The tasks of a front end run on its line and take all that it captures, no
-- other line has its driver, and an entry it already holds has woken them.
structure FrontEndSetup (fe : FeOps) (line : Irq) (attached : List Nat) (state : Sched) : Prop where
  picking : state.pc = .pick
  agree : GroupsAgree state.dsp.ready
  woken : consumerEmpty state.dsp fe = false → ∀ pri ∈ attached, isReady state.dsp.ready pri = true
  walked : ∃ arg, interruptWalk state.dsp line = some (attached, ⟨fe.driver, arg⟩)
  nonempty : attached ≠ []
  members : ∀ pri ∈ attached, AttachedTo fe state.dsp pri
  complete : ∀ pri < 64, (state.dsp.tasks pri).taskPro = some .hw → (state.dsp.tasks pri).fe.ops = some fe → pri ∈ attached
  covers : fe = .vipre → ∃ first ∈ attached, ∃ second ∈ attached, u16 (state.dsp.tasks first).fe.id = 0 ∨
    u16 (state.dsp.tasks first).fe.id = 1 ∧ u16 (state.dsp.tasks second).fe.id = 2
  alone : ∀ irq visited last, irq ≠ line → interruptWalk state.dsp irq = some (visited, last) → last.handler ≠ fe.driver

-- One of the tasks looks whether the VIPRE is empty before its bit goes.
def Rechecked (fe : FeOps) (attached : List Nat) (dsp : Dsp) : Prop :=
  fe = .vipre ∧ 0 ≤ dsp.highPriTask ∧ ∃ low ∈ attached, (dsp.tasks low).emptyCheck = some .vipre

-- The bit of a task goes when the front end is empty or has failed, when
-- another of its tasks is ready, or when one of them looks again.
def ClearsInTime (fe : FeOps) (attached : List Nat) (state : Sched) : LoopEvent → Prop
  | .schedule _ _ => ∀ pri ∈ attached, state.pc = .clear pri →
      Rechecked fe attached state.dsp ∨ consumerEmpty state.dsp fe = true ∨ feStatus state.dsp fe ≠ .ok ∨
        ∃ other ∈ attached, other ≠ pri ∧ isReady state.dsp.ready other = true
  | .interrupt _ _ | .hostAck => True

instance (fe : FeOps) (attached : List Nat) (dsp : Dsp) : Decidable (Rechecked fe attached dsp) :=
  inferInstanceAs (Decidable (_ = _ ∧ _ ≤ _ ∧ ∃ low ∈ attached, _))

instance (fe : FeOps) (attached : List Nat) (state : Sched) : ∀ event, Decidable (ClearsInTime fe attached state event)
  | .schedule _ _ => inferInstanceAs (Decidable (∀ pri ∈ attached, _ → _ ∨ _ ∨ _ ∨ ∃ other ∈ attached, _))
  | .interrupt _ _ | .hostAck => inferInstanceAs (Decidable True)

structure FrontEndInv (fe : FeOps) (attached : List Nat) (start : Dsp) (state : Sched) : Prop where
  frame : LoopFrame start state.dsp
  agree : GroupsAgree state.dsp.ready
  small : ∀ pri, state.pc.task = some pri → pri < 64
  busy : ∀ pri ∈ attached, state.pc.task = some pri → isReady state.dsp.ready pri = true
  chosen : ∀ pri pc, state.pc = .hw pri pc → (start.tasks pri).taskPro = some .hw
  served : feStatus state.dsp fe = .ok → consumerEmpty state.dsp fe = false →
    ∃ pri ∈ attached, isReady state.dsp.ready pri = true
  checked : fe = .vipre → 0 ≤ start.highPriTask → consumerEmpty state.dsp fe = false →
    ∀ low ∈ attached, (start.tasks low).emptyCheck = some .vipre → isReady state.dsp.ready low = true

section FrontEnd

variable (fe : FeOps) (dsp next : Dsp)

theorem run_driver_front_end (registers : DeviceRegisters) (handler : Handler) (ran : runDriver dsp registers handler = some next)
    (other : handler ≠ fe.driver) : feStatus next fe = feStatus dsp fe ∧ consumerEmpty next fe = consumerEmpty dsp fe := by
  cases handler with
  | isp =>
      obtain ⟨result, -, rfl⟩ := Option.map_eq_some_iff.mp ran
      cases fe with
      | isp => exact absurd rfl other
      | vipre => exact ⟨rfl, rfl⟩
  | vipre =>
      obtain ⟨result, -, rfl⟩ := Option.map_eq_some_iff.mp ran
      cases fe with
      | isp => exact ⟨rfl, rfl⟩
      | vipre => exact absurd rfl other
  | postIsp =>
      obtain ⟨result, -, rfl⟩ := Option.map_eq_some_iff.mp ran
      cases fe <;> exact ⟨rfl, rfl⟩
  | xrp | unhandled =>
      cases ran
      exact ⟨rfl, rfl⟩
  | null | trigger => cases ran

theorem hw_change_front_end (task : DspTask) (pc : HwPc) (change : HwChange dsp task pc next) (other : task.fe.ops ≠ some fe) :
    feStatus next fe = feStatus dsp fe ∧ consumerEmpty next fe = consumerEmpty dsp fe := by
  cases change with
  | isp handler ops same =>
      subst same
      cases fe with
      | isp => exact absurd ops other
      | vipre => exact ⟨rfl, rfl⟩
  | vipre handler ops empty same =>
      subst same
      cases fe with
      | isp => exact ⟨rfl, rfl⟩
      | vipre => exact absurd ops other
  | extra | backEnd | report => rename_i same; subst same; cases fe <;> exact ⟨rfl, rfl⟩

theorem hw_change_empty (task : DspTask) (pc : HwPc) (change : HwChange dsp task pc next) (empty : vipreIsEmpty dsp.vipre = true) :
    vipreIsEmpty next.vipre = true := by
  cases change with
  | vipre handler ops kept same => rw [same]; exact kept empty
  | isp | extra | backEnd | report => rename_i same; rw [same]; exact empty

end FrontEnd

section Step

variable (fe : FeOps) (line : Irq) (attached : List Nat) (start : Sched) (setup : FrontEndSetup fe line attached start)
variable (state next : Sched) (inv : FrontEndInv fe attached start.dsp state)

include inv

theorem front_end_inv_grow (frame : LoopFrame state.dsp next.dsp) (agree : GroupsAgree next.dsp.ready)
    (grows : ∀ pri ∈ attached, isReady state.dsp.ready pri = true → isReady next.dsp.ready pri = true)
    (status : feStatus next.dsp fe = feStatus state.dsp fe) (empty : consumerEmpty next.dsp fe = consumerEmpty state.dsp fe)
    (small : ∀ pri, next.pc.task = some pri → pri < 64)
    (busy : ∀ pri ∈ attached, next.pc.task = some pri → isReady next.dsp.ready pri = true)
    (chosen : ∀ pri pc, next.pc = .hw pri pc → (start.dsp.tasks pri).taskPro = some .hw) :
    FrontEndInv fe attached start.dsp next := by
  refine ⟨loop_frame_trans _ _ _ inv.frame frame, agree, small, busy, chosen, fun healthy filled => ?_,
    fun kind named filled low member check => ?_⟩
  · obtain ⟨pri, member, ready⟩ := inv.served (status.symm.trans healthy) (empty.symm.trans filled)
    exact ⟨pri, member, grows pri member ready⟩
  · exact grows low member (inv.checked kind named (empty.symm.trans filled) low member check)

include setup

theorem front_end_interrupt_inv (irq : Irq) (registers : DeviceRegisters) (taken : takeInterrupt state.dsp irq registers = some next.dsp)
    (same : next.pc = state.pc) : FrontEndInv fe attached start.dsp next := by
  obtain ⟨driven, visited, last, effect⟩ := interrupt_effect state.dsp next.dsp irq registers taken
  have frame := interrupt_frame state.dsp next.dsp irq registers taken
  have ready : next.dsp.ready = visited.reverse.foldl setReadyTask state.dsp.ready := by rw [effect.same]
  have agree : GroupsAgree next.dsp.ready := by
    rw [ready]
    exact groups_agree_fold _ _ inv.agree
  have limit : psMaxTaskType < 64 := by decide
  have inTable : ∀ pri ∈ attached, pri < 64 := fun pri member => by
    have small := (setup.members pri member).inTable
    omega
  have bits : ∀ pri ∈ attached, isReady next.dsp.ready pri = true ↔ pri ∈ visited ∨ isReady state.dsp.ready pri = true := by
    intro pri member
    rw [ready, ready_fold _ _ pri (fun id found => ?_) (inTable pri member), List.mem_reverse]
    have small := effect.inTable id (List.mem_reverse.mp found)
    omega
  have grows : ∀ pri ∈ attached, isReady state.dsp.ready pri = true → isReady next.dsp.ready pri = true :=
    fun pri member set => (bits pri member).mpr (.inr set)
  by_cases here : irq = line
  · -- An interrupt of the front end's own line wakes all of its tasks.
    have woken : ∀ pri ∈ attached, isReady next.dsp.ready pri = true := fun pri member => by
      obtain ⟨arg, walked⟩ := setup.walked
      have visits := effect.walked
      rw [loop_frame_walk start.dsp state.dsp inv.frame, here, walked] at visits
      cases visits
      exact (bits pri member).mpr (.inl member)
    obtain ⟨first, member⟩ := List.exists_mem_of_ne_nil _ setup.nonempty
    exact ⟨loop_frame_trans _ _ _ inv.frame frame, agree, same ▸ inv.small, fun pri member _ => woken pri member,
      same ▸ inv.chosen, fun _ _ => ⟨first, member, woken first member⟩, fun _ _ _ low member _ => woken low member⟩
  · have apart := setup.alone irq visited last here
      ((loop_frame_walk start.dsp state.dsp inv.frame irq).symm.trans effect.walked)
    obtain ⟨status, empty⟩ := run_driver_front_end fe state.dsp driven registers last.handler effect.ran apart
    refine front_end_inv_grow fe attached start state next inv frame agree grows ?_ ?_ (same ▸ inv.small)
      (fun pri member busy => grows pri member (inv.busy pri member (same ▸ busy))) (same ▸ inv.chosen)
    · rw [← status, effect.same]
      cases fe <;> rfl
    · rw [← empty, effect.same]
      cases fe <;> rfl

-- A run of one of the front end's tasks may change the front end as it likes:
-- the task is still ready.
theorem front_end_hw_inv (pri : Nat) (pc after : HwPc) (dsp : Dsp) (place : state.pc = .hw pri pc)
    (change : HwChange state.dsp (state.dsp.tasks pri) pc dsp) : FrontEndInv fe attached start.dsp ⟨dsp, .hw pri after⟩ := by
  have frame := hw_loop_frame state.dsp dsp (hw_change_frame state.dsp dsp _ pc change)
  have tasks := loop_frame_tasks start.dsp state.dsp inv.frame
  have ready : dsp.ready = state.dsp.ready := by
    cases change <;> (rename_i same; subst same; rfl)
  have task : state.pc.task = some pri := by rw [place]; rfl
  have small : ∀ id, SchedPc.task (.hw pri after) = some id → id < 64 := fun id found => by
    cases found
    exact inv.small pri task
  have busy : ∀ id ∈ attached, SchedPc.task (.hw pri after) = some id → isReady dsp.ready id = true := fun id member found => by
    cases found
    rw [ready]
    exact inv.busy pri member task
  have chosen : ∀ id step, SchedPc.hw pri after = .hw id step → (start.dsp.tasks id).taskPro = some .hw := fun id step found => by
    cases found
    exact inv.chosen pri pc place
  have agree : GroupsAgree dsp.ready := ready ▸ inv.agree
  by_cases own : (state.dsp.tasks pri).fe.ops = some fe
  · have member : pri ∈ attached := setup.complete pri (inv.small pri task) (inv.chosen pri pc place) (by rw [← tasks, own])
    refine ⟨loop_frame_trans _ _ _ inv.frame frame, agree, small, busy, chosen,
      fun _ _ => ⟨pri, member, busy pri member rfl⟩, fun kind named filled low lowMember check => ?_⟩
    rw [ready]
    refine inv.checked kind named ?_ low lowMember check
    subst kind
    cases before : vipreIsEmpty state.dsp.vipre with
    | false => exact before
    | true => exact absurd (hw_change_empty state.dsp dsp _ pc change before) (by simpa [consumerEmpty] using filled)
  · obtain ⟨status, empty⟩ := hw_change_front_end fe state.dsp dsp _ pc change own
    exact front_end_inv_grow fe attached start state ⟨dsp, .hw pri after⟩ inv frame agree (fun _ _ set => ready ▸ set) status
      empty small busy chosen

theorem front_end_clear_inv (pri : Nat) (place : state.pc = .clear pri)
    (inTime : pri ∈ attached → Rechecked fe attached state.dsp ∨ consumerEmpty state.dsp fe = true ∨ feStatus state.dsp fe ≠ .ok ∨
      ∃ other ∈ attached, other ≠ pri ∧ isReady state.dsp.ready other = true) :
    FrontEndInv fe attached start.dsp ⟨clearTask state.dsp pri, .pick⟩ := by
  have frame : LoopFrame state.dsp (clearTask state.dsp pri) := rfl
  have tasks := loop_frame_tasks start.dsp state.dsp inv.frame
  have high := loop_frame_high start.dsp state.dsp inv.frame
  have task : state.pc.task = some pri := by rw [place]; rfl
  have small := inv.small pri task
  have status : feStatus (clearTask state.dsp pri) fe = feStatus state.dsp fe := by cases fe <;> rfl
  have empty : consumerEmpty (clearTask state.dsp pri) fe = consumerEmpty state.dsp fe := by cases fe <;> rfl
  have limit : psMaxTaskType < 64 := by decide
  have stays : ∀ other ∈ attached, other ≠ pri → isReady state.dsp.ready other = true →
      isReady (clearTask state.dsp pri).ready other = true := fun other member different set => by
    have otherSmall := (setup.members other member).inTable
    exact clear_keeps_ready state.dsp pri other small (by omega) different set
  -- The bit of a task that looks again goes only when there is nothing to see.
  have rechecked : fe = .vipre → 0 ≤ start.dsp.highPriTask → consumerEmpty state.dsp fe = false →
      ∀ low ∈ attached, (start.dsp.tasks low).emptyCheck = some .vipre → isReady (clearTask state.dsp pri).ready low = true := by
    intro kind named filled low member check
    have set := inv.checked kind named filled low member check
    by_cases same : low = pri
    · rw [same] at check member ⊢
      subst kind
      exact clear_keeps_checked state.dsp pri (by rw [tasks, check]) filled (by rw [high]; exact named) (inv.busy pri member task)
    · exact stays low member same set
  refine ⟨loop_frame_trans _ _ _ inv.frame frame, groups_agree_clear_task state.dsp pri inv.agree, ?_, ?_, ?_,
    fun healthy filled => ?_, fun kind named filled => ?_⟩
  · exact fun _ found => by cases found
  · exact fun _ _ found => by cases found
  · exact fun _ _ found => by cases found
  · have healthyBefore := status.symm.trans healthy
    have filledBefore := empty.symm.trans filled
    obtain ⟨woken, wokenMember, set⟩ := inv.served healthyBefore filledBefore
    by_cases same : woken = pri
    · rcases inTime (same ▸ wokenMember) with
        ⟨kind, named, low, member, check⟩ | drained | failed | ⟨other, member, different, ready⟩
      · exact ⟨low, member, rechecked kind (high ▸ named) filledBefore low member (by rw [← tasks, check])⟩
      · rw [drained] at filledBefore
        cases filledBefore
      · exact absurd healthyBefore failed
      · exact ⟨other, member, stays other member different ready⟩
    · exact ⟨woken, wokenMember, stays woken wokenMember same set⟩
  · exact rechecked kind named (empty.symm.trans filled)

theorem front_end_step_inv (event : LoopEvent) (inTime : ClearsInTime fe attached state event)
    (taken : loopStep state event = some next) : FrontEndInv fe attached start.dsp next := by
  have frame := loop_step_frame state next event taken
  cases event with
  | interrupt irq registers =>
      simp only [loopStep, Option.ite_none_right_eq_some, Option.map_eq_some_iff] at taken
      obtain ⟨-, dsp, interrupted, rfl⟩ := taken
      exact front_end_interrupt_inv fe line attached start setup state _ inv irq registers interrupted rfl
  | hostAck =>
      simp only [loopStep, Option.ite_none_left_eq_some] at taken
      obtain ⟨-, same⟩ := taken
      cases same
      exact front_end_inv_grow fe attached start state _ inv frame inv.agree (fun _ _ set => set) (by cases fe <;> rfl)
        (by cases fe <;> rfl) inv.small inv.busy inv.chosen
  | schedule scratch algo =>
      have moved (pc : SchedPc) (dsp : Dsp) (report : dsp = { state.dsp with cmd := dsp.cmd })
          (small : ∀ pri, pc.task = some pri → pri < 64)
          (busy : ∀ pri ∈ attached, pc.task = some pri → isReady state.dsp.ready pri = true)
          (chosen : ∀ pri step, pc = .hw pri step → (start.dsp.tasks pri).taskPro = some .hw) :
          FrontEndInv fe attached start.dsp ⟨dsp, pc⟩ := by
        rw [report]
        exact front_end_inv_grow fe attached start state _ inv rfl inv.agree (fun _ _ set => set) (by cases fe <;> rfl)
          (by cases fe <;> rfl) small busy chosen
      have picks (waiting : state.dsp.ready.grp ≠ 0) := get_ready_task_ready state.dsp.ready inv.agree waiting
      cases sched_outcome state next scratch algo taken with
      | stayed place same =>
          subst same
          exact inv
      | picked place waiting pro same =>
          subst same
          refine moved _ _ rfl (fun pri found => ?_) (fun pri _ found => ?_) fun pri step found => ?_
          · cases found
            exact (picks waiting).2
          · cases found
            exact (picks waiting).1
          · cases found
            rw [← loop_frame_tasks start.dsp state.dsp inv.frame, pro]
      | passed place waiting pro same =>
          subst same
          refine moved _ _ rfl (fun pri found => ?_) (fun pri _ found => ?_) fun pri step found => by cases found
          · cases found
            exact (picks waiting).2
          · cases found
            exact (picks waiting).1
      | ran pri pc after dsp place done same =>
          subst same
          exact front_end_hw_inv fe line attached start setup state inv pri pc after dsp place
            (hw_step_change scratch state.dsp dsp pc algo pri after done)
      | finished pri result place same =>
          subst same
          have task : state.pc.task = some pri := by rw [place]; rfl
          have ends : SchedPc.task (if result.withReport then .report pri else .clear pri) = some pri := by split <;> rfl
          refine moved _ _ rfl (fun id found => ?_) (fun id member found => ?_) fun id step found => ?_
          · exact inv.small id (task.trans (ends.symm.trans found))
          · exact inv.busy id member (task.trans (ends.symm.trans found))
          · split at found <;> cases found
      | left pri place same | sent pri place same =>
          subst same
          have task : state.pc.task = some pri := by rw [place]; rfl
          refine moved _ _ rfl (fun id found => ?_) (fun id member found => ?_) fun id step found => by cases found
          · exact inv.small id (task.trans found)
          · exact inv.busy id member (task.trans found)
      | cleared pri place same =>
          subst same
          exact front_end_clear_inv fe line attached start setup state inv pri place fun member => inTime pri member place

end Step

section Run

variable (fe : FeOps) (line : Irq) (attached : List Nat) (start finish : Sched) (events : List LoopEvent)
variable (setup : FrontEndSetup fe line attached start)

include setup

theorem front_end_start_inv : FrontEndInv fe attached start.dsp start := by
  have idle : start.pc.task = none := by rw [setup.picking]; rfl
  have nothing : ∀ pri, start.pc.task = some pri → False := fun pri found => by
    rw [idle] at found
    cases found
  refine ⟨rfl, setup.agree, fun pri found => (nothing pri found).elim, fun pri _ found => (nothing pri found).elim,
    fun pri pc found => ?_, fun _ filled => ?_, fun _ _ filled low member _ => setup.woken filled low member⟩
  · rw [setup.picking] at found
    cases found
  · obtain ⟨first, member⟩ := List.exists_mem_of_ne_nil _ setup.nonempty
    exact ⟨first, member, setup.woken filled first member⟩

theorem front_end_inv_served (state : Sched) (inv : FrontEndInv fe attached start.dsp state) : NoEntryStranded fe state := by
  intro _ healthy filled
  obtain ⟨pri, member, ready⟩ := inv.served healthy filled
  have same := loop_frame_tasks start.dsp state.dsp inv.frame
  obtain ⟨inTable, running, pro, ops⟩ := setup.members pri member
  refine ⟨pri, ⟨inTable, ?_, by rw [same, pro], by rw [same, ops]⟩, ready⟩
  rw [Running, same]
  exact running

-- With a task that looks again, no run strands an entry.
theorem rechecked_never_stranded (rechecked : Rechecked fe attached start.dsp)
    (ran : Runs.run loopStep start events = some finish) : NoEntryStranded fe finish := by
  refine front_end_inv_served fe line attached start setup finish
    (Runs.run_invariant loopStep (FrontEndInv fe attached start.dsp) (fun state event next inv taken => ?_)
      start finish events (front_end_start_inv fe line attached start setup) ran)
  have again : Rechecked fe attached state.dsp := by
    rw [Rechecked, loop_frame_tasks start.dsp state.dsp inv.frame, loop_frame_high start.dsp state.dsp inv.frame]
    exact rechecked
  refine front_end_step_inv fe line attached start setup state next inv event ?_ taken
  cases event with
  | schedule scratch algo => exact fun _ _ _ => .inl again
  | interrupt irq registers => trivial
  | hostAck => trivial

end Run

-- FE_CONFIG makes a VIPRE task look again when a task of the VIPRE with a higher
-- priority is in the scheduler's list.
theorem higher_prio_found (dsp : Dsp) (pri other place : Nat) (listed : dsp.taskHandler place = some other)
    (counted : place < dsp.taskNum) (higher : other < pri) (kind : (dsp.tasks other).fe.type = (dsp.tasks pri).fe.type) :
    0 ≤ dspSearchHigherPrioTask dsp pri := by
  rw [dspSearchHigherPrioTask]
  split
  · exact Int.natCast_nonneg _
  · rename_i missing
    have none := List.findSome?_eq_none_iff.mp missing place (List.mem_range.mpr counted)
    rw [listed, Option.bind_some, if_pos ⟨Nat.ne_of_lt higher, kind, higher⟩] at none
    cases none

theorem vipre_config_rechecks (dsp next : Dsp) (id pri other place : Nat) (config : VipreConfigPar)
    (found : dspSearchTaskById dsp id = some pri) (listed : dsp.taskHandler place = some other) (counted : place < dsp.taskNum)
    (higher : other < pri) (kind : (dsp.tasks other).fe.type = .vipre)
    (done : dspTaskFeConfig dsp id (.vipre config) = some (next, .status .ok)) :
    0 ≤ next.highPriTask ∧ (next.tasks pri).emptyCheck = some .vipre := by
  simp only [dspTaskFeConfig, found, psVipreConfigMessageHandler, Option.bind_eq_bind] at done
  obtain ⟨⟨middle, accepted⟩, configured, finish⟩ := Option.bind_eq_some_iff.mp done
  obtain ⟨⟨handler, ok⟩, -, settled⟩ := Option.bind_eq_some_iff.mp configured
  cases ok with
  | false =>
      cases settled
      cases finish
  | true =>
      cases settled
      cases finish
      have named := higher_prio_found (bindIrq (modifyTask (registerDriver { dsp with vipre := handler } .vipre .vipre) pri fun task =>
        { task with fe := ⟨.vipre, config.id.toNat, some .vipre⟩ }) pri .vipre) pri other place listed counted higher
        (by simp [bindIrq, modifyTask, registerDriver, Function.update_of_ne (Nat.ne_of_lt higher), kind])
      refine ⟨named, ?_⟩
      rw [updateTaskStatus, modify_task_same]
      simp only [chooseEmptyCheck, modify_task_same]
      exact if_pos named

def ispTaskRunning : Sched :=
  ⟨(Runs.run statusStep (initDsp reportCmd anyReport) (ispConfiguration ++ [.taskStart 2])).get (by decide), .pick⟩

theorem isp_task_setup : FrontEndSetup .isp .isp0 [0] ispTaskRunning := by
  refine ⟨rfl, groups_agree_set _ _ groups_agree_zero, by decide, ⟨-1, by decide⟩, by decide, ?_, by decide,
    fun kind => (by cases kind), ?_⟩
  · intro pri member
    cases List.mem_singleton.mp member
    exact ⟨by decide, by decide, by decide, by decide⟩
  · intro irq visited last other walked
    have stops : (interruptWalk ispTaskRunning.dsp irq).all (fun found => found.2.handler != .isp) = true := by
      cases irq with
      | isp0 => exact absurd rfl other
      | unused | isp1 | vipre | postIsp | xrp => decide
    rw [walked] at stops
    simpa [FeOps.driver] using stops

def wholeRun : List LoopEvent := List.replicate 12 (.schedule zeroScratch (.done []))

end CsiDsp
