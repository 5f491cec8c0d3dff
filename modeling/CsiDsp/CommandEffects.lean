import CsiDsp.CoveredLoop

set_option autoImplicit false

namespace CsiDsp

open Chain

-- What the commands that neither bind, start nor stop a task do to its entry.
inductive Reworked : DspTask → DspTask → Prop where
  | same (task : DspTask) : Reworked task task
  | be (task : DspTask) (be : DspBeHandler) : Reworked task { task with be := be }
  | algo (task : DspTask) (algo : DspAlgoHandler) : Reworked task { task with algo := algo }
  | report (task : DspTask) (report : DspTaskReport) : Reworked task { task with report := report }
  | update (task : DspTask) : Reworked task { task with status := updatedStatus task }
  | trans (task middle after : DspTask) (first : Reworked task middle) (second : Reworked middle after) : Reworked task after

structure Reworks (pri : Nat) (dsp next : Dsp) : Prop where
  others : ∀ other, other ≠ pri → next.tasks other = dsp.tasks other
  entry : Reworked (dsp.tasks pri) (next.tasks pri)
  lines : ∀ irq, (next.vectors irq = dsp.vectors irq ∧ next.enabled irq = dsp.enabled irq) ∨
    (next.vectors irq).handler ≠ .trigger ∧ (next.vectors irq).handler ≠ .null
  ready : next.ready = dsp.ready
  named : next.highPriTask = dsp.highPriTask

-- The task that FE_CONFIG looks for is in the scheduler's list, with the VIPRE as its front end.
def NamesVipre (dsp : Dsp) (pri : Nat) (high : Int) : Prop :=
  high = -1 ∨ ∃ other id : Nat, high = other ∧ dsp.taskHandler id = some other ∧ other ≠ pri ∧ (dsp.tasks other).fe.type = .vipre

theorem higher_prio_named (dsp : Dsp) (pri : Nat) (own : (dsp.tasks pri).fe.type = .vipre) :
    NamesVipre dsp pri (dspSearchHigherPrioTask dsp pri) := by
  rw [dspSearchHigherPrioTask]
  split
  · rename_i other found
    obtain ⟨place, -, named⟩ := List.exists_of_findSome?_eq_some found
    obtain ⟨entry, listed, chosen⟩ := Option.bind_eq_some_iff.mp named
    split at chosen
    · rename_i holds
      cases chosen
      exact .inr ⟨other, place, rfl, listed, holds.1, holds.2.1.trans own⟩
    · cases chosen
  · exact .inl rfl

section Reworks

variable (pri : Nat) (dsp middle next : Dsp)

theorem reworks_same (tasks : next.tasks = dsp.tasks) (vectors : next.vectors = dsp.vectors) (enabled : next.enabled = dsp.enabled)
    (ready : next.ready = dsp.ready) (named : next.highPriTask = dsp.highPriTask) : Reworks pri dsp next := by
  refine ⟨fun _ _ => by rw [tasks], ?_, fun _ => .inl ⟨by rw [vectors], by rw [enabled]⟩, ready, named⟩
  rw [tasks]
  exact .same _

theorem reworks_trans (first : Reworks pri dsp middle) (second : Reworks pri middle next) : Reworks pri dsp next := by
  refine ⟨fun other different => (second.others other different).trans (first.others other different),
    .trans _ _ _ first.entry second.entry, fun irq => ?_, second.ready.trans first.ready, second.named.trans first.named⟩
  rcases second.lines irq with same | plain
  · rcases first.lines irq with before | plain
    · exact .inl ⟨same.1.trans before.1, same.2.trans before.2⟩
    · exact .inr (same.1 ▸ plain)
  · exact .inr plain

theorem reworks_modify (change : DspTask → DspTask) (entry : Reworked (dsp.tasks pri) (change (dsp.tasks pri))) :
    Reworks pri dsp (modifyTask dsp pri change) := by
  refine ⟨fun other different => modify_task_other dsp pri other change different, ?_, fun _ => .inl ⟨rfl, rfl⟩, rfl, rfl⟩
  rw [modify_task_same]
  exact entry

theorem reworks_update : Reworks pri dsp (updateTaskStatus dsp pri) := reworks_modify pri dsp _ (.update _)

theorem reworks_driver (irq : Irq) (driver : Handler) (other : driver ≠ .trigger) (present : driver ≠ .null) :
    Reworks pri dsp (registerDriver dsp irq driver) := by
  refine ⟨fun _ _ => rfl, .same _, fun line => ?_, rfl, rfl⟩
  by_cases here : line = irq
  · subst here
    simp [registerDriver, other, present]
  · exact .inl ⟨Function.update_of_ne here _ _, Function.update_of_ne here _ _⟩

theorem reworks_algo (work : AlgoEnd pri dsp next) : Reworks pri dsp next := by
  have changed (last : Dsp) (before : AlgoWork pri dsp last) : Reworks pri dsp last := by
    obtain ⟨algo, heap, rfl⟩ := before
    exact reworks_trans pri dsp _ _ (reworks_modify pri dsp (fun task => { task with algo := algo }) (.algo _ _))
      (reworks_same pri _ _ rfl rfl rfl rfl rfl)
  rcases work with work | ⟨last, work, rfl⟩
  · exact changed next work
  · exact reworks_trans pri dsp last _ (changed last work) (reworks_update pri last)

variable (id : Nat) (reply : Reply) (found : dspSearchTaskById dsp id = some pri)

include found

theorem reworks_be (message : BeConfig) (done : dspTaskBeConfig dsp id message = some (next, reply)) : Reworks pri dsp next := by
  have placed (last : Dsp) (before : Reworks pri dsp last) (be : DspTask → DspBeHandler) :
      Reworks pri dsp (updateTaskStatus (modifyTask last pri fun task => { task with be := be task }) pri) :=
    reworks_trans pri dsp last _ before
      (reworks_trans pri last _ _ (reworks_modify pri last _ (.be _ _)) (reworks_update pri _))
  cases be_configured dsp id pri found next reply message done with
  | refused same =>
      rw [same]
      exact reworks_same pri dsp dsp rfl rfl rfl rfl rfl
  | rejected handler same =>
      rw [same]
      exact reworks_same pri dsp _ rfl rfl rfl rfl rfl
  | host config bufs place heap asked block free given same =>
      rw [same]
      exact placed { dsp with heap := heap, swBe := Function.update dsp.swBe _ _ } (reworks_same pri dsp _ rfl rfl rfl rfl rfl) _
  | postIsp config handler asked same =>
      rw [same]
      exact placed _ (reworks_trans pri dsp { dsp with postIsp := handler } _ (reworks_same pri dsp _ rfl rfl rfl rfl rfl)
        (reworks_driver pri _ .postIsp .postIsp (by decide) (by decide))) _

theorem reworks_report (flag : ReportFlag) (size : Nat) : Reworks pri dsp (psRegisterReportToTask dsp id flag size).1 := by
  have registered (report : DspTask → DspTaskReport) :
      Reworks pri dsp (modifyTask dsp pri fun task => { task with report := report task }) := reworks_modify pri dsp _ (.report _ _)
  have unchanged := reworks_same pri dsp dsp rfl rfl rfl rfl rfl
  rcases report_configured dsp id pri found flag size with same | ⟨report, same⟩
  · rw [same]
    exact unchanged
  · rw [same]
    exact registered report

theorem reworks_assgin (config : SwBeConfigPar) (done : dspBackendAssginBufHandler dsp id config = some (next, reply)) :
    Reworks pri dsp next := by
  simp only [dspBackendAssginBufHandler, found, Option.ite_none_left_eq_some] at done
  obtain ⟨_, -, same⟩ := Option.bind_eq_some_iff.mp done.2
  cases same
  exact reworks_same pri dsp _ rfl rfl rfl rfl rfl

theorem fe_names (message : FeConfig) (done : dspTaskFeConfig dsp id message = some (next, reply)) :
    next.highPriTask = dsp.highPriTask ∨ NamesVipre dsp pri next.highPriTask := by
  simp only [dspTaskFeConfig, found] at done
  cases message with
  | cpu | illegal =>
      cases done
      exact .inl rfl
  | isp config =>
      obtain ⟨⟨last, accepted⟩, configured, settled⟩ := Option.bind_eq_some_iff.mp done
      have kept : last.highPriTask = dsp.highPriTask := by
        simp only [psIspConfigMessageHandler] at configured
        split at configured
        · cases configured
          rfl
        · obtain ⟨⟨handler, ret⟩, -, configured⟩ := Option.bind_eq_some_iff.mp configured
          split at configured <;> (cases configured; rfl)
      split at settled <;> (cases settled; exact .inl kept)
  | vipre config =>
      obtain ⟨⟨last, accepted⟩, configured, settled⟩ := Option.bind_eq_some_iff.mp done
      obtain ⟨⟨handler, ok⟩, -, configured⟩ := Option.bind_eq_some_iff.mp configured
      cases ok with
      | false =>
          cases configured
          cases settled
          exact .inl rfl
      | true =>
          cases configured
          cases settled
          let bound := bindIrq (modifyTask (registerDriver { dsp with vipre := handler } .vipre .vipre) pri fun task =>
            { task with fe := ⟨.vipre, config.id.toNat, some .vipre⟩ }) pri .vipre
          refine .inr ((higher_prio_named bound pri (by simp [bound, bindIrq])).imp_right fun named => ?_)
          obtain ⟨other, place, same, listed, different, front⟩ := named
          refine ⟨other, place, same, listed, different, ?_⟩
          rw [← front]
          simp [bound, bindIrq, modifyTask, different, registerDriver]

end Reworks

structure FreedOutcome (dsp : Dsp) (id pri : Nat) (next : Dsp) : Prop where
  outcome : DestroyOutcome dsp id pri next
  vectors : next.vectors = dsp.vectors
  enabled : next.enabled = dsp.enabled
  ready : next.ready = dsp.ready
  named : next.highPriTask = dsp.highPriTask

-- What a command that is answered does, in a state where no vector is NULL.
inductive CommandEffect (dsp : Dsp) (command : Command) (reply : Reply) (next : Dsp) : Prop where
  | nothing (same : next = dsp)
  | reworked (pri : Nat) (target : command.target dsp = some pri) (work : Reworks pri dsp next)
  | bound (pri : Nat) (target : command.target dsp = some pri) (id : Nat) (message : FeConfig) (asked : command = .feConfig id message)
      (isp : SispHandler) (vipre : SvipreHandler) (high : Int) (line : Irq) (fe : DspFeHandler) (check : Option TaskCheck)
      (named : high = dsp.highPriTask ∨ NamesVipre dsp pri high)
      (same : next = updateTaskStatus (modifyTask (registerDriver { dsp with isp := isp, vipre := vipre, highPriTask := high }
        line (driverHandler line)) pri fun task => boundTask task fe check line) pri)
  | started (pri : Nat) (target : command.target dsp = some pri) (id : Nat) (asked : command = .taskStart id)
      (isReady : (dsp.tasks pri).status = .ready) (present : (dsp.vectors (dsp.tasks pri).irqNum).handler ≠ .null)
      (same : next = startedTask dsp pri)
  | stopped (pri : Nat) (target : command.target dsp = some pri) (running : Running dsp pri) (same : next = stoppedTask dsp pri)
  | created (mode : Option TaskMode) (registered : Bool) (asked : command = .taskAlloc mode registered) (kind : TaskMode)
      (pri place count : Nat) (inTable : pri < psMaxTaskType) (free : (dsp.tasks pri).status = .free)
      (sameClass : kind.sameClass (dsp.tasks pri)) (same : next = placeTask dsp pri (allocatedTask kind (dsp.tasks pri)) place count)
  | freed (id pri : Nat) (target : command.target dsp = some pri) (work : FreedOutcome dsp id pri next)

section Effect

variable (dsp next : Dsp) (command : Command) (reply : Reply) (names : NamesFaithful dsp)
    (present : ∀ irq, (dsp.vectors irq).handler ≠ .null)

theorem freed_outcome (id pri : Nat) (found : dspSearchTaskById dsp id = some pri) (done : (next, reply) = psDestroyTask dsp id) :
    FreedOutcome dsp id pri next := by
  have outcome := destroy_outcome dsp next pri id found reply done
  simp only [psDestroyTask, found] at done
  cases done
  obtain ⟨blocks, freed, -⟩ := free_algo_param_blocks pri (dspRemoveTaskFromScheduler dsp id)
  obtain ⟨same, -⟩ := free_in_same (dspRemoveTaskFromScheduler dsp id) blocks
  rw [← freed] at same
  exact ⟨outcome, by rw [same]; rfl, by rw [same]; rfl, by rw [same]; rfl, by rw [same]; rfl⟩

include names present

theorem command_effect (done : psCommonCommand dsp command = some (next, reply)) : CommandEffect dsp command reply next := by
  have unknown (id : Nat) (asked : command.id = some id) (missing : dspSearchTaskById dsp id = none) :
    CommandEffect dsp command reply next :=
    .nothing (unknown_task dsp next command id reply asked missing done)
  cases command with
  | taskAlloc mode registered =>
      cases create_outcome dsp next names mode registered reply (Option.some.inj done).symm with
      | refused failed same => exact .nothing same
      | created kind pri place count wanted inTable free sameClass known empty below grown bounded answered same =>
          exact .created mode registered rfl kind pri place count inTable free sameClass same
  | taskFree id =>
      cases found : dspSearchTaskById dsp id with
      | none => exact unknown id rfl found
      | some pri => exact .freed id pri found (freed_outcome dsp next reply id pri found (Option.some.inj done).symm)
  | taskStart id =>
      cases found : dspSearchTaskById dsp id with
      | none => exact unknown id rfl found
      | some pri =>
          cases start_outcome dsp id pri found _ _ (Option.some.inj done) with
          | refused same => exact .nothing same
          | noHandler isReady null same => exact absurd null (present _)
          | started isReady present same => exact .started pri found id rfl isReady present same
  | taskStop id =>
      cases found : dspSearchTaskById dsp id with
      | none => exact unknown id rfl found
      | some pri =>
          cases stop_outcome dsp id pri found _ _ (Option.some.inj done) with
          | refused same => exact .nothing same
          | stopped running same => exact .stopped pri found running same
  | feConfig id message =>
      cases found : dspSearchTaskById dsp id with
      | none => exact unknown id rfl found
      | some pri =>
          cases fe_outcome dsp id pri found _ reply message done with
          | refused isp vipre same =>
              subst same
              exact .reworked pri found (reworks_same pri dsp _ rfl rfl rfl rfl rfl)
          | cpu same => exact .reworked pri found (same ▸ reworks_update pri dsp)
          | bound isp vipre high line fe check asked valid named known same =>
              have searched := fe_names pri dsp next id reply found message done
              subst same
              exact .bound pri found id message rfl isp vipre high line fe check searched rfl
  | beConfig id message =>
      cases found : dspSearchTaskById dsp id with
      | none => exact unknown id rfl found
      | some pri => exact .reworked pri found (reworks_be pri dsp next id reply found message done)
  | algoConfig id message env =>
      cases found : dspSearchTaskById dsp id with
      | none => exact unknown id rfl found
      | some pri => exact .reworked pri found (reworks_algo pri dsp next (config_work dsp next id pri reply message env found done).1)
  | algoLoad id algoId env =>
      cases found : dspSearchTaskById dsp id with
      | none => exact unknown id rfl found
      | some pri => exact .reworked pri found (reworks_algo pri dsp next (.inl (load_work dsp next id pri reply algoId env found done).1))
  | reportConfig id flag size =>
      cases found : dspSearchTaskById dsp id with
      | none => exact unknown id rfl found
      | some pri =>
          have work := reworks_report pri dsp id found flag size
          rw [Option.some.inj done] at work
          exact .reworked pri found work
  | beAssginBuf id config =>
      cases found : dspSearchTaskById dsp id with
      | none => exact unknown id rfl found
      | some pri => exact .reworked pri found (reworks_assgin pri dsp next id reply found config done)

end Effect

-- No interrupt calls through a NULL pointer.
structure ChainsPresent (dsp : Dsp) : Prop where
  vectors : ∀ irq, (dsp.vectors irq).handler ≠ .null
  links : ∀ pri, Running dsp pri → (dsp.tasks pri).intrHandler ≠ .null

-- A front end that TASK_ALLOC took away has not been configured again.
structure Unbound (task : DspTask) : Prop where
  hardware : task.type.isHw = true
  front : task.fe.type = .invalid
  idle : task.status = .free ∨ task.status = .idel

theorem reworked_link (task after : DspTask) (work : Reworked task after) :
    taskVector after = taskVector task ∧ (after.status = .runing ↔ task.status = .runing) := by
  induction work with
  | same | be | algo | report => exact ⟨rfl, .rfl⟩
  | update task => exact ⟨rfl, updated_status_runing task⟩
  | trans task middle after first second one two => exact ⟨two.1.trans one.1, two.2.trans one.2⟩

theorem unbound_update (task : DspTask) (unbound : Unbound task) : updatedStatus task = task.status := by
  obtain ⟨hardware, front, -⟩ := unbound
  rw [updatedStatus]
  cases kind : task.type with
  | swToSw | sw | hw => rfl
  | swToHw =>
      rw [kind] at hardware
      exact absurd hardware (by decide)
  | hwToSw | hwToHw => exact if_neg fun holds => holds.2.1 front

theorem reworked_unbound (task after : DspTask) (work : Reworked task after) (unbound : Unbound task) : Unbound after := by
  induction work with
  | same => exact unbound
  | be | algo | report => exact ⟨unbound.hardware, unbound.front, unbound.idle⟩
  | update task => exact ⟨unbound.hardware, unbound.front, (unbound_update task unbound).symm ▸ unbound.idle⟩
  | trans task middle after first second one two => exact two (one unbound)

theorem allocated_unbound (kind : TaskMode) (task : DspTask) (hardware : kind.isHw = true) : Unbound (allocatedTask kind task) := by
  have idle : kind ≠ .swToSw := by
    intro same
    rw [same] at hardware
    exact absurd hardware (by decide)
  rw [allocatedTask, enteredTask, if_neg idle]
  exact ⟨hardware, rfl, .inr rfl⟩

theorem allocated_link (kind : TaskMode) (task : DspTask) : taskVector (allocatedTask kind task) = taskVector task := by
  rw [allocatedTask]
  split <;> rfl

inductive VectorEffect (dsp next : Dsp) (command : Command) (irq : Irq) : Prop where
  | kept (same : next.vectors irq = dsp.vectors irq) (line : next.enabled irq = dsp.enabled irq)
  | driver (plain : (next.vectors irq).handler ≠ .trigger) (present : (next.vectors irq).handler ≠ .null)
  | trigger (pri id : Nat) (target : command.target dsp = some pri) (asked : command = .taskStart id)
      (isReady : (dsp.tasks pri).status = .ready)
      (runs : Running next pri) (same : next.vectors irq = ⟨.trigger, pri⟩)
  | restored (pri : Nat) (running : Running dsp pri) (off : next.enabled irq = false)
      (same : next.vectors irq = ⟨(dsp.tasks pri).intrHandler, pri⟩)

inductive LinkEffect (dsp : Dsp) (command : Command) (pri : Nat) (after : DspTask) : Prop where
  | kept (link : taskVector after = taskVector (dsp.tasks pri)) (running : after.status = .runing → Running dsp pri)
  | started (id : Nat) (target : command.target dsp = some pri) (asked : command = .taskStart id)
      (isReady : (dsp.tasks pri).status = .ready)
      (irq : Irq) (present : (dsp.vectors irq).handler ≠ .null) (link : taskVector after = ⟨(dsp.vectors irq).handler,
      if (dsp.vectors irq).handler = .trigger then dspGetLatestHwTask dsp pri irq else -1⟩)

section Kept

variable (dsp next : Dsp) (command : Command) (reply : Reply) (slot : Nat) (effect : CommandEffect dsp command reply next)

include effect

theorem effect_vector (irq : Irq) : VectorEffect dsp next command irq := by
  cases effect with
  | nothing same => exact .kept (by rw [same]) (by rw [same])
  | reworked pri target work => exact (work.lines irq).elim (fun same => .kept same.1 same.2) fun plain => .driver plain.1 plain.2
  | bound pri target id message asked isp vipre high line fe check named same =>
      by_cases here : irq = line
      · subst here
        have installed : next.vectors irq = ⟨driverHandler irq, 0⟩ := same ▸ Function.update_self _ _ _
        refine .driver ?_ ?_
        · rw [installed]
          exact driver_not_trigger irq
        · rw [installed]
          cases irq <;> exact Handler.noConfusion
      · exact .kept (same ▸ Function.update_of_ne here _ _) (same ▸ Function.update_of_ne here _ _)
  | started pri target id asked isReady present same =>
      by_cases here : irq = (dsp.tasks pri).irqNum
      · have runs : Running (startedTask dsp pri) pri := by rw [Running, started_task_same]
        exact .trigger pri id target asked isReady (same ▸ runs) (same ▸ here ▸ Function.update_self _ _ _)
      · exact .kept (same ▸ Function.update_of_ne here _ _) (same ▸ Function.update_of_ne here _ _)
  | stopped pri target running same =>
      by_cases here : irq = (dsp.tasks pri).irqNum
      · exact .restored pri running (same ▸ here ▸ Function.update_self _ _ _) (same ▸ here ▸ Function.update_self _ _ _)
      · exact .kept (same ▸ Function.update_of_ne here _ _) (same ▸ Function.update_of_ne here _ _)
  | created mode registered asked kind pri place count inTable free sameClass same => exact .kept (same ▸ rfl) (same ▸ rfl)
  | freed id pri target work => exact .kept (congrFun work.vectors irq) (congrFun work.enabled irq)

theorem effect_link (other : Nat) : LinkEffect dsp command other (next.tasks other) := by
  have untouched (same : next.tasks other = dsp.tasks other) : LinkEffect dsp command other (next.tasks other) :=
    .kept (by rw [same]) fun running => (congrArg DspTask.status same).symm.trans running
  cases effect with
  | nothing same => exact untouched (by rw [same])
  | reworked pri target work =>
      by_cases here : other = pri
      · subst here
        obtain ⟨link, runs⟩ := reworked_link _ _ work.entry
        exact .kept link runs.mp
      · exact untouched (work.others other here)
  | bound pri target id message asked isp vipre high line fe check named same =>
      subst same
      by_cases here : other = pri
      · subst here
        rw [updateTaskStatus, modify_task_same, modify_task_same]
        exact .kept rfl (updated_status_runing _).mp
      · exact untouched (by rw [updateTaskStatus, modify_task_other _ _ _ _ here, modify_task_other _ _ _ _ here]; rfl)
  | started pri target id asked isReady present same =>
      subst same
      by_cases here : other = pri
      · subst here
        rw [started_task_same]
        exact .started id target asked isReady _ present rfl
      · exact untouched (started_task_other dsp pri other here)
  | stopped pri target running same =>
      subst same
      by_cases here : other = pri
      · subst here
        rw [stoppedTask, modify_task_same]
        exact .kept rfl fun ready => TaskStatus.noConfusion ready
      · exact untouched (by rw [stoppedTask, modify_task_other _ _ _ _ here]; rfl)
  | created mode registered asked kind pri place count inTable free sameClass same =>
      subst same
      by_cases here : other = pri
      · subst here
        rw [show (placeTask dsp other (allocatedTask kind (dsp.tasks other)) place count).tasks other =
          allocatedTask kind (dsp.tasks other) from Function.update_self _ _ _]
        refine .kept (allocated_link kind _) fun running => ?_
        rw [allocatedTask, enteredTask] at running
        dsimp only at running
        split at running <;> cases running
      · exact untouched (Function.update_of_ne here _ _)
  | freed id pri target work =>
      by_cases here : other = pri
      · subst here
        rw [work.outcome.entry]
        exact .kept rfl fun free => TaskStatus.noConfusion free
      · exact untouched (work.outcome.others other here)

theorem effect_present (chains : ChainsPresent dsp) : ChainsPresent next := by
  refine ⟨fun irq => ?_, fun other running => ?_⟩
  · cases effect_vector dsp next command reply effect irq with
    | kept same line =>
        rw [same]
        exact chains.vectors irq
    | driver plain present => exact present
    | trigger pri id target asked isReady started same =>
        rw [same]
        exact Handler.noConfusion
    | restored pri runs off same =>
        rw [same]
        exact chains.links pri runs
  · cases effect_link dsp next command reply effect other with
    | kept link runs =>
        rw [show (next.tasks other).intrHandler = (dsp.tasks other).intrHandler from congrArg Vector.handler link]
        exact chains.links other (runs running)
    | started id target asked isReady irq present link =>
        rw [show (next.tasks other).intrHandler = (dsp.vectors irq).handler from congrArg Vector.handler link]
        exact present

-- Only TASK_START leads an interrupt to an entry, and to a running one.
theorem effect_leads (name : Nat) (leads : Leads next name) : Leads dsp name ∨ Running dsp name ∨ Running next name := by
  have carried (other : Nat) (runs : Running dsp other) (follow : Nat) (link : taskLink dsp other = .node follow) :
      Leads dsp follow ∨ Running dsp follow ∨ Running next follow := .inl (.running other follow runs link)
  have latest (other : Nat) (irq : Irq) (same : taskVector (next.tasks other) = ⟨(dsp.vectors irq).handler,
      if (dsp.vectors irq).handler = .trigger then dspGetLatestHwTask dsp other irq else -1⟩) (follow : Nat)
      (link : taskLink next other = .node follow) : Running dsp follow := by
    rw [taskLink, same] at link
    by_cases triggered : (dsp.vectors irq).handler = .trigger
    · rw [if_pos triggered, triggered] at link
      rcases latest_cases dsp other irq with missing | ⟨owner, latest, inTable, -, runs, -⟩
      · rw [missing, vectorLink, if_neg (by decide)] at link
        cases link
      · rw [latest, vector_link_trigger owner inTable] at link
        cases link
        exact runs
    · rw [if_neg triggered, vector_link_last ⟨(dsp.vectors irq).handler, -1⟩ triggered] at link
      cases link
  induction leads with
  | vector irq name enabled link =>
      cases effect_vector dsp next command reply effect irq with
      | kept same line => exact .inl (.vector irq name (line ▸ enabled) (same ▸ link))
      | driver plain present =>
          rw [vector_link_last _ plain] at link
          cases link
      | trigger pri id target asked isReady started same =>
          rw [same, vectorLink] at link
          split at link
          · cases link
            exact .inr (.inr started)
          · cases link
      | restored pri runs off same =>
          rw [off] at enabled
          cases enabled
  | running other name runs link =>
      cases effect_link dsp next command reply effect other with
      | kept same before =>
          rw [taskLink, same] at link
          exact carried other (before runs) name link
      | started id target asked isReady irq present same => exact .inr (.inl (latest other irq same name link))
  | linked other name before link ih =>
      cases effect_link dsp next command reply effect other with
      | kept same runs =>
          rw [taskLink, same] at link
          rcases ih with led | running | running
          · exact .inl (.linked other name led link)
          · exact carried other running name link
          · exact carried other (runs running) name link
      | started id target asked isReady irq present same => exact .inr (.inl (latest other irq same name link))

theorem effect_unlinked (unlinked : Unlinked dsp slot) (idle : ∀ id, command = .taskStart id → command.target dsp = some slot →
    (dsp.tasks slot).status ≠ .ready) : Unlinked next slot := by
  have stopped : ¬ Running next slot := by
    intro running
    cases effect_link dsp next command reply effect slot with
    | kept link runs => exact unlinked.stopped (runs running)
    | started id target asked isReady irq present link => exact idle id asked target isReady
  refine ⟨fun leads => ?_, stopped⟩
  rcases effect_leads dsp next command reply effect slot leads with led | running | running
  · exact unlinked.apart led
  · exact unlinked.stopped running
  · exact stopped running

theorem effect_ready : next.ready = dsp.ready := by
  cases effect with
  | nothing same | bound _ _ _ _ _ _ _ _ _ _ _ _ same | started _ _ _ _ _ _ same | stopped _ _ _ same | created _ _ _ _ _ _ _ _ _ _ same =>
      subst same
      rfl
  | reworked pri target work => exact work.ready
  | freed id pri target work => exact work.ready

theorem effect_named : next.highPriTask = dsp.highPriTask ∨ ∃ pri, NamesVipre dsp pri next.highPriTask := by
  cases effect with
  | nothing same | started _ _ _ _ _ _ same | stopped _ _ _ same | created _ _ _ _ _ _ _ _ _ _ same =>
      subst same
      exact .inl rfl
  | reworked pri target work => exact .inl work.named
  | freed id pri target work => exact .inl work.named
  | bound pri target id message asked isp vipre high line fe check named same =>
      subst same
      exact named.imp (fun kept => kept) fun found => ⟨pri, found⟩

-- A command for another task leaves the entry as it is, unless TASK_ALLOC takes it.
theorem effect_other (different : command.target dsp ≠ some slot) : next.tasks slot = dsp.tasks slot ∨
    ∃ mode registered kind place count, command = .taskAlloc mode registered ∧ (dsp.tasks slot).status = .free ∧
      kind.sameClass (dsp.tasks slot) ∧
      next = placeTask dsp slot (allocatedTask kind (dsp.tasks slot)) place count := by
  have apart (pri : Nat) (target : command.target dsp = some pri) : slot ≠ pri := fun same => different (same ▸ target)
  cases effect with
  | nothing same => exact .inl (by rw [same])
  | reworked pri target work => exact .inl (work.others slot (apart pri target))
  | freed id pri target work => exact .inl (work.outcome.others slot (apart pri target))
  | bound pri target id message asked isp vipre high line fe check named same =>
      subst same
      refine .inl ?_
      rw [updateTaskStatus, modify_task_other _ _ _ _ (apart pri target), modify_task_other _ _ _ _ (apart pri target)]
      rfl
  | started pri target id asked isReady present same =>
      subst same
      exact .inl (started_task_other dsp pri slot (apart pri target))
  | stopped pri target running same =>
      subst same
      refine .inl ?_
      rw [stoppedTask, modify_task_other _ _ _ _ (apart pri target)]
      rfl
  | created mode registered asked kind pri place count inTable free sameClass same =>
      subst same
      by_cases here : slot = pri
      · subst here
        exact .inr ⟨mode, registered, kind, place, count, asked, free, sameClass, rfl⟩
      · exact .inl (Function.update_of_ne here _ _)

-- Any command other than FE_CONFIG for the entry leaves it without a front end.
theorem effect_unbound (unbound : Unbound (dsp.tasks slot)) (other : ∀ id message, command = .feConfig id message →
    command.target dsp ≠ some slot) : Unbound (next.tasks slot) := by
  by_cases own : command.target dsp = some slot
  · cases effect with
    | nothing same => exact same ▸ unbound
    | reworked pri target work =>
        cases own.symm.trans target
        exact reworked_unbound _ _ work.entry unbound
    | freed id pri target work =>
        cases own.symm.trans target
        rw [work.outcome.entry]
        exact ⟨unbound.hardware, unbound.front, .inl rfl⟩
    | bound pri target id message asked isp vipre high line fe check named same => exact absurd own (other id message asked)
    | started pri target id asked isReady present same =>
        cases own.symm.trans target
        rcases unbound.idle with idle | idle
        · rw [idle] at isReady
          cases isReady
        · rw [idle] at isReady
          cases isReady
    | stopped pri target running same =>
        cases own.symm.trans target
        rw [Running] at running
        rcases unbound.idle with idle | idle
        · rw [idle] at running
          cases running
        · rw [idle] at running
          cases running
    | created mode registered asked kind pri place count inTable free sameClass same =>
        subst asked
        cases own
  · rcases effect_other dsp next command reply slot effect own with kept | ⟨-, -, kind, place, count, -, -, sameClass, same⟩
    · exact kept ▸ unbound
    · subst same
      rw [show (placeTask dsp slot (allocatedTask kind (dsp.tasks slot)) place count).tasks slot =
        allocatedTask kind (dsp.tasks slot) from
        Function.update_self _ _ _]
      exact allocated_unbound kind _ (sameClass.trans unbound.hardware)

end Kept

-- FE_CONFIG that does not bind the entry leaves it without a front end.
theorem fe_unbound (dsp next : Dsp) (id slot : Nat) (message : FeConfig) (reply : Reply) (found : dspSearchTaskById dsp id = some slot)
    (done : dspTaskFeConfig dsp id message = some (next, reply)) (unbound : Unbound (dsp.tasks slot))
    (refused : ¬ (reply = .status .ok ∧ message.line ≠ none)) : Unbound (next.tasks slot) := by
  have accepts (same : reply = .status .ok) (line : Irq) (named : message.line = some line) : False :=
    refused ⟨same, by rw [named]; exact Option.some_ne_none line⟩
  simp only [dspTaskFeConfig, found] at done
  cases message with
  | illegal =>
      cases done
      exact unbound
  | cpu =>
      cases done
      rw [updateTaskStatus, modify_task_same]
      exact reworked_unbound _ _ (.update _) unbound
  | isp config =>
      obtain ⟨⟨last, accepted⟩, configured, settled⟩ := Option.bind_eq_some_iff.mp done
      split at settled
      · rename_i failed
        cases settled
        dsimp only at failed
        subst failed
        simp only [psIspConfigMessageHandler] at configured
        split at configured
        · cases configured
          exact unbound
        · obtain ⟨⟨handler, ret⟩, -, configured⟩ := Option.bind_eq_some_iff.mp configured
          split at configured
          · cases configured
            exact unbound
          · cases configured
      · cases settled
        exact (accepts rfl _ rfl).elim
  | vipre config =>
      obtain ⟨⟨last, accepted⟩, configured, settled⟩ := Option.bind_eq_some_iff.mp done
      obtain ⟨⟨handler, ok⟩, -, configured⟩ := Option.bind_eq_some_iff.mp configured
      cases ok with
      | false =>
          cases configured
          cases settled
          exact unbound
      | true =>
          cases configured
          cases settled
          exact (accepts rfl _ rfl).elim

end CsiDsp
