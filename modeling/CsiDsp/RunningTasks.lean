import CsiDsp.TaskRun

set_option autoImplicit false

namespace CsiDsp

open Chain

-- The task TASK_START is working on, and whether it is in its line's chain yet.
def CommandPc.starting : CommandPc → Option Nat
  | .startLink pri _ _ | .startEnable pri _ | .startRun pri => some pri
  | _ => none

def CommandPc.linked : CommandPc → Option Nat
  | .startEnable pri _ | .startRun pri => some pri
  | _ => none

-- The line whose vector names a task that has not been linked yet.
def CommandPc.linking : CommandPc → Option Irq
  | .startLink _ irq _ => some irq
  | _ => none

def OnlyRunningRun (state : TaskRun) : Prop :=
  ∀ pri pc, state.sched.pc = .hw pri pc → Running state.sched.dsp pri ∧ (state.sched.dsp.tasks pri).algo.param ≠ none

def Live (dsp : Dsp) (command : CommandPc) (pri : Nat) : Prop :=
  Running dsp pri ∨ command.linked = some pri ∨ pri = commonPri

instance (dsp : Dsp) (command : CommandPc) (pri : Nat) : Decidable (Live dsp command pri) :=
  inferInstanceAs (Decidable (_ ∨ _ ∨ _))

-- FREE is for tasks that are not RUNING, START for hardware tasks with a
-- parameter block. While a hardware task is RUNING, FE_CONFIG keeps it on its
-- line, and no algorithm command takes its parameter block away.
def CommandKeeps (dsp : Dsp) (pri : Nat) : Command → Prop
  | .taskFree _ => ¬ Running dsp pri
  | .taskStart _ => (dsp.tasks pri).status = .ready → (dsp.tasks pri).type.isHw = true → (dsp.tasks pri).algo.param ≠ none
  | .feConfig _ message => Running dsp pri → message.line = none ∨ message.line = some (dsp.tasks pri).irqNum
  | .algoConfig _ message env => Running dsp pri → (dsp.tasks pri).type.isHw = true → (dsp.tasks pri).algo.param ≠ none →
      ¬ ((dsp.tasks pri).algo.algoProcess ≠ none ∧ message.algoPtr = 0 ∧ message.algoId = -1) → ¬ ParamLost message env
  | .algoLoad _ _ env => Running dsp pri → (dsp.tasks pri).type.isHw = true → env.paramBlock ≠ none
  | _ => True

-- Before TASK_STOP takes a task from RUNING, its ready bit is clear and no task
-- that an interrupt may wake is chained to it.
def StopsClean (dsp : Dsp) (command : CommandPc) (pri : Nat) : Prop :=
  ((dsp.tasks pri).type.isHw = true → isReady dsp.ready pri = false) ∧
    ∀ other < psMaxTaskType, other ≠ pri → Live dsp command other → taskLink dsp other ≠ .node pri

-- The check of the VIPRE names a hardware task only while it is RUNING.
def ChecksRunning (dsp : Dsp) (pri : Nat) : Prop :=
  (dsp.tasks pri).emptyCheck = some .vipre → vipreIsEmpty dsp.vipre = false → 0 ≤ dsp.highPriTask →
    (dsp.tasks dsp.highPriTask.toNat).type.isHw = true → Running dsp dsp.highPriTask.toNat

-- An interrupt between the two first writes of TASK_START wakes RUNING tasks and
-- the one that is being started, whatever that one is still linked to.
def WakesRunning (dsp : Dsp) (command : CommandPc) (irq : Irq) : Prop :=
  match interruptWalk dsp irq with
  | none => True
  | some (visited, _) =>
      ∀ id ∈ visited, (dsp.tasks id).type.isHw = true → Running dsp id ∨ command.starting = some id

def KeepsRunning (state : TaskRun) : TaskEvent → Prop
  | .loop (.interrupt irq _) => state.command.linking = some irq → WakesRunning state.sched.dsp state.command irq
  | .loop (.schedule _ _) => ∀ pri < 64, state.sched.pc = .clear pri → ChecksRunning state.sched.dsp pri
  | .loop .hostAck => True
  | .command command => ∀ pri < psMaxTaskType, command.target state.sched.dsp = some pri → CommandKeeps state.sched.dsp pri command
  | .advance => ∀ pri < psMaxTaskType, state.command = .stopReady pri → StopsClean state.sched.dsp state.command pri

def CommandPlace (dsp : Dsp) : CommandPc → Prop
  | .idle => True
  | .startLink pri irq old => pri < psMaxTaskType ∧ (dsp.tasks pri).status = .ready ∧ (dsp.tasks pri).irqNum = irq ∧
      dsp.vectors irq = ⟨.trigger, pri⟩ ∧ old ≠ .null
  | .startEnable pri irq => pri < psMaxTaskType ∧ (dsp.tasks pri).irqNum = irq ∧ dsp.vectors irq = ⟨.trigger, pri⟩
  | .startRun pri => pri < psMaxTaskType
  | .stopDisable pri irq => pri < psMaxTaskType ∧ (dsp.tasks pri).irqNum = irq
  | .stopReady pri => pri < psMaxTaskType ∧ dsp.enabled (dsp.tasks pri).irqNum = false

-- The part of the invariant that only commands change. Links and enabled
-- vectors lead to tasks that an interrupt may wake.
structure ChainsInv (dsp : Dsp) (command : CommandPc) : Prop where
  listed : ∀ id pri, dsp.taskHandler id = some pri → pri < psMaxTaskType
  bounded : ∀ pri, Running dsp pri → pri < psMaxTaskType
  kinds : ∀ pri, (dsp.tasks pri).taskPro = some .hw → (dsp.tasks pri).type.isHw = true
  common : (dsp.tasks commonPri).type.isHw = false
  named : dsp.highPriTask < psMaxTaskType
  params : ∀ pri, (dsp.tasks pri).type.isHw = true → Running dsp pri ∨ command.starting = some pri →
    (dsp.tasks pri).algo.param ≠ none
  links : ∀ pri other, Live dsp command pri → taskLink dsp pri = .node other → Live dsp command other
  vectors : ∀ irq other, dsp.enabled irq = true → command.linking ≠ some irq → vectorLink (dsp.vectors irq) = .node other →
    other = commonPri ∨ ((Running dsp other ∨ command.linked = some other) ∧ (dsp.tasks other).irqNum = irq)
  present : ∀ irq, (dsp.vectors irq).handler ≠ .null
  chained : ∀ pri, Running dsp pri ∨ command.linked = some pri → (dsp.tasks pri).intrHandler ≠ .null
  place : CommandPlace dsp command

structure RunInv (state : TaskRun) : Prop where
  chains : ChainsInv state.sched.dsp state.command
  agree : GroupsAgree state.sched.dsp.ready
  inside : state.command ≠ .idle → state.sched.pc = .other commonPri
  small : ∀ pri, state.sched.pc.task = some pri → pri < 64
  woken : ∀ pri < 64, (state.sched.dsp.tasks pri).type.isHw = true → isReady state.sched.dsp.ready pri = true →
    Running state.sched.dsp pri ∨ state.command.starting = some pri
  running : OnlyRunningRun state

section Quiet

variable (dsp next : Dsp) (inv : ChainsInv dsp .idle) (quiet : QuietCommand dsp next)

include quiet

theorem quiet_running (pri : Nat) : Running next pri ↔ Running dsp pri := (quiet.entries pri).running

theorem quiet_live (pri : Nat) : Live next .idle pri ↔ Live dsp .idle pri := by
  rw [Live, Live, quiet_running dsp next quiet]

include inv

theorem quiet_chains_inv : ChainsInv next .idle := by
  have running := quiet_running dsp next quiet
  have live := quiet_live dsp next quiet
  refine ⟨quiet.listed inv.listed, fun pri runs => inv.bounded pri ((running pri).mp runs), fun pri pro => ?_, ?_, quiet.named inv.named,
    fun pri kind used => ?_, fun pri other alive link => ?_, fun irq other enabled _ link => ?_, fun irq => ?_, fun pri used => ?_, trivial⟩
  · rw [(quiet.entries pri).kind]
    exact ((quiet.entries pri).pro pro).elim (inv.kinds pri) fun hardware => hardware
  · rw [(quiet.entries commonPri).kind]
    exact inv.common
  · have runs := (running pri).mp (used.resolve_right (by simp [CommandPc.starting]))
    have hardware := (quiet.entries pri).kind.symm.trans kind
    exact (quiet.entries pri).param runs hardware (inv.params pri hardware (.inl runs))
  · rw [taskLink, (quiet.entries pri).vector] at link
    exact (live other).mpr (inv.links pri other ((live pri).mp alive) link)
  · rcases quiet.lines irq with ⟨vector, line⟩ | ⟨driver, vector, plain, -⟩
    · rw [line] at enabled
      rw [vector] at link
      rcases inv.vectors irq other enabled (by simp [CommandPc.linking]) link with common | ⟨used, bound⟩
      · exact .inl common
      · have runs := used.resolve_right (by simp [CommandPc.linked])
        exact .inr ⟨.inl ((running other).mpr runs), ((quiet.entries other).line runs).trans bound⟩
    · rw [vector, vector_link_last _ plain] at link
      cases link
  · rcases quiet.lines irq with ⟨vector, -⟩ | ⟨driver, vector, -, present⟩
    · rw [vector]
      exact inv.present irq
    · rw [vector]
      exact present
  · have runs := (running pri).mp (used.resolve_right (by simp [CommandPc.linked]))
    have same := congrArg Vector.handler (quiet.entries pri).vector
    simp only [taskVector] at same
    rw [same]
    exact inv.chained pri (.inl runs)

end Quiet

section Write

variable (dsp : Dsp) (pri : Nat)

theorem begin_start_chains (inv : ChainsInv dsp .idle) (inTable : pri < psMaxTaskType) (waiting : (dsp.tasks pri).status = .ready)
    (param : (dsp.tasks pri).type.isHw = true → (dsp.tasks pri).algo.param ≠ none) :
    ChainsInv (installTrigger dsp pri (dsp.tasks pri).irqNum)
      (.startLink pri (dsp.tasks pri).irqNum (dsp.vectors (dsp.tasks pri).irqNum).handler) := by
  have installed : (installTrigger dsp pri (dsp.tasks pri).irqNum).vectors (dsp.tasks pri).irqNum = ⟨.trigger, pri⟩ :=
    Function.update_self _ _ _
  refine ⟨inv.listed, inv.bounded, inv.kinds, inv.common, inv.named, fun other kind used => ?_, inv.links,
    fun irq other enabled away link => ?_, fun irq => ?_, inv.chained, inTable, waiting, rfl, installed, inv.present _⟩
  · rcases used with runs | starts
    · exact inv.params other kind (.inl runs)
    · cases starts
      exact param kind
  · have different : irq ≠ (dsp.tasks pri).irqNum := fun same => away (by rw [same]; rfl)
    have kept : (installTrigger dsp pri (dsp.tasks pri).irqNum).vectors irq = dsp.vectors irq := Function.update_of_ne different _ _
    rw [kept] at link
    exact inv.vectors irq other enabled (by simp [CommandPc.linking]) link
  · by_cases same : irq = (dsp.tasks pri).irqNum
    · rw [same, installed]
      simp
    · have kept : (installTrigger dsp pri (dsp.tasks pri).irqNum).vectors irq = dsp.vectors irq := Function.update_of_ne same _ _
      rw [kept]
      exact inv.present irq

theorem link_old_keeps {Value : Type} (view : DspTask → Value) (irq : Irq) (old : Handler)
    (same : ∀ task arg, view { task with intrArg := arg, intrHandler := old } = view task) (other : Nat) :
    view ((linkOldHandler dsp pri irq old).tasks other) = view (dsp.tasks other) := by
  rw [linkOldHandler]
  exact modify_task_keeps dsp pri other _ view (same (dsp.tasks pri) _)

-- The link of a task that is being started leads to a RUNING task, or to a driver.
theorem start_link_chains (irq : Irq) (old : Handler) (inv : ChainsInv dsp (.startLink pri irq old)) :
    ChainsInv (linkOldHandler dsp pri irq old) (.startEnable pri irq) := by
  obtain ⟨inTable, -, bound, installed, present⟩ := inv.place
  have entry : (linkOldHandler dsp pri irq old).tasks pri = { dsp.tasks pri with
      intrArg := if old = .trigger then dspGetLatestHwTask dsp pri irq else -1, intrHandler := old } := by
    simp only [linkOldHandler, modify_task_same]
  have others (other : Nat) (different : other ≠ pri) : (linkOldHandler dsp pri irq old).tasks other = dsp.tasks other := by
    simp only [linkOldHandler, modify_task_other _ _ _ _ different]
  have keeps {Value : Type} (view : DspTask → Value) := link_old_keeps dsp pri view irq old
  have status := keeps DspTask.status fun _ _ => rfl
  have type := keeps DspTask.type fun _ _ => rfl
  have lines := keeps DspTask.irqNum fun _ _ => rfl
  have running (other : Nat) : Running (linkOldHandler dsp pri irq old) other ↔ Running dsp other := by rw [Running, status, Running]
  have grows (other : Nat) (alive : Live dsp (.startLink pri irq old) other) :
      Live (linkOldHandler dsp pri irq old) (.startEnable pri irq) other := by
    rcases alive with runs | linked | common
    · exact .inl ((running other).mpr runs)
    · cases linked
    · exact .inr (.inr common)
  refine ⟨inv.listed, fun other runs => inv.bounded other ((running other).mp runs), fun other pro => ?_, ?_, inv.named,
    fun other kind used => ?_, fun id other alive link => ?_, fun line other enabled _ link => ?_, inv.present, fun other used => ?_,
    inTable, (lines pri).trans bound, installed⟩
  · rw [type]
    exact inv.kinds other ((keeps DspTask.taskPro (fun _ _ => rfl) other).symm.trans pro)
  · rw [type]
    exact inv.common
  · rw [keeps (fun task => task.algo.param) fun _ _ => rfl]
    exact inv.params other ((congrArg _ (type other)).symm.trans kind) (used.imp (running other).mp fun starts => starts)
  · by_cases here : id = pri
    · subst here
      rw [taskLink, entry, taskVector] at link
      by_cases trigger : old = .trigger
      · rw [trigger, if_pos rfl] at link
        rcases latest_cases dsp id irq with none | ⟨latest, found, small, -, runs, -⟩
        · rw [none] at link
          cases link
        · rw [found, vector_link_trigger latest small] at link
          cases link
          exact .inl ((running _).mpr runs)
      · rw [vector_link_last _ trigger] at link
        cases link
    · rw [taskLink, others id here] at link
      refine grows other (inv.links id other ?_ link)
      rcases alive with runs | linked | common
      · exact .inl ((running id).mp runs)
      · cases linked
        exact absurd rfl here
      · exact .inr (.inr common)
  · by_cases here : line = irq
    · subst here
      have vector : (linkOldHandler dsp pri line old).vectors line = ⟨.trigger, pri⟩ := installed
      rw [vector, vector_link_trigger pri inTable] at link
      cases link
      exact .inr ⟨.inr rfl, (lines pri).trans bound⟩
    · rcases inv.vectors line other enabled (fun same => here (Option.some.inj same).symm) link with common | ⟨used, same⟩
      · exact .inl common
      · refine .inr ⟨.inl ((running other).mpr (used.resolve_right ?_)), (lines other).trans same⟩
        exact fun linked => by cases linked
  · by_cases here : other = pri
    · rw [here, entry]
      exact present
    · rw [others other here]
      refine inv.chained other (.inl ?_)
      rcases used with runs | linked
      · exact (running other).mp runs
      · cases linked
        exact absurd rfl here

theorem start_enable_chains (irq : Irq) (inv : ChainsInv dsp (.startEnable pri irq)) :
    ChainsInv (enableLine dsp irq) (.startRun pri) := by
  obtain ⟨inTable, bound, installed⟩ := inv.place
  refine ⟨inv.listed, inv.bounded, inv.kinds, inv.common, inv.named, inv.params, inv.links, fun line other enabled _ link => ?_,
    inv.present, inv.chained, inTable⟩
  by_cases here : line = irq
  · subst here
    have vector : (enableLine dsp line).vectors line = ⟨.trigger, pri⟩ := installed
    rw [vector, vector_link_trigger pri inTable] at link
    cases link
    exact .inr ⟨.inr rfl, bound⟩
  · have same : (enableLine dsp irq).enabled line = dsp.enabled line := Function.update_of_ne here _ _
    exact inv.vectors line other (same.symm.trans enabled) (by simp [CommandPc.linking]) link

theorem set_status_running (status : TaskStatus) (other : Nat) : Running (setStatus dsp pri status) other ↔
    (other = pri ∧ status = .runing) ∨ (other ≠ pri ∧ Running dsp other) := by
  by_cases here : other = pri
  · subst here
    simp [Running, setStatus]
  · simp [Running, setStatus, here]

theorem set_status_keeps {Value : Type} (view : DspTask → Value) (status : TaskStatus)
    (same : view { dsp.tasks pri with status := status } = view (dsp.tasks pri)) (other : Nat) :
    view ((setStatus dsp pri status).tasks other) = view (dsp.tasks other) :=
  modify_task_keeps dsp pri other _ view same

theorem start_run_chains (inv : ChainsInv dsp (.startRun pri)) : ChainsInv (setStatus dsp pri .runing) .idle := by
  have keeps {Value : Type} (view : DspTask → Value) := fun same other => set_status_keeps dsp pri view .runing same other
  have running (other : Nat) : Running (setStatus dsp pri .runing) other ↔ Running dsp other ∨ some pri = some other := by
    rw [set_status_running, Option.some_inj]
    by_cases here : other = pri
    · simp [here]
    · simp [here, Ne.symm here]
  have live (other : Nat) : Live (setStatus dsp pri .runing) .idle other ↔ Live dsp (.startRun pri) other := by
    simp only [Live, running, CommandPc.linked]
    simp [or_assoc]
  refine ⟨inv.listed, fun other runs => ?_, fun other pro => ?_, ?_, inv.named, fun other kind used => ?_,
    fun id other alive link => ?_, fun line other enabled _ link => ?_, inv.present, fun other used => ?_, trivial⟩
  · rcases (running other).mp runs with runs | starts
    · exact inv.bounded other runs
    · cases starts
      exact inv.place
  · rw [keeps DspTask.type rfl]
    exact inv.kinds other ((keeps DspTask.taskPro rfl other).symm.trans pro)
  · rw [keeps DspTask.type rfl]
    exact inv.common
  · rw [keeps (fun task => task.algo.param) rfl]
    refine inv.params other ((congrArg _ (keeps DspTask.type rfl other)).symm.trans kind) ((running other).mp (used.resolve_right ?_))
    exact fun starts => by cases starts
  · rw [taskLink, keeps taskVector rfl] at link
    exact (live other).mpr (inv.links id other ((live id).mp alive) link)
  · rcases inv.vectors line other enabled (by simp [CommandPc.linking]) link with common | ⟨used, same⟩
    · exact .inl common
    · exact .inr ⟨.inl ((running other).mpr used), (keeps DspTask.irqNum rfl other).trans same⟩
  · rw [keeps DspTask.intrHandler rfl]
    refine inv.chained other ((running other).mp (used.resolve_right ?_))
    exact fun linked => by cases linked

theorem begin_stop_chains (inv : ChainsInv dsp .idle) (runs : Running dsp pri) :
    ChainsInv (reinstallOld dsp pri (dsp.tasks pri).irqNum) (.stopDisable pri (dsp.tasks pri).irqNum) := by
  have inTable := inv.bounded pri runs
  have installed : (reinstallOld dsp pri (dsp.tasks pri).irqNum).vectors (dsp.tasks pri).irqNum = ⟨(dsp.tasks pri).intrHandler, pri⟩ :=
    Function.update_self _ _ _
  refine ⟨inv.listed, inv.bounded, inv.kinds, inv.common, inv.named, inv.params, inv.links, fun line other enabled _ link => ?_,
    fun line => ?_, inv.chained, inTable, rfl⟩
  · by_cases here : line = (dsp.tasks pri).irqNum
    · rw [here, installed] at link
      by_cases trigger : (dsp.tasks pri).intrHandler = .trigger
      · rw [trigger, vector_link_trigger pri inTable] at link
        cases link
        exact .inr ⟨.inl runs, here.symm⟩
      · rw [vector_link_last _ trigger] at link
        cases link
    · have kept : (reinstallOld dsp pri (dsp.tasks pri).irqNum).vectors line = dsp.vectors line := Function.update_of_ne here _ _
      rw [kept] at link
      exact inv.vectors line other enabled (by simp [CommandPc.linking]) link
  · by_cases here : line = (dsp.tasks pri).irqNum
    · rw [here, installed]
      exact inv.chained pri (.inl runs)
    · have kept : (reinstallOld dsp pri (dsp.tasks pri).irqNum).vectors line = dsp.vectors line := Function.update_of_ne here _ _
      rw [kept]
      exact inv.present line

theorem stop_disable_chains (irq : Irq) (inv : ChainsInv dsp (.stopDisable pri irq)) :
    ChainsInv (disableLine dsp irq) (.stopReady pri) := by
  obtain ⟨inTable, bound⟩ := inv.place
  refine ⟨inv.listed, inv.bounded, inv.kinds, inv.common, inv.named, inv.params, inv.links, fun line other enabled _ link => ?_,
    inv.present, inv.chained, inTable, ?_⟩
  · by_cases here : line = irq
    · subst here
      have off : (disableLine dsp line).enabled line = false := Function.update_self _ _ _
      rw [off] at enabled
      cases enabled
    · have same : (disableLine dsp irq).enabled line = dsp.enabled line := Function.update_of_ne here _ _
      exact inv.vectors line other (same.symm.trans enabled) (by simp [CommandPc.linking]) link
  · have same : ((disableLine dsp irq).tasks pri).irqNum = irq := bound
    rw [same]
    exact Function.update_self _ _ _

-- No interrupt can wake a task that has been stopped cleanly.
theorem stop_ready_chains (inv : ChainsInv dsp (.stopReady pri)) (clean : StopsClean dsp (.stopReady pri) pri) :
    ChainsInv (setStatus dsp pri .ready) .idle := by
  obtain ⟨inTable, off⟩ := inv.place
  have keeps {Value : Type} (view : DspTask → Value) := fun same other => set_status_keeps dsp pri view .ready same other
  have running (other : Nat) : Running (setStatus dsp pri .ready) other ↔ other ≠ pri ∧ Running dsp other := by
    rw [set_status_running]
    simp
  have live (other : Nat) : Live (setStatus dsp pri .ready) .idle other ↔ (other ≠ pri ∧ Running dsp other) ∨ other = commonPri := by
    simp [Live, running, CommandPc.linked]
  refine ⟨inv.listed, fun other runs => inv.bounded other ((running other).mp runs).2, fun other pro => ?_, ?_, inv.named,
    fun other kind used => ?_, fun id other alive link => ?_, fun line other enabled _ link => ?_, inv.present, fun other used => ?_,
    trivial⟩
  · rw [keeps DspTask.type rfl]
    exact inv.kinds other ((keeps DspTask.taskPro rfl other).symm.trans pro)
  · rw [keeps DspTask.type rfl]
    exact inv.common
  · rw [keeps (fun task => task.algo.param) rfl]
    refine inv.params other ((congrArg _ (keeps DspTask.type rfl other)).symm.trans kind) (.inl ?_)
    exact ((running other).mp (used.resolve_right (by simp [CommandPc.starting]))).2
  · rw [taskLink, keeps taskVector rfl] at link
    have before : Live dsp (.stopReady pri) id := ((live id).mp alive).elim (fun runs => .inl runs.2) fun common => .inr (.inr common)
    have after := inv.links id other before link
    have small : commonPri < psMaxTaskType := by decide
    have apart : other ≠ pri ∨ other = commonPri := by
      by_cases here : id = pri
      · -- Only the common task may be woken while it is not RUNING.
        have common : id = commonPri := ((live id).mp alive).resolve_left fun runs => runs.1 here
        by_cases same : other = pri
        · exact .inr (same.trans (here.symm.trans common))
        · exact .inl same
      · have bounded : id < psMaxTaskType := ((live id).mp alive).elim (fun runs => inv.bounded id runs.2) fun common => common ▸ small
        refine .inl fun same => clean.2 id bounded here before ?_
        rw [← same]
        exact link
    rw [live]
    rcases after with runs | linked | common
    · exact apart.imp (fun different => ⟨different, runs⟩) fun common => common
    · cases linked
    · exact .inr common
  · rcases inv.vectors line other enabled (by simp [CommandPc.linking]) link with common | ⟨used, same⟩
    · exact .inl common
    · have runs := used.resolve_right (by simp [CommandPc.linked])
      refine .inr ⟨.inl ((running other).mpr ⟨fun here => ?_, runs⟩), (keeps DspTask.irqNum rfl other).trans same⟩
      rw [here] at same
      rw [same] at off
      rw [show dsp.enabled line = true from enabled] at off
      cases off
  · rw [keeps DspTask.intrHandler rfl]
    exact inv.chained other (.inl ((running other).mp (used.resolve_right (by simp [CommandPc.linked]))).2)

end Write

section Loop

variable (dsp next : Dsp) (command : CommandPc) (inv : ChainsInv dsp command)

include inv

theorem loop_frame_chains (frame : LoopFrame dsp next) : ChainsInv next command := by
  rw [LoopFrame] at frame
  rw [frame]
  refine ⟨inv.listed, inv.bounded, inv.kinds, inv.common, inv.named, inv.params, inv.links, inv.vectors, inv.present, inv.chained, ?_⟩
  have place := inv.place
  cases command <;> exact place

theorem chained_live (start : Link Nat Vector) (visited : List Nat) (stop : Vector)
    (chained : Chained (taskLink dsp) start visited stop) (first : ∀ id, start = .node id → Live dsp command id) :
    ∀ id ∈ visited, Live dsp command id := by
  induction chained with
  | last stop => exact fun id member => absurd member List.not_mem_nil
  | node name rest stop _ ih =>
      intro id member
      rcases List.mem_cons.mp member with rfl | later
      · exact first id rfl
      · exact ih (fun other link => inv.links name other (first name rfl) link) id later

theorem interrupt_wakes (irq : Irq) (enabled : dsp.enabled irq = true)
    (wakes : command.linking = some irq → WakesRunning dsp command irq) : WakesRunning dsp command irq := by
  by_cases away : command.linking = some irq
  · exact wakes away
  · rw [WakesRunning]
    split
    · trivial
    · rename_i visited last walked
      intro id member kind
      have alive := chained_live dsp command inv _ visited last (chained_of_walk _ _ _ _ _ walked) (fun other link => by
        rcases inv.vectors irq other enabled away link with common | ⟨used, -⟩
        · exact .inr (.inr common)
        · exact used.imp (fun runs => runs) .inl) id member
      rcases alive with runs | linked | common
      · exact .inl runs
      · refine .inr ?_
        cases command <;> first | exact linked | cases linked
      · rw [common, inv.common] at kind
        cases kind

end Loop

section Step

variable (state next : TaskRun) (inv : RunInv state)

include inv

theorem run_inv_fewer (dsp : Dsp) (pc : SchedPc) (frame : LoopFrame state.sched.dsp dsp) (agree : GroupsAgree dsp.ready)
    (fewer : ∀ pri < 64, (state.sched.dsp.tasks pri).type.isHw = true → isReady dsp.ready pri = true →
      isReady state.sched.dsp.ready pri = true ∨ Running state.sched.dsp pri)
    (inside : state.command ≠ .idle → pc = .other commonPri) (small : ∀ pri, pc.task = some pri → pri < 64)
    (running : ∀ pri step, pc = .hw pri step → Running state.sched.dsp pri ∧ (state.sched.dsp.tasks pri).algo.param ≠ none) :
    RunInv ⟨⟨dsp, pc⟩, state.command⟩ := by
  have tasks := loop_frame_tasks state.sched.dsp dsp frame
  refine ⟨loop_frame_chains state.sched.dsp dsp state.command inv.chains frame, agree, inside, small,
    fun pri below kind ready => ?_, fun pri step place => ?_⟩
  · simp only [Running, tasks] at kind ⊢
    rcases fewer pri below kind ready with before | runs
    · exact inv.woken pri below kind before
    · exact .inl runs
  · simp only [Running, tasks]
    exact running pri step place

theorem run_interrupt_inv (irq : Irq) (registers : DeviceRegisters) (dsp : Dsp) (enabled : state.sched.dsp.enabled irq = true)
    (wakes : state.command.linking = some irq → WakesRunning state.sched.dsp state.command irq)
    (taken : takeInterrupt state.sched.dsp irq registers = some dsp) :
    RunInv ⟨⟨dsp, state.sched.pc⟩, state.command⟩ := by
  obtain ⟨driven, visited, last, effect⟩ := interrupt_effect state.sched.dsp dsp irq registers taken
  have frame := interrupt_frame state.sched.dsp dsp irq registers taken
  have tasks := loop_frame_tasks state.sched.dsp dsp frame
  have ready : dsp.ready = visited.reverse.foldl setReadyTask state.sched.dsp.ready := by rw [effect.same]
  have woken := interrupt_wakes state.sched.dsp state.command inv.chains irq enabled wakes
  simp only [WakesRunning, effect.walked] at woken
  refine ⟨loop_frame_chains state.sched.dsp dsp state.command inv.chains frame, ?_, inv.inside, inv.small, fun pri below kind set => ?_,
    fun pri step place => ?_⟩
  · rw [ready]
    exact groups_agree_fold _ _ inv.agree
  · simp only [Running, tasks] at kind ⊢
    have limit : psMaxTaskType < 64 := by decide
    rw [ready, ready_fold _ _ pri (fun id found => ?_) below, List.mem_reverse] at set
    · rcases set with member | before
      · exact woken pri member kind
      · exact inv.woken pri below kind before
    · have small := effect.inTable id (List.mem_reverse.mp found)
      omega
  · simp only [Running, tasks]
    exact inv.running pri step place

theorem run_clear_inv (pri : Nat) (free : state.command = .idle) (place : state.sched.pc = .clear pri)
    (checks : ChecksRunning state.sched.dsp pri) : RunInv ⟨⟨clearTask state.sched.dsp pri, .pick⟩, state.command⟩ := by
  have small := inv.small pri (by rw [place]; rfl)
  refine run_inv_fewer state inv _ .pick rfl (groups_agree_clear_task _ pri inv.agree) (fun other below kind ready => ?_)
    (fun busy => absurd free busy) (fun _ found => by cases found) fun _ _ found => by cases found
  cases clear_outcome state.sched.dsp pri with
  | kept same =>
      rw [same] at ready
      exact .inl ready
  | gone same =>
      rw [same] at ready
      exact .inl (is_ready_of_clear _ pri other small below ready)
  | passedOn check waiting named same =>
      have high := inv.chains.named
      have limit : psMaxTaskType < 64 := by decide
      rw [same] at ready
      by_cases here : other = state.sched.dsp.highPriTask.toNat
      · rw [here] at kind ⊢
        exact .inr (checks check waiting named kind)
      · rw [is_ready_set_other _ _ other (by omega) below here] at ready
        exact .inl ready

theorem run_schedule_inv (scratch : Scratch) (algo : AlgoResult) (sched : Sched) (free : state.command = .idle)
    (checks : ∀ pri < 64, state.sched.pc = .clear pri → ChecksRunning state.sched.dsp pri)
    (taken : schedStep state.sched scratch algo = some sched) : RunInv ⟨sched, state.command⟩ := by
  have same_bits : ∀ pri < 64, (state.sched.dsp.tasks pri).type.isHw = true → isReady state.sched.dsp.ready pri = true →
      isReady state.sched.dsp.ready pri = true ∨ Running state.sched.dsp pri := fun _ _ _ ready => .inl ready
  have outside {pc : SchedPc} : state.command ≠ .idle → pc = .other commonPri := fun busy => absurd free busy
  have picks (waiting : state.sched.dsp.ready.grp ≠ 0) := get_ready_task_ready state.sched.dsp.ready inv.agree waiting
  cases sched_outcome state.sched sched scratch algo taken with
  | stayed place same =>
      subst same
      exact inv
  | picked place waiting pro same =>
      subst same
      obtain ⟨ready, below⟩ := picks waiting
      have kind := inv.chains.kinds _ pro
      have runs := (inv.woken _ below kind ready).resolve_right (by rw [free]; simp [CommandPc.starting])
      refine run_inv_fewer state inv _ _ rfl inv.agree same_bits outside (fun pri found => ?_) fun pri step found => ?_
      · cases found
        exact below
      · cases found
        exact ⟨runs, inv.chains.params _ kind (.inl runs)⟩
  | passed place waiting pro same =>
      subst same
      refine run_inv_fewer state inv _ _ rfl inv.agree same_bits outside (fun pri found => ?_) fun pri step found => by cases found
      cases found
      exact (picks waiting).2
  | ran pri pc after dsp place done same =>
      subst same
      have change := hw_step_change scratch state.sched.dsp dsp pc algo pri after done
      have ready : dsp.ready = state.sched.dsp.ready := by
        cases change <;> (rename_i same; subst same; rfl)
      refine run_inv_fewer state inv dsp _ (hw_loop_frame _ _ (hw_change_frame _ _ _ pc change)) (ready ▸ inv.agree)
        (ready ▸ same_bits) outside (fun id found => ?_) fun id step found => ?_
      · cases found
        exact inv.small pri (by rw [place]; rfl)
      · cases found
        exact inv.running pri pc place
  | finished pri result place same =>
      subst same
      have below := inv.small pri (by rw [place]; rfl)
      refine run_inv_fewer state inv _ _ rfl inv.agree same_bits outside (fun id found => ?_) fun id step found => ?_
      · split at found <;> (cases found; exact below)
      · split at found <;> cases found
  | left pri place same | sent pri place same =>
      subst same
      have below := inv.small pri (by rw [place]; rfl)
      refine run_inv_fewer state inv _ _ rfl inv.agree same_bits outside (fun id found => ?_) fun id step found => by cases found
      cases found
      exact below
  | cleared pri place same =>
      subst same
      exact run_clear_inv state inv pri free place (checks pri (inv.small pri (by rw [place]; rfl)) place)

theorem run_inv_written (dsp : Dsp) (pc : SchedPc) (after : CommandPc) (chains : ChainsInv dsp after)
    (place : pc = .other commonPri ∨ (pc = .clear commonPri ∧ after = .idle)) (ready : dsp.ready = state.sched.dsp.ready)
    (kinds : ∀ pri, (dsp.tasks pri).type.isHw = (state.sched.dsp.tasks pri).type.isHw)
    (used : ∀ pri < psMaxTaskType, (dsp.tasks pri).type.isHw = true → isReady dsp.ready pri = true →
      Running state.sched.dsp pri ∨ state.command.starting = some pri → Running dsp pri ∨ after.starting = some pri) :
    RunInv ⟨⟨dsp, pc⟩, after⟩ := by
  have limit : commonPri < 64 := by decide
  refine ⟨chains, ready ▸ inv.agree, fun busy => ?_, fun pri found => ?_, fun pri below kind set => ?_, fun pri step found => ?_⟩
  · exact place.resolve_right fun ends => busy ends.2
  · rcases place with rfl | ⟨rfl, -⟩ <;> (cases found; exact limit)
  · have before := inv.woken pri below ((kinds pri).symm.trans kind) (ready ▸ set)
    refine used pri ?_ kind set before
    rcases before with runs | starts
    · exact inv.chains.bounded pri runs
    · have placed := inv.chains.place
      cases command : state.command with
      | startLink other irq old | startEnable other irq =>
          rw [command] at starts placed
          cases starts
          exact placed.1
      | startRun other =>
          rw [command] at starts placed
          cases starts
          exact placed
      | idle | stopDisable other irq | stopReady other =>
          rw [command] at starts
          cases starts
  · rcases place with rfl | ⟨rfl, -⟩ <;> cases found

theorem run_quiet_inv (dsp : Dsp) (free : state.command = .idle) (quiet : QuietCommand state.sched.dsp dsp) :
    RunInv (endCommand dsp) := by
  have chains := inv.chains
  rw [free] at chains
  refine run_inv_written state inv dsp _ .idle (quiet_chains_inv state.sched.dsp dsp chains quiet) (.inr ⟨rfl, rfl⟩) quiet.ready
    (fun pri => (quiet.entries pri).kind) fun pri _ _ _ used => .inl ?_
  rw [quiet_running state.sched.dsp dsp quiet]
  exact used.resolve_right (by rw [free]; simp [CommandPc.starting])

theorem run_command_inv (command : Command) (free : state.command = .idle)
    (kept : ∀ pri < psMaxTaskType, command.target state.sched.dsp = some pri → CommandKeeps state.sched.dsp pri command)
    (begun : beginCommand state.sched.dsp command = some next) : RunInv next := by
  have chains := inv.chains
  rw [free] at chains
  have keeps (id pri : Nat) (asked : command.id = some id) (found : dspSearchTaskById state.sched.dsp id = some pri) :
      CommandKeeps state.sched.dsp pri command :=
    kept pri (chains.listed id pri (search_listed _ id pri found)) (by rw [Command.target, asked, Option.bind_some, found])
  have unchanged : RunInv (endCommand state.sched.dsp) :=
    run_quiet_inv state inv _ free (quiet_same _ _ rfl rfl rfl rfl rfl rfl)
  have unknown (result : Dsp × Reply) (id : Nat) (asked : command.id = some id) (same : endCommand result.1 = next)
      (missing : dspSearchTaskById state.sched.dsp id = none)
      (done : psCommonCommand state.sched.dsp command = some result) : RunInv next := by
    rw [unknown_task state.sched.dsp result.1 command id result.2 asked missing done] at same
    exact same ▸ unchanged
  have whole (result : Dsp × Reply) (same : endCommand result.1 = next) (quiet : QuietCommand state.sched.dsp result.1) : RunInv next :=
    same ▸ run_quiet_inv state inv result.1 free quiet
  have idle {pri : Nat} (used : Running state.sched.dsp pri ∨ state.command.starting = some pri) : Running state.sched.dsp pri :=
    used.resolve_right (by rw [free]; simp [CommandPc.starting])
  cases command with
  | taskStart id =>
      simp only [beginCommand] at begun
      cases found : dspSearchTaskById state.sched.dsp id with
      | none =>
          simp only [found] at begun
          cases begun
          exact unchanged
      | some pri =>
          simp only [found] at begun
          cases status : (state.sched.dsp.tasks pri).status with
          | free | idel | runing | invalid =>
              simp only [status] at begun
              cases begun
              exact unchanged
          | ready =>
              simp only [status, if_neg (chains.present _)] at begun
              cases begun
              exact run_inv_written state inv _ _ _ (begin_start_chains state.sched.dsp pri chains
                (chains.listed id pri (search_listed _ id pri found)) status (keeps id pri rfl found status)) (.inl rfl) rfl (fun _ => rfl)
                fun other _ _ _ used => .inl (idle used)
  | taskStop id =>
      simp only [beginCommand] at begun
      cases found : dspSearchTaskById state.sched.dsp id with
      | none =>
          simp only [found] at begun
          cases begun
          exact unchanged
      | some pri =>
          simp only [found] at begun
          cases status : (state.sched.dsp.tasks pri).status with
          | free | idel | ready | invalid =>
              simp only [status] at begun
              cases begun
              exact unchanged
          | runing =>
              simp only [status] at begun
              cases begun
              exact run_inv_written state inv _ _ _ (begin_stop_chains state.sched.dsp pri chains status) (.inl rfl) rfl (fun _ => rfl)
                fun other _ _ _ used => .inl (idle used)
  | taskAlloc mode registered =>
      cases begun
      exact run_quiet_inv state inv _ free (create_quiet _ mode registered)
  | taskFree id =>
      cases begun
      exact run_quiet_inv state inv _ free (destroy_quiet _ id fun pri found => keeps id pri rfl found)
  | reportConfig id flag size =>
      cases begun
      exact run_quiet_inv state inv _ free (report_quiet _ id flag size)
  | beAssginBuf id config =>
      obtain ⟨result, done, same⟩ := Option.map_eq_some_iff.mp begun
      exact whole result same (assgin_quiet _ result.1 id result.2 config done)
  | feConfig id message =>
      obtain ⟨result, done, same⟩ := Option.map_eq_some_iff.mp begun
      cases found : dspSearchTaskById state.sched.dsp id with
      | none => exact unknown result id rfl same found done
      | some pri =>
          exact whole result same (fe_quiet _ result.1 pri message (chains.listed id pri (search_listed _ id pri found))
            (keeps id pri rfl found) (fe_outcome _ id pri found result.1 result.2 message done))
  | beConfig id message =>
      obtain ⟨result, done, same⟩ := Option.map_eq_some_iff.mp begun
      cases found : dspSearchTaskById state.sched.dsp id with
      | none => exact unknown result id rfl same found done
      | some pri => exact whole result same (be_quiet _ result.1 id pri result.2 message found done)
  | algoConfig id message env =>
      obtain ⟨result, done, same⟩ := Option.map_eq_some_iff.mp begun
      cases found : dspSearchTaskById state.sched.dsp id with
      | none => exact unknown result id rfl same found done
      | some pri => exact whole result same (config_quiet _ result.1 id pri result.2 message env found (keeps id pri rfl found) done)
  | algoLoad id algoId env =>
      obtain ⟨result, done, same⟩ := Option.map_eq_some_iff.mp begun
      cases found : dspSearchTaskById state.sched.dsp id with
      | none => exact unknown result id rfl same found done
      | some pri => exact whole result same (load_quiet _ result.1 id pri result.2 algoId env found (keeps id pri rfl found) done)

theorem run_advance_inv (clean : ∀ pri < psMaxTaskType, state.command = .stopReady pri →
      StopsClean state.sched.dsp state.command pri)
    (advanced : advanceCommand state.sched.dsp state.command = some next) : RunInv next := by
  have chains := inv.chains
  cases command : state.command with
  | idle =>
      rw [command] at advanced
      cases advanced
  | startLink pri irq old =>
      rw [command] at advanced chains
      cases advanced
      refine run_inv_written state inv _ _ _ (start_link_chains _ pri irq old chains) (.inl rfl) rfl (fun other => ?_)
        fun other _ _ _ used => ?_
      · exact link_old_keeps _ pri (fun task => task.type.isHw) irq old (fun _ _ => rfl) other
      · rw [command] at used
        refine used.imp (fun runs => ?_) fun starts => starts
        exact (link_old_keeps _ pri DspTask.status irq old (fun _ _ => rfl) other).trans runs
  | startEnable pri irq =>
      rw [command] at advanced chains
      cases advanced
      refine run_inv_written state inv _ _ _ (start_enable_chains _ pri irq chains) (.inl rfl) rfl (fun _ => rfl)
        fun other _ _ _ used => ?_
      rw [command] at used
      exact used
  | startRun pri =>
      rw [command] at advanced chains
      cases advanced
      refine run_inv_written state inv _ _ _ (start_run_chains _ pri chains) (.inr ⟨rfl, rfl⟩) rfl
        (fun other => set_status_keeps _ pri (fun task => task.type.isHw) .runing rfl other) fun other _ _ _ used => .inl ?_
      rw [command] at used
      rw [set_status_running]
      by_cases here : other = pri
      · exact .inl ⟨here, rfl⟩
      · refine .inr ⟨here, used.resolve_right fun starts => ?_⟩
        cases starts
        exact here rfl
  | stopDisable pri irq =>
      rw [command] at advanced chains
      cases advanced
      refine run_inv_written state inv _ _ _ (stop_disable_chains _ pri irq chains) (.inl rfl) rfl (fun _ => rfl)
        fun other _ _ _ used => ?_
      rw [command] at used
      exact used
  | stopReady pri =>
      have cleanly := clean pri
      rw [command] at advanced chains cleanly
      cases advanced
      have stopped := cleanly chains.place.1 rfl
      refine run_inv_written state inv _ _ _ (stop_ready_chains _ pri chains stopped) (.inr ⟨rfl, rfl⟩) rfl
        (fun other => set_status_keeps _ pri (fun task => task.type.isHw) .ready rfl other) fun other _ kind ready used => .inl ?_
      rw [command] at used
      have runs := used.resolve_right (by simp [CommandPc.starting])
      rw [set_status_running]
      refine .inr ⟨fun here => ?_, runs⟩
      rw [here, set_status_keeps _ pri (fun task => task.type.isHw) .ready rfl] at kind
      rw [here] at ready
      have asleep := stopped.1 kind
      rw [show isReady state.sched.dsp.ready pri = true from ready] at asleep
      cases asleep

end Step

def firstRun (cmd : XrpDspCmd) (payload : ReportItem) : TaskRun := ⟨⟨initDsp cmd payload, .pick⟩, .idle⟩

section Run

variable (cmd : XrpDspCmd) (payload : ReportItem)

theorem table_end_is_sw : TaskMode.sw.isHw = false := by decide

theorem init_chains_inv : ChainsInv (initDsp cmd payload) .idle := by
  have entries : ∀ pri, ((initDsp cmd payload).tasks pri).status ≠ .runing ∧ ((initDsp cmd payload).tasks pri).taskPro ≠ some .hw := by
    intro pri
    simp only [initDsp, tableEntry]
    split
    · simp
    · split <;> simp
  have stopped : ∀ pri, ¬ Running (initDsp cmd payload) pri := fun pri runs => (entries pri).1 runs
  refine ⟨fun id pri placed => ?_, fun pri runs => absurd runs (stopped pri), fun pri pro => absurd pro (entries pri).2, table_end_is_sw,
    by simp [initDsp, psMaxTaskType], fun pri _ used => ?_, fun pri other alive link => ?_, fun irq other enabled _ link => ?_,
    fun irq => by cases irq <;> simp [initDsp], fun pri used => ?_, trivial⟩
  · simp only [initDsp] at placed
    split at placed
    · cases placed
      decide
    · split at placed <;> cases placed
      decide
  · exact absurd (used.resolve_right (by simp [CommandPc.starting])) (stopped pri)
  · rcases alive with runs | linked | rfl
    · exact absurd runs (stopped pri)
    · cases linked
    · have driver : taskLink (initDsp cmd payload) commonPri = .last ⟨.xrp, -1⟩ := rfl
      rw [driver] at link
      cases link
  · cases irq with
    | xrp =>
        cases link
        exact .inl rfl
    | unused | isp0 | isp1 | vipre | postIsp => cases link
  · exact absurd (used.resolve_right (by simp [CommandPc.linked])) (stopped pri)

theorem first_run_inv : RunInv (firstRun cmd payload) := by
  refine ⟨init_chains_inv cmd payload, groups_agree_set _ _ groups_agree_zero, fun busy => absurd rfl busy, ?_,
    fun pri below kind set => ?_, ?_⟩
  · exact fun pri found => by cases found
  · have ready : isReady (setReadyTask zeroReady idlePri) pri = true := set
    by_cases last : pri = idlePri
    · have soft : ((initDsp cmd payload).tasks pri).type.isHw = false := by rw [last]; exact table_end_is_sw
      exact absurd (soft.symm.trans kind) (by decide)
    · rw [is_ready_set_other _ _ pri (by decide) below last] at ready
      simp [isReady, zeroReady] at ready
  · exact fun pri step found => by cases found

theorem task_step_inv (state next : TaskRun) (event : TaskEvent) (inv : RunInv state) (keeps : KeepsRunning state event)
    (taken : taskStep state event = some next) : RunInv next := by
  cases event with
  | command command =>
      simp only [taskStep, Option.ite_none_right_eq_some] at taken
      exact run_command_inv state next inv command taken.1.1 keeps taken.2
  | advance => exact run_advance_inv state next inv keeps taken
  | loop event =>
      cases event with
      | schedule scratch algo =>
          simp only [taskStep, Option.ite_none_right_eq_some] at taken
          obtain ⟨sched, stepped, same⟩ := Option.map_eq_some_iff.mp taken.2
          exact same ▸ run_schedule_inv state inv scratch algo sched taken.1 keeps stepped
      | interrupt irq registers =>
          obtain ⟨sched, stepped, same⟩ := Option.map_eq_some_iff.mp taken
          simp only [loopStep, Option.ite_none_right_eq_some, Option.map_eq_some_iff] at stepped
          obtain ⟨enabled, dsp, interrupted, rfl⟩ := stepped
          exact same ▸ run_interrupt_inv state inv irq registers dsp enabled keeps interrupted
      | hostAck =>
          obtain ⟨sched, stepped, same⟩ := Option.map_eq_some_iff.mp taken
          simp only [loopStep, Option.ite_none_left_eq_some, Option.some.injEq] at stepped
          obtain ⟨-, rfl⟩ := stepped
          exact same ▸ run_inv_fewer state inv _ _ rfl inv.agree (fun _ _ _ ready => .inl ready) inv.inside inv.small inv.running

-- In a run that keeps it so, only RUNING tasks are run.
theorem only_running_run (finish : TaskRun) (events : List TaskEvent)
    (keeps : Runs.Guarded taskStep KeepsRunning (firstRun cmd payload) events)
    (ran : Runs.run taskStep (firstRun cmd payload) events = some finish) : OnlyRunningRun finish :=
  (Runs.guarded_run_invariant taskStep KeepsRunning RunInv
    (fun state event next inv kept taken => task_step_inv state next event inv kept taken)
    (firstRun cmd payload) finish events (first_run_inv cmd payload) keeps ran).running

end Run

instance (message : AlgoConfigPar) (env : AlgoEnv) : Decidable (ParamLost message env) :=
  match load : env.load with
  | none => .isTrue (by rw [ParamLost, load]; trivial)
  | some (_, 0) => .isFalse (by rw [ParamLost, load]; exact not_false)
  | some (_, _ + 1) => decidable_of_iff (ListRefused message env) (by rw [ParamLost, load])

instance (dsp : Dsp) (pri : Nat) : ∀ command, Decidable (CommandKeeps dsp pri command)
  | .taskFree _ => inferInstanceAs (Decidable (¬ _))
  | .taskStart _ | .algoLoad _ _ _ => inferInstanceAs (Decidable (_ → _ → _))
  | .feConfig _ _ => inferInstanceAs (Decidable (_ → _ ∨ _))
  | .algoConfig _ _ _ => inferInstanceAs (Decidable (_ → _ → _ → _ → _))
  | .taskAlloc _ _ | .taskStop _ | .beConfig _ _ | .reportConfig _ _ _ | .beAssginBuf _ _ => inferInstanceAs (Decidable True)

instance (dsp : Dsp) (command : CommandPc) (pri : Nat) : Decidable (StopsClean dsp command pri) :=
  inferInstanceAs (Decidable ((_ → _) ∧ ∀ other < psMaxTaskType, _ → _ → _))

instance (dsp : Dsp) (pri : Nat) : Decidable (ChecksRunning dsp pri) := inferInstanceAs (Decidable (_ → _ → _ → _ → _))

instance (dsp : Dsp) (command : CommandPc) (irq : Irq) : Decidable (WakesRunning dsp command irq) :=
  match walked : interruptWalk dsp irq with
  | none => .isTrue (by simp [WakesRunning, walked])
  | some (visited, _) =>
      decidable_of_iff (∀ id ∈ visited, (dsp.tasks id).type.isHw = true → Running dsp id ∨ command.starting = some id)
        (by simp [WakesRunning, walked])

instance (state : TaskRun) : ∀ event, Decidable (KeepsRunning state event)
  | .loop (.interrupt _ _) => inferInstanceAs (Decidable (_ → _))
  | .loop (.schedule _ _) => inferInstanceAs (Decidable (∀ pri < 64, _ → _))
  | .loop .hostAck => inferInstanceAs (Decidable True)
  | .command _ => inferInstanceAs (Decidable (∀ pri < psMaxTaskType, _ → _))
  | .advance => inferInstanceAs (Decidable (∀ pri < psMaxTaskType, _ → _))

def schedule : TaskEvent := .loop (.schedule zeroScratch .failure)

-- The host raises its interrupt, and the loop turns to the common task.
def commonTask : List TaskEvent :=
  [.loop (.interrupt .xrp ⟨⟨false, 0, false⟩, ⟨false, false, false, zeroMeta⟩, ⟨false, false⟩⟩), schedule]

-- The common task configures the task and starts it.
def startedByHost : List TaskEvent :=
  (ispConfiguration.flatMap fun command => commonTask ++ [.command command, schedule]) ++
    commonTask ++ [.command (.taskStart 2), .advance, .advance, .advance, schedule]

theorem only_running_run_started : OnlyRunningRun
    ((Runs.run taskStep (firstRun reportCmd anyReport) (startedByHost ++ [.loop (ispLines 4), schedule])).get (by decide)) :=
  only_running_run reportCmd anyReport _ (startedByHost ++ [.loop (ispLines 4), schedule]) (by decide) (Option.some_get _).symm

-- The ISP interrupts before TASK_STOP is through, and the stopped task is run.
theorem stopped_task_runs : ¬ ∀ (cmd : XrpDspCmd) (payload : ReportItem) (finish : TaskRun) (events : List TaskEvent),
    Runs.run taskStep (firstRun cmd payload) events = some finish → OnlyRunningRun finish := by
  intro claim
  let events := startedByHost ++ commonTask ++ [.loop (ispLines 4), .command (.taskStop 2), .advance, .advance, schedule, schedule]
  let finish := (Runs.run taskStep (firstRun reportCmd anyReport) events).get (by decide)
  obtain ⟨running, -⟩ := claim reportCmd anyReport finish events (Option.some_get _).symm 0 .resetExtra (by decide)
  exact absurd running (by decide)

end CsiDsp
