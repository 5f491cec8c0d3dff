import Mathlib.Data.List.Perm.Subperm
import CsiDsp.Base.Runs
import CsiDsp.TaskEffects

set_option autoImplicit false

namespace CsiDsp

open Chain

-- The tasks an interrupt of a line is meant for.
def RunsOn (dsp : Dsp) (irq : Irq) (pri : Nat) : Prop :=
  pri < psMaxTaskType ∧ Running dsp pri ∧ (dsp.tasks pri).irqNum = irq

instance (dsp : Dsp) (irq : Irq) (pri : Nat) : Decidable (RunsOn dsp irq pri) :=
  inferInstanceAs (Decidable (_ ∧ (_ = _) ∧ (_ = _)))

-- An interrupt of the line runs its driver's handler once and wakes the tasks
-- that run on it, and no others.
structure LineServed (irq : Irq) (dsp : Dsp) : Prop where
  walks : ∃ visited arg, interruptWalk dsp irq = some (visited, ⟨driverHandler irq, arg⟩) ∧ visited.Nodup ∧
    ∀ pri, pri ∈ visited ↔ RunsOn dsp irq pri
  enabled : (∃ pri, RunsOn dsp irq pri) → dsp.enabled irq = true
  wakes : ∀ registers next, takeInterrupt dsp irq registers = some next →
    ∃ driven, runDriver dsp registers (driverHandler irq) = some driven ∧ next = { driven with ready := next.ready } ∧
      ∀ pri < psMaxTaskType, isReady next.ready pri = true ↔ RunsOn dsp irq pri ∨ isReady dsp.ready pri = true

structure LineChain (irq : Irq) (dsp : Dsp) (visited : List Nat) (arg : Int) : Prop where
  chained : Chained (taskLink dsp) (vectorLink (dsp.vectors irq)) visited ⟨driverHandler irq, arg⟩
  members : ∀ pri, pri ∈ visited ↔ RunsOn dsp irq pri
  enabled : visited ≠ [] → dsp.enabled irq = true

def LineInv (irq : Irq) (dsp : Dsp) : Prop :=
  (∀ id pri, dsp.taskHandler id = some pri → pri < psMaxTaskType) ∧ ∃ visited arg, LineChain irq dsp visited arg

inductive ChainCommand where
  | feConfig (id : Nat) (message : FeConfig)
  | taskStart (id : Nat)
  | taskStop (id : Nat)

def ChainCommand.id : ChainCommand → Nat
  | .feConfig id _ | .taskStart id | .taskStop id => id

def ChainCommand.command : ChainCommand → Command
  | .feConfig id message => .feConfig id message
  | .taskStart id => .taskStart id
  | .taskStop id => .taskStop id

-- One of the three commands, on a hardware task.
def chainStep (dsp : Dsp) (event : ChainCommand) : Option Dsp :=
  match dspSearchTaskById dsp event.id with
  | none => none
  | some pri => if (dsp.tasks pri).type.isHw then (psCommonCommand dsp event.command).map Prod.fst else none

-- No task runs on the line, and its driver's handler is installed.
structure LineConfigured (irq : Irq) (dsp : Dsp) : Prop where
  known : irq = .isp0 ∨ irq = .isp1 ∨ irq = .vipre
  inTable : ∀ id pri, dsp.taskHandler id = some pri → pri < psMaxTaskType
  idle : ∀ pri, ¬ RunsOn dsp irq pri
  driver : (dsp.vectors irq).handler = driverHandler irq

-- TASK_START finds the head of the chain to be the first running task of the
-- table.
def StartsAtHead (irq : Irq) (dsp : Dsp) (pri : Nat) : Prop :=
  (dsp.tasks pri).status = .ready → (dsp.tasks pri).irqNum = irq → (dsp.vectors irq).handler = .trigger →
    dspGetLatestHwTask dsp pri irq = (dsp.vectors irq).arg

def StopsLast (irq : Irq) (dsp : Dsp) (pri : Nat) : Prop :=
  RunsOn dsp irq pri → ∀ other < psMaxTaskType, RunsOn dsp irq other → other = pri

-- FE_CONFIG is for a task that does not run, and it installs its driver's
-- handler on a line on which no task runs.
def BindsIdle (irq : Irq) (dsp : Dsp) (pri : Nat) (message : FeConfig) : Prop :=
  message.line ≠ none → (dsp.tasks pri).status ≠ .runing ∧
    (message.line = some irq → ∀ other < psMaxTaskType, ¬ RunsOn dsp irq other)

def KeepsChain (irq : Irq) (dsp : Dsp) (event : ChainCommand) : Prop :=
  ∀ pri < psMaxTaskType, dspSearchTaskById dsp event.id = some pri →
    match event with
    | .taskStart _ => StartsAtHead irq dsp pri
    | .taskStop _ => StopsLast irq dsp pri
    | .feConfig _ message => BindsIdle irq dsp pri message

instance (irq : Irq) (dsp : Dsp) (pri : Nat) : Decidable (StartsAtHead irq dsp pri) :=
  inferInstanceAs (Decidable (_ → _ → _ → _))

instance (irq : Irq) (dsp : Dsp) (pri : Nat) : Decidable (StopsLast irq dsp pri) :=
  inferInstanceAs (Decidable (_ → ∀ other < psMaxTaskType, _))

instance (irq : Irq) (dsp : Dsp) (pri : Nat) (message : FeConfig) : Decidable (BindsIdle irq dsp pri message) :=
  inferInstanceAs (Decidable (_ → _ ∧ (_ → ∀ other < psMaxTaskType, _)))

instance (irq : Irq) (dsp : Dsp) : ∀ event, Decidable (KeepsChain irq dsp event)
  | .taskStart _ | .taskStop _ | .feConfig _ _ => inferInstanceAs (Decidable (∀ pri < psMaxTaskType, _ → _))

theorem chained_nil_last (next : Nat → Link Nat Vector) (vector stop : Vector) (chained : Chained next (vectorLink vector) [] stop) :
    vector = stop := by
  unfold vectorLink at chained
  split at chained
  · cases chained
  · cases chained
    rfl

theorem chained_cons_head (next : Nat → Link Nat Vector) (vector stop : Vector) (head : Nat) (rest : List Nat)
    (chained : Chained next (vectorLink vector) (head :: rest) stop) :
    vector = ⟨.trigger, head⟩ ∧ Chained next (next head) rest stop := by
  unfold vectorLink at chained
  split at chained
  · rename_i link
    obtain ⟨handler, arg⟩ := vector
    obtain ⟨rfl, positive, -⟩ := link
    cases chained with
    | node _ _ _ tail =>
        refine ⟨?_, tail⟩
        rw [Int.toNat_of_nonneg positive]
  · cases chained

section Frame

variable (irq : Irq) (dsp next : Dsp) (visited : List Nat) (arg : Int)

-- What does not touch the line's vector or its running tasks keeps the chain.
theorem line_chain_frame (inv : LineChain irq dsp visited arg) (vector : next.vectors irq = dsp.vectors irq)
    (line : next.enabled irq = dsp.enabled irq) (same : ∀ pri, RunsOn next irq pri ↔ RunsOn dsp irq pri)
    (links : ∀ pri, RunsOn dsp irq pri → taskVector (next.tasks pri) = taskVector (dsp.tasks pri)) :
    LineChain irq next visited arg := by
  refine ⟨?_, fun pri => (inv.members pri).trans (same pri).symm, fun nonempty => line.trans (inv.enabled nonempty)⟩
  rw [vector]
  refine chained_frame (taskLink dsp) _ visited _ (taskLink next) ?_ inv.chained
  intro pri member
  rw [taskLink, links pri ((inv.members pri).mp member), taskLink]

theorem line_chain_driver (driver : (next.vectors irq).handler = driverHandler irq) (idle : ∀ pri, ¬ RunsOn next irq pri) :
    LineChain irq next [] (next.vectors irq).arg := by
  refine ⟨?_, fun pri => ⟨fun member => absurd member List.not_mem_nil, fun runs => absurd runs (idle pri)⟩,
    fun nonempty => absurd rfl nonempty⟩
  rw [vector_link_last _ (by rw [driver]; exact driver_not_trigger irq), ← driver]
  exact .last _

theorem line_chain_served (inv : LineChain irq dsp visited arg) : LineServed irq dsp := by
  have distinct := chained_nodup _ _ _ _ inv.chained
  have short : visited.length ≤ psMaxTaskType := by
    have inside : visited ⊆ List.range psMaxTaskType := fun pri member =>
      List.mem_range.mpr ((inv.members pri).mp member).1
    simpa using (distinct.subperm inside).length_le
  have walked := walk_of_chained _ _ _ _ inv.chained psMaxTaskType short
  refine ⟨⟨visited, arg, walked, distinct, inv.members⟩, ?_, ?_⟩
  · intro ⟨pri, runs⟩
    exact inv.enabled (List.ne_nil_of_mem ((inv.members pri).mpr runs))
  · intro registers next taken
    simp only [takeInterrupt, interruptWalk, walked, Option.bind_eq_bind, Option.bind_some] at taken
    obtain ⟨driven, ran, done⟩ := Option.bind_eq_some_iff.mp taken
    cases done
    refine ⟨driven, ran, rfl, fun pri inTable => ?_⟩
    have limit : psMaxTaskType < 64 := by decide
    have ready : driven.ready = dsp.ready := by rw [run_driver_frame dsp driven registers _ ran]
    simp only [ready]
    rw [ready_fold dsp.ready visited.reverse pri ?_ (by omega), List.mem_reverse, inv.members]
    intro id member
    have inside := ((inv.members id).mp (List.mem_reverse.mp member)).1
    omega

end Frame

section Step

variable (irq : Irq) (dsp next : Dsp) (pri : Nat) (visited : List Nat) (arg : Int)

theorem line_vector_cases (inv : LineChain irq dsp visited arg) :
    (visited = [] ∧ (dsp.vectors irq).handler = driverHandler irq) ∨
      ∃ head rest, visited = head :: rest ∧ dsp.vectors irq = ⟨.trigger, head⟩ := by
  cases visited with
  | nil =>
      refine .inl ⟨rfl, ?_⟩
      rw [chained_nil_last _ _ _ inv.chained]
  | cons head rest => exact .inr ⟨head, rest, rfl, (chained_cons_head _ _ _ head rest inv.chained).1⟩

theorem started_runs_on (inTable : pri < psMaxTaskType) (other : Nat) :
    RunsOn (startedTask dsp pri) irq other ↔ (other = pri ∧ (dsp.tasks pri).irqNum = irq) ∨ (other ≠ pri ∧ RunsOn dsp irq other) := by
  by_cases same : other = pri
  · subst same
    simp [RunsOn, Running, inTable]
  · simp [RunsOn, Running, started_task_other dsp pri other same, same]

theorem start_keeps_chain (inTable : pri < psMaxTaskType) (inv : LineChain irq dsp visited arg)
    (atHead : StartsAtHead irq dsp pri) (outcome : StartOutcome dsp pri next) :
    ∃ visited arg, LineChain irq next visited arg := by
  cases outcome with
  | refused same => exact ⟨visited, arg, same ▸ inv⟩
  | noHandler isReady null same =>
      subst same
      have other : irq ≠ (dsp.tasks pri).irqNum := by
        intro bound
        rw [← bound] at null
        rcases line_vector_cases irq dsp visited arg inv with ⟨-, driver⟩ | ⟨head, rest, -, vector⟩
        · rw [null] at driver
          revert driver
          cases irq <;> decide
        · rw [vector] at null
          cases null
      exact ⟨visited, arg, line_chain_frame irq dsp _ visited arg inv (Function.update_of_ne other _ _) rfl
        (fun _ => Iff.rfl) fun _ _ => rfl⟩
  | started isReady present same =>
      subst same
      have outside : ¬ RunsOn dsp irq pri := fun runs => by
        have running := runs.2.1
        rw [Running, isReady] at running
        cases running
      have apart : ∀ other, RunsOn dsp irq other → other ≠ pri := fun other runs same => outside (same ▸ runs)
      have links : ∀ other, RunsOn dsp irq other → taskVector ((startedTask dsp pri).tasks other) = taskVector (dsp.tasks other) :=
        fun other runs => by rw [started_task_other dsp pri other (apart other runs)]
      by_cases bound : (dsp.tasks pri).irqNum = irq
      · have vector : (startedTask dsp pri).vectors irq = ⟨.trigger, pri⟩ := by
          rw [← bound]
          exact Function.update_self _ _ _
        have line : (startedTask dsp pri).enabled irq = true := by
          rw [← bound]
          exact Function.update_self _ _ _
        have members : ∀ other, other ∈ pri :: visited ↔ RunsOn (startedTask dsp pri) irq other := fun other => by
          rw [started_runs_on irq dsp pri inTable, List.mem_cons, inv.members]
          constructor
          · rintro (same | runs)
            · exact .inl ⟨same, bound⟩
            · exact .inr ⟨apart other runs, runs⟩
          · rintro (⟨same, -⟩ | ⟨-, runs⟩)
            · exact .inl same
            · exact .inr runs
        have old : Chained (taskLink (startedTask dsp pri)) (vectorLink (dsp.vectors irq)) visited ⟨driverHandler irq, arg⟩ := by
          refine chained_frame (taskLink dsp) _ visited _ _ (fun other member => ?_) inv.chained
          rw [taskLink, links other ((inv.members other).mp member), taskLink]
        have entry := started_task_same dsp pri
        rw [bound] at entry
        rcases line_vector_cases irq dsp visited arg inv with ⟨rfl, driver⟩ | ⟨head, rest, rfl, trigger⟩
        · refine ⟨[pri], -1, ?_, members, fun _ => line⟩
          rw [vector, vector_link_trigger pri inTable]
          refine .node pri [] _ ?_
          rw [taskLink, entry, driver, if_neg (driver_not_trigger irq), taskVector, vector_link_last _ (driver_not_trigger irq)]
          exact .last _
        · refine ⟨pri :: head :: rest, arg, ?_, members, fun _ => line⟩
          rw [vector, vector_link_trigger pri inTable]
          refine .node pri (head :: rest) _ ?_
          have latest := atHead isReady bound (by rw [trigger])
          rw [taskLink, entry, trigger, if_pos rfl, latest, trigger, taskVector, ← trigger]
          exact old
      · refine ⟨visited, arg, line_chain_frame irq dsp _ visited arg inv (Function.update_of_ne (Ne.symm bound) _ _)
          (Function.update_of_ne (Ne.symm bound) _ _) (fun other => ?_) links⟩
        rw [started_runs_on irq dsp pri inTable]
        exact ⟨fun runs => runs.elim (fun found => absurd found.2 bound) And.right, fun runs => .inr ⟨apart other runs, runs⟩⟩

theorem last_task_driver (inv : LineChain irq dsp visited arg) (runs : RunsOn dsp irq pri)
    (last : ∀ other < psMaxTaskType, RunsOn dsp irq other → other = pri) : (dsp.tasks pri).intrHandler = driverHandler irq := by
  have only : ∀ other ∈ visited, other = pri := fun other member =>
    last other ((inv.members other).mp member).1 ((inv.members other).mp member)
  have distinct := chained_nodup _ _ _ _ inv.chained
  cases visited with
  | nil => exact absurd ((inv.members pri).mpr runs) List.not_mem_nil
  | cons head rest =>
      obtain ⟨-, tail⟩ := chained_cons_head _ _ _ head rest inv.chained
      have isHead := only head List.mem_cons_self
      have alone : rest = [] := List.eq_nil_iff_forall_not_mem.mpr fun other member => by
        have again := only other (List.mem_cons_of_mem head member)
        rw [again, ← isHead] at member
        exact (List.nodup_cons.mp distinct).1 member
      rw [alone, isHead] at tail
      have vector := chained_nil_last _ (taskVector (dsp.tasks pri)) _ tail
      exact congrArg Vector.handler vector

theorem stop_keeps_chain (inTable : pri < psMaxTaskType) (inv : LineChain irq dsp visited arg) (last : StopsLast irq dsp pri)
    (outcome : StopOutcome dsp pri next) : ∃ visited arg, LineChain irq next visited arg := by
  cases outcome with
  | refused same => exact ⟨visited, arg, same ▸ inv⟩
  | stopped running same =>
      subst same
      have runs : ∀ other, RunsOn (stoppedTask dsp pri) irq other ↔ other ≠ pri ∧ RunsOn dsp irq other := fun other => by
        by_cases same : other = pri
        · subst same
          simp [RunsOn, Running, stoppedTask]
        · rw [RunsOn, Running, stoppedTask, modify_task_other _ _ _ _ same]
          exact ⟨fun found => ⟨same, found⟩, And.right⟩
      by_cases bound : (dsp.tasks pri).irqNum = irq
      · have runsOn : RunsOn dsp irq pri := ⟨inTable, running, bound⟩
        have idle : ∀ other, ¬ RunsOn (stoppedTask dsp pri) irq other := fun other found => by
          obtain ⟨different, found⟩ := (runs other).mp found
          exact different (last runsOn other found.1 found)
        have vector : (stoppedTask dsp pri).vectors irq = ⟨(dsp.tasks pri).intrHandler, pri⟩ := by
          rw [← bound]
          exact Function.update_self _ _ _
        have driver : ((stoppedTask dsp pri).vectors irq).handler = driverHandler irq := by
          rw [vector]
          exact last_task_driver irq dsp pri visited arg inv runsOn (last runsOn)
        exact ⟨[], _, line_chain_driver irq _ driver idle⟩
      · refine ⟨visited, arg, line_chain_frame irq dsp _ visited arg inv (Function.update_of_ne (Ne.symm bound) _ _)
          (Function.update_of_ne (Ne.symm bound) _ _) (fun other => ?_) fun other found => ?_⟩
        · rw [runs]
          exact ⟨And.right, fun found => ⟨fun same => bound (same ▸ found.2.2), found⟩⟩
        · have different : other ≠ pri := fun same => bound (same ▸ found.2.2)
          rw [stoppedTask, modify_task_other _ _ _ _ different]
          rfl

theorem update_runs_on (other : Nat) : RunsOn (updateTaskStatus dsp pri) irq other ↔ RunsOn dsp irq other := by
  by_cases same : other = pri
  · subst same
    simp [RunsOn, Running, updateTaskStatus, updated_status_runing]
  · rw [RunsOn, Running, updateTaskStatus, modify_task_other _ _ _ _ same]
    rfl

theorem update_task_vector (other : Nat) : taskVector ((updateTaskStatus dsp pri).tasks other) = taskVector (dsp.tasks other) :=
  modify_task_keeps dsp pri other _ taskVector rfl

theorem update_line_chain (inv : LineChain irq dsp visited arg) : LineChain irq (updateTaskStatus dsp pri) visited arg :=
  line_chain_frame irq dsp _ visited arg inv rfl rfl (update_runs_on irq dsp pri) fun other _ => update_task_vector dsp pri other

theorem fe_keeps_chain (inv : LineChain irq dsp visited arg) (message : FeConfig) (idle : BindsIdle irq dsp pri message)
    (outcome : FeOutcome dsp pri message next) : ∃ visited arg, LineChain irq next visited arg := by
  cases outcome with
  | refused isp vipre same =>
      subst same
      exact ⟨visited, arg, line_chain_frame irq dsp _ visited arg inv rfl rfl (fun _ => Iff.rfl) fun _ _ => rfl⟩
  | cpu same => exact ⟨visited, arg, same ▸ update_line_chain irq dsp pri visited arg inv⟩
  | bound isp vipre high line fe check asked valid named known same =>
      subst same
      obtain ⟨stopped, free⟩ := idle (by rw [asked]; exact Option.some_ne_none line)
      generalize placed : modifyTask (registerDriver { dsp with isp := isp, vipre := vipre, highPriTask := high } line
        (driverHandler line)) pri (fun task => boundTask task fe check line) = bound
      have runs : ∀ other, RunsOn bound irq other ↔ RunsOn dsp irq other := fun other => by
        subst placed
        by_cases same : other = pri
        · subst same
          simp [RunsOn, Running, boundTask, registerDriver, stopped]
        · rw [RunsOn, Running, modify_task_other _ _ _ _ same]
          rfl
      have vectors : bound.vectors = Function.update dsp.vectors line ⟨driverHandler line, 0⟩ := by subst placed; rfl
      have lines : bound.enabled = Function.update dsp.enabled line true := by subst placed; rfl
      by_cases here : irq = line
      · subst here
        have empty : ∀ other, ¬ RunsOn bound irq other := fun other found =>
          free asked other ((runs other).mp found).1 ((runs other).mp found)
        have driver : (bound.vectors irq).handler = driverHandler irq := by rw [vectors, Function.update_self]
        exact ⟨[], _, update_line_chain irq bound pri [] _ (line_chain_driver irq bound driver empty)⟩
      · refine ⟨visited, arg, update_line_chain irq bound pri visited arg
          (line_chain_frame irq dsp bound visited arg inv ?_ ?_ runs fun other found => ?_)⟩
        · rw [vectors, Function.update_of_ne here]
        · rw [lines, Function.update_of_ne here]
        · subst placed
          exact modify_task_keeps _ pri other _ taskVector rfl

end Step

section Run

variable (irq : Irq)

theorem chain_step_inv (dsp next : Dsp) (event : ChainCommand) (inv : LineInv irq dsp) (keeps : KeepsChain irq dsp event)
    (taken : chainStep dsp event = some next) : LineInv irq next := by
  obtain ⟨inTable, visited, arg, chain⟩ := inv
  unfold chainStep at taken
  cases found : dspSearchTaskById dsp event.id with
  | none => simp [found] at taken
  | some pri =>
      have small := inTable _ _ (search_listed dsp event.id pri found)
      have kept := keeps pri small found
      simp only [found, Option.ite_none_right_eq_some, Option.map_eq_some_iff] at taken
      obtain ⟨-, ⟨result, reply⟩, done, rfl⟩ := taken
      cases event with
      | taskStart id =>
          have outcome := start_outcome dsp id pri found result reply (Option.some.inj done)
          refine ⟨?_, start_keeps_chain irq dsp result pri visited arg small chain kept outcome⟩
          cases outcome <;> (rename_i same; subst same; exact inTable)
      | taskStop id =>
          have outcome := stop_outcome dsp id pri found result reply (Option.some.inj done)
          refine ⟨?_, stop_keeps_chain irq dsp result pri visited arg small chain kept outcome⟩
          cases outcome <;> (rename_i same; subst same; exact inTable)
      | feConfig id message =>
          have outcome := fe_outcome dsp id pri found result reply message done
          refine ⟨?_, fe_keeps_chain irq dsp result pri visited arg chain message kept outcome⟩
          cases outcome <;> (rename_i same; subst same; exact inTable)

-- In a run of commands that keep the chain, the line is always served.
theorem interrupt_line_served (start finish : Dsp) (events : List ChainCommand) (configured : LineConfigured irq start)
    (keeps : Runs.Guarded chainStep (KeepsChain irq) start events) (ran : Runs.run chainStep start events = some finish) :
    LineServed irq finish := by
  have initial : LineInv irq start :=
    ⟨configured.inTable, [], _, line_chain_driver irq start configured.driver configured.idle⟩
  obtain ⟨-, visited, arg, chain⟩ := Runs.guarded_run_invariant chainStep (KeepsChain irq) (LineInv irq)
    (fun state event next inv kept taken => chain_step_inv irq state next event inv kept taken)
    start finish events initial keeps ran
  exact line_chain_served irq finish visited arg chain

end Run

-- Three hardware tasks that are READY on the line of the VIPRE.
def threeReadyTasks : Dsp :=
  let dsp := registerDriver (initDsp anyCmd anyReport) .vipre .vipre
  { dsp with
    tasks := fun index => if index < 3 then { dsp.tasks index with
      type := .hwToSw, status := .ready, fe := ⟨.vipre, 0, some .vipre⟩, irqNum := .vipre } else dsp.tasks index
    taskHandler := fun id => [3, 15, 0, 1, 2][id]?
    taskNum := 5 }

theorem three_ready_configured : LineConfigured .vipre threeReadyTasks := by
  refine ⟨.inr (.inr rfl), ?_, ?_, rfl⟩
  · intro id pri found
    have entries : ∀ entry ∈ [3, 15, 0, 1, 2], entry < psMaxTaskType := by decide
    exact entries pri (List.mem_of_getElem? found)
  · intro pri runs
    have idle : ∀ entry < psMaxTaskType, ¬ RunsOn threeReadyTasks .vipre entry := by decide
    exact idle pri runs.1 runs

theorem interrupt_line_served_descending :
    LineServed .vipre ((Runs.run chainStep threeReadyTasks [.taskStart 4, .taskStart 3, .taskStart 2]).get (by decide)) :=
  interrupt_line_served .vipre threeReadyTasks _ _ three_ready_configured (by decide) (Option.some_get _).symm

-- Started in the order of the table, the third task is linked to the first, and
-- the second one is never woken.
theorem interrupt_line_cut : ¬ ∀ (start finish : Dsp) (events : List ChainCommand), LineConfigured .vipre start →
    Runs.run chainStep start events = some finish → LineServed .vipre finish := by
  intro claim
  let events : List ChainCommand := [.taskStart 2, .taskStart 3, .taskStart 4]
  have served := claim threeReadyTasks ((Runs.run chainStep threeReadyTasks events).get (by decide)) events
    three_ready_configured (Option.some_get _).symm
  obtain ⟨visited, arg, walked, -, members⟩ := served.walks
  have shortcut : interruptWalk ((Runs.run chainStep threeReadyTasks events).get (by decide)) .vipre =
      some ([2, 0], ⟨.vipre, -1⟩) := by decide
  rw [shortcut] at walked
  cases walked
  exact absurd ((members 1).mpr (by decide)) (by decide)

end CsiDsp
