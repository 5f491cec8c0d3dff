import Mathlib.Data.Fintype.EquivFin
import CsiDsp.QuietCommands
import CsiDsp.TaskStatus

set_option autoImplicit false

namespace CsiDsp

-- A command for the entry of a task, other than TASK_FREE, leaves the list of
-- the scheduler as it is and says nothing about who owns the entry.
structure KeepsPlaces (pri : Nat) (dsp next : Dsp) : Prop where
  handlers : next.taskHandler = dsp.taskHandler
  count : next.taskNum = dsp.taskNum
  others : ∀ other, other ≠ pri → next.tasks other = dsp.tasks other
  kind : (next.tasks pri).type = (dsp.tasks pri).type
  free : (next.tasks pri).status = .free ↔ (dsp.tasks pri).status = .free
  pro : (next.tasks pri).taskPro = (dsp.tasks pri).taskPro

section Places

variable (pri : Nat) (dsp middle next : Dsp)

theorem places_same (handlers : next.taskHandler = dsp.taskHandler) (count : next.taskNum = dsp.taskNum)
    (tasks : next.tasks = dsp.tasks) : KeepsPlaces pri dsp next :=
  ⟨handlers, count, fun _ _ => by rw [tasks], by rw [tasks], by rw [tasks], by rw [tasks]⟩

theorem places_trans (first : KeepsPlaces pri dsp middle) (second : KeepsPlaces pri middle next) : KeepsPlaces pri dsp next :=
  ⟨second.handlers.trans first.handlers, second.count.trans first.count,
    fun other different => (second.others other different).trans (first.others other different),
    second.kind.trans first.kind, second.free.trans first.free, second.pro.trans first.pro⟩

theorem places_modify (change : DspTask → DspTask) (kind : (change (dsp.tasks pri)).type = (dsp.tasks pri).type)
    (free : (change (dsp.tasks pri)).status = .free ↔ (dsp.tasks pri).status = .free)
    (pro : (change (dsp.tasks pri)).taskPro = (dsp.tasks pri).taskPro) : KeepsPlaces pri dsp (modifyTask dsp pri change) := by
  refine ⟨rfl, rfl, fun other different => modify_task_other dsp pri other change different, ?_, ?_, ?_⟩
  · rw [modify_task_same, kind]
  · rw [modify_task_same, free]
  · rw [modify_task_same, pro]

theorem places_update : KeepsPlaces pri dsp (updateTaskStatus dsp pri) :=
  places_modify pri dsp _ rfl (updated_status_free _) rfl

theorem places_algo (work : AlgoEnd pri dsp next) : KeepsPlaces pri dsp next := by
  have changed (last : Dsp) (before : AlgoWork pri dsp last) : KeepsPlaces pri dsp last := by
    obtain ⟨algo, heap, rfl⟩ := before
    exact places_trans pri dsp _ _ (places_modify pri dsp (fun task => { task with algo := algo }) rfl .rfl rfl)
      (places_same pri _ _ rfl rfl rfl)
  rcases work with work | ⟨last, work, rfl⟩
  · exact changed next work
  · exact places_trans pri dsp last _ (changed last work) (places_update pri last)

theorem places_start (outcome : StartOutcome dsp pri next) : KeepsPlaces pri dsp next := by
  cases outcome with
  | refused same => exact same ▸ places_same pri dsp dsp rfl rfl rfl
  | noHandler isReady null same =>
      subst same
      exact places_same pri dsp _ rfl rfl rfl
  | started isReady present same =>
      subst same
      have entry := started_task_same dsp pri
      refine ⟨rfl, rfl, fun other different => started_task_other dsp pri other different, ?_, ?_, ?_⟩
      · rw [entry]
      · simp [isReady]
      · rw [entry]

theorem places_stop (outcome : StopOutcome dsp pri next) : KeepsPlaces pri dsp next := by
  cases outcome with
  | refused same => exact same ▸ places_same pri dsp dsp rfl rfl rfl
  | stopped running same =>
      subst same
      have status : (dsp.tasks pri).status = .runing := running
      exact places_trans pri dsp (psTaskInterruptDisable dsp pri (dsp.tasks pri).irqNum) _ (places_same pri dsp _ rfl rfl rfl)
        (places_modify pri _ _ rfl (by simp [psTaskInterruptDisable, disableLine, reinstallOld, status]) rfl)

theorem places_fe (message : FeConfig) (outcome : FeOutcome dsp pri message next) : KeepsPlaces pri dsp next := by
  cases outcome with
  | refused isp vipre same =>
      subst same
      exact places_same pri dsp _ rfl rfl rfl
  | cpu same =>
      subst same
      exact places_update pri dsp
  | bound isp vipre high line fe check asked valid named known same =>
      subst same
      let registered := registerDriver { dsp with isp := isp, vipre := vipre, highPriTask := high } line (driverHandler line)
      exact places_trans pri dsp registered _ (places_same pri dsp _ rfl rfl rfl)
        (places_trans pri registered _ _ (places_modify pri registered _ rfl .rfl rfl) (places_update pri _))

theorem places_be (id : Nat) (message : BeConfig) (reply : Reply) (found : dspSearchTaskById dsp id = some pri)
    (done : dspTaskBeConfig dsp id message = some (next, reply)) : KeepsPlaces pri dsp next := by
  have placed (last : Dsp) (before : KeepsPlaces pri dsp last) (be : DspTask → DspBeHandler) :
      KeepsPlaces pri dsp (updateTaskStatus (modifyTask last pri fun task => { task with be := be task }) pri) :=
    places_trans pri dsp last _ before
      (places_trans pri last _ _ (places_modify pri last _ rfl .rfl rfl) (places_update pri _))
  cases be_configured dsp id pri found next reply message done with
  | refused same =>
      rw [same]
      exact places_same pri dsp dsp rfl rfl rfl
  | rejected handler same =>
      rw [same]
      exact places_same pri dsp _ rfl rfl rfl
  | host config bufs place heap asked block free given same =>
      rw [same]
      exact placed { dsp with heap := heap, swBe := Function.update dsp.swBe _ _ } (places_same pri dsp _ rfl rfl rfl) _
  | postIsp config handler asked same =>
      rw [same]
      exact placed (registerDriver { dsp with postIsp := handler } .postIsp .postIsp) (places_same pri dsp _ rfl rfl rfl) _

theorem places_report (id : Nat) (flag : ReportFlag) (size : Nat) (found : dspSearchTaskById dsp id = some pri) :
    KeepsPlaces pri dsp (psRegisterReportToTask dsp id flag size).1 := by
  have registered (report : DspTask → DspTaskReport) :
      KeepsPlaces pri dsp (modifyTask dsp pri fun task => { task with report := report task }) :=
    places_modify pri dsp _ rfl .rfl rfl
  rcases report_configured dsp id pri found flag size with same | ⟨report, same⟩
  · rw [same]
    exact places_same pri dsp dsp rfl rfl rfl
  · rw [same]
    exact registered report

theorem places_assgin (id : Nat) (config : SwBeConfigPar) (reply : Reply) (found : dspSearchTaskById dsp id = some pri)
    (done : dspBackendAssginBufHandler dsp id config = some (next, reply)) : KeepsPlaces pri dsp next := by
  simp only [dspBackendAssginBufHandler, found, Option.ite_none_left_eq_some] at done
  obtain ⟨_, -, same⟩ := Option.bind_eq_some_iff.mp done.2
  cases same
  exact places_same pri dsp _ rfl rfl rfl

end Places

-- What one command does to the list of the scheduler: it enters a FREE entry,
-- or takes one off the list, or leaves the list alone.
inductive PlacesOutcome (dsp : Dsp) (command : Command) (reply : Reply) (next : Dsp) : Prop where
  | kept (pri : Nat) (work : KeepsPlaces pri dsp next)
  | alloc (mode : Option TaskMode) (registered : Bool) (asked : command = .taskAlloc mode registered)
      (same : (next, reply) = psCreateTask dsp mode registered)
  | free (id pri : Nat) (asked : command = .taskFree id) (found : dspSearchTaskById dsp id = some pri)
      (same : (next, reply) = psDestroyTask dsp id)

-- A command for a task works on its entry, and only TASK_FREE takes it off the
-- list.
theorem places_command (dsp next : Dsp) (command : Command) (id pri : Nat) (reply : Reply) (asked : command.id = some id)
    (found : dspSearchTaskById dsp id = some pri) (other : command ≠ .taskFree id)
    (done : psCommonCommand dsp command = some (next, reply)) : KeepsPlaces pri dsp next := by
  cases command with
  | taskAlloc => cases asked
  | taskFree =>
      cases asked
      exact absurd rfl other
  | taskStart =>
      cases asked
      exact places_start pri dsp next (start_outcome dsp _ pri found _ _ (Option.some.inj done))
  | taskStop =>
      cases asked
      exact places_stop pri dsp next (stop_outcome dsp _ pri found _ _ (Option.some.inj done))
  | feConfig _ message =>
      cases asked
      exact places_fe pri dsp next message (fe_outcome dsp _ pri found _ reply message done)
  | beConfig _ message =>
      cases asked
      exact places_be pri dsp next _ message reply found done
  | algoConfig _ message env =>
      cases asked
      exact places_algo pri dsp next (config_work dsp next _ pri reply message env found done).1
  | algoLoad _ algoId env =>
      cases asked
      exact places_algo pri dsp next (.inl (load_work dsp next _ pri reply algoId env found done).1)
  | reportConfig _ flag size =>
      cases asked
      have work := places_report pri dsp id flag size found
      rw [Option.some.inj done] at work
      exact work
  | beAssginBuf _ config =>
      cases asked
      exact places_assgin pri dsp next _ config reply found done

theorem places_outcome (dsp next : Dsp) (command : Command) (reply : Reply)
    (done : psCommonCommand dsp command = some (next, reply)) : PlacesOutcome dsp command reply next := by
  have named (id : Nat) (asked : command.id = some id) (other : command ≠ .taskFree id) : PlacesOutcome dsp command reply next := by
    cases found : dspSearchTaskById dsp id with
    | none =>
        rw [unknown_task dsp next command id reply asked found done]
        exact .kept 0 (places_same 0 dsp dsp rfl rfl rfl)
    | some pri => exact .kept pri (places_command dsp next command id pri reply asked found other done)
  cases command with
  | taskAlloc mode registered => exact .alloc mode registered rfl (Option.some.inj done).symm
  | taskFree id =>
      cases found : dspSearchTaskById dsp id with
      | none =>
          rw [unknown_task dsp next _ id reply rfl found done]
          exact .kept 0 (places_same 0 dsp dsp rfl rfl rfl)
      | some pri => exact .free id pri rfl found (Option.some.inj done).symm
  | taskStart | taskStop | feConfig | beConfig | algoConfig | algoLoad | reportConfig | beAssginBuf =>
      exact named _ rfl (fun same => by cases same)

-- The taken places of the scheduler's list name the entries that are in use,
-- each once, and an entry never changes its class.
structure NamesFaithful (dsp : Dsp) : Prop where
  slots : SlotInv dsp
  listed : ∀ pri < psMaxTaskType, (dsp.tasks pri).status ≠ .free → ∃ id, dsp.taskHandler id = some pri
  bounded : dsp.taskNum ≤ psMaxTaskType
  classes : ∀ pri, (dsp.tasks pri).type.isHw = decide (pri < 3) ∧ (dsp.tasks pri).type.isSw = !decide (pri < 3)

section Names

variable (dsp next : Dsp) (pri : Nat) (names : NamesFaithful dsp)

-- As many distinct names as there are places leave no entry out.
theorem empty_place (slots : Nat → Option Nat) (count : Nat) (inTable : ∀ id owner, slots id = some owner → owner < count)
    (single : ∀ id other owner, slots id = some owner → slots other = some owner → id = other) (inside : pri < count)
    (missing : ∀ id, slots id ≠ some pri) : ∃ id < count, slots id = none := by
  by_contra full
  have taken : ∀ id : Fin count, ∃ owner : Fin count, slots id = some owner.val := by
    intro id
    cases found : slots id with
    | none => exact absurd ⟨id, id.isLt, found⟩ full
    | some owner => exact ⟨⟨owner, inTable id owner found⟩, rfl⟩
  choose owner held using taken
  have distinct : Function.Injective owner := fun first second same =>
    Fin.ext (single first second (owner second).val (same ▸ held first) (held second))
  obtain ⟨id, same⟩ := Finite.surjective_of_injective distinct ⟨pri, inside⟩
  exact missing id (by rw [held id, same])

theorem names_kept (work : KeepsPlaces pri dsp next) (names : NamesFaithful dsp) : NamesFaithful next := by
  have free : ∀ other, (next.tasks other).status = .free ↔ (dsp.tasks other).status = .free := by
    intro other
    by_cases same : other = pri
    · exact same ▸ work.free
    · rw [work.others other same]
  have kind : ∀ other, (next.tasks other).type = (dsp.tasks other).type := by
    intro other
    by_cases same : other = pri
    · exact same ▸ work.kind
    · rw [work.others other same]
  refine ⟨slot_inv_same dsp next names.slots work.handlers work.count fun id other placed => ?_, fun other inTable used => ?_,
    work.count ▸ names.bounded, fun other => kind other ▸ names.classes other⟩
  · exact fun freed => (names.slots.placed id other placed).2.2 ((free other).mp freed)
  · rw [work.handlers]
    exact names.listed other inTable fun freed => used ((free other).mpr freed)

include names

theorem free_unlisted (free : (dsp.tasks pri).status = .free) (id : Nat) : dsp.taskHandler id ≠ some pri :=
  fun placed => (names.slots.placed id pri placed).2.2 free

theorem above_count (id : Nat) (above : dsp.taskNum ≤ id) : dsp.taskHandler id = none := by
  cases placed : dsp.taskHandler id with
  | none => rfl
  | some owner => exact absurd (names.slots.placed id owner placed).2.1 (Nat.not_lt.mpr above)

-- dsp_add_task_to_scheduler takes an empty place, and there is one for every
-- entry that is not on the list.
theorem add_takes_place (inTable : pri < psMaxTaskType) (unlisted : ∀ id, dsp.taskHandler id ≠ some pri) :
    ∃ place count, dspAddTaskToScheduler dsp pri = some ({ dsp with
        taskHandler := Function.update dsp.taskHandler place (some pri), taskNum := count }, place) ∧
      dsp.taskHandler place = none ∧ place < count ∧ dsp.taskNum ≤ count ∧ count ≤ psMaxTaskType := by
  rw [dspAddTaskToScheduler]
  split
  · rename_i full
    have count : dsp.taskNum = psMaxTaskType := Nat.le_antisymm names.bounded full
    cases found : (List.range dsp.taskNum).find? fun place => dsp.taskHandler place == none with
    | none =>
        obtain ⟨place, inside, empty⟩ := empty_place pri dsp.taskHandler psMaxTaskType
          (fun id owner placed => (names.slots.placed id owner placed).1) names.slots.single inTable unlisted
        have taken := List.find?_eq_none.mp found place (List.mem_range.mpr (count ▸ inside))
        simp [empty] at taken
    | some place =>
        have empty := List.find?_some found
        simp only [beq_iff_eq] at empty
        have inside := List.mem_range.mp (List.mem_of_find?_eq_some found)
        exact ⟨place, dsp.taskNum, rfl, empty, inside, Nat.le_refl _, names.bounded⟩
  · rename_i room
    exact ⟨dsp.taskNum, dsp.taskNum + 1, rfl, above_count dsp names _ (Nat.le_refl _), Nat.lt_succ_self _, Nat.le_succ _,
      Nat.lt_of_not_ge room⟩

end Names

def TaskMode.sameClass (mode : TaskMode) (task : DspTask) : Prop := mode.isHw = task.type.isHw

-- The entry of TASK_ALLOC: only a hardware task gets a new function to run.
def allocatedTask (mode : TaskMode) (task : DspTask) : DspTask :=
  enteredTask mode (if mode.isSw then task else { task with taskPro := some .hw })

def placeTask (dsp : Dsp) (pri : Nat) (entry : DspTask) (place count : Nat) : Dsp :=
  { dsp with
    tasks := Function.update dsp.tasks pri entry
    taskHandler := Function.update dsp.taskHandler place (some pri)
    taskNum := count }

inductive CreateOutcome (dsp : Dsp) (mode : Option TaskMode) (registered : Bool) (reply : Reply) (next : Dsp) : Prop where
  | refused (failed : ∀ id, reply ≠ .created id) (same : next = dsp)
      (reason : ∀ kind, mode = some kind → registered = true →
        ∀ pri < psMaxTaskType, kind.sameClass (dsp.tasks pri) → (dsp.tasks pri).status ≠ .free)
  | created (kind : TaskMode) (pri place count : Nat) (asked : mode = some kind) (inTable : pri < psMaxTaskType)
      (free : (dsp.tasks pri).status = .free) (sameClass : kind.sameClass (dsp.tasks pri))
      (known : kind.isSw = true → registered = true) (empty : dsp.taskHandler place = none) (below : place < count)
      (grown : dsp.taskNum ≤ count) (bounded : count ≤ psMaxTaskType) (answered : reply = .created place)
      (same : next = placeTask dsp pri (allocatedTask kind (dsp.tasks pri)) place count)

section Create

variable (dsp next : Dsp) (pri : Nat) (names : NamesFaithful dsp)

theorem entered_used (mode : TaskMode) (task : DspTask) : (enteredTask mode task).status ≠ .free := by
  rw [enteredTask]
  dsimp only
  split <;> decide

theorem class_is_sw (mode : TaskMode) : mode.isSw = !mode.isHw := by
  cases mode <;> decide

theorem same_class_sw (mode : TaskMode) (software : mode.isSw = true) (task : DspTask) :
    mode.sameClass task ↔ task.type.isSw = true := by
  rw [TaskMode.sameClass]
  generalize task.type = other
  revert software
  cases mode <;> cases other <;> decide

theorem same_class_hw (mode : TaskMode) (hardware : ¬ mode.isSw = true) (task : DspTask) :
    mode.sameClass task ↔ task.type.isHw = true := by
  rw [TaskMode.sameClass]
  generalize task.type = other
  revert hardware
  cases mode <;> cases other <;> decide

theorem add_with_tasks (tasks : Nat → DspTask) : dspAddTaskToScheduler { dsp with tasks := tasks } pri =
    (dspAddTaskToScheduler dsp pri).map fun added => ({ added.1 with tasks := tasks }, added.2) := by
  simp only [dspAddTaskToScheduler]
  split
  · split <;> rfl
  · rfl

theorem no_free_task (kind : TaskMode → Bool) (missing : getFreeTask dsp kind = none) (inTable : pri < psMaxTaskType)
    (sameClass : kind (dsp.tasks pri).type = true) : (dsp.tasks pri).status ≠ .free := by
  intro free
  have refused := List.find?_eq_none.mp missing pri (List.mem_range.mpr inTable)
  simp [sameClass, free] at refused

include names

theorem enter_task_placed (mode : TaskMode) (tasks : Nat → DspTask) (inTable : pri < psMaxTaskType)
    (free : (dsp.tasks pri).status = .free) : ∃ place count, enterTask { dsp with tasks := tasks } pri mode =
        ({ dsp with
          tasks := Function.update tasks pri (enteredTask mode (tasks pri))
          taskHandler := Function.update dsp.taskHandler place (some pri)
          taskNum := count }, .created place) ∧
      dsp.taskHandler place = none ∧ place < count ∧ dsp.taskNum ≤ count ∧ count ≤ psMaxTaskType := by
  obtain ⟨place, count, added, room⟩ := add_takes_place dsp pri names inTable (free_unlisted dsp pri names free)
  refine ⟨place, count, ?_, room⟩
  simp only [enterTask, modifyTask, add_with_tasks, added, Option.map_some]

-- TASK_ALLOC enters the first FREE entry of the class.
theorem create_sw_placed (kind : TaskMode) (software : kind.isSw = true) (found : getFreeSwTask dsp = some pri) :
    ∃ place count, psCreateTask dsp (some kind) true =
        (placeTask dsp pri (allocatedTask kind (dsp.tasks pri)) place count, .created place) ∧
      dsp.taskHandler place = none ∧ place < count ∧ dsp.taskNum ≤ count ∧ count ≤ psMaxTaskType := by
  obtain ⟨inTable, -, free⟩ := free_task_found dsp pri _ found
  obtain ⟨place, count, entered, room⟩ := enter_task_placed dsp pri names kind dsp.tasks inTable free
  refine ⟨place, count, ?_, room⟩
  simp only [psCreateTask, software, found, if_true, entered, placeTask, allocatedTask]

theorem create_hw_placed (kind : TaskMode) (hardware : ¬ kind.isSw = true) (registered : Bool)
    (found : getFreeHwTask dsp = some pri) : ∃ place count, psCreateTask dsp (some kind) registered =
        (placeTask dsp pri (allocatedTask kind (dsp.tasks pri)) place count, .created place) ∧
      dsp.taskHandler place = none ∧ place < count ∧ dsp.taskNum ≤ count ∧ count ≤ psMaxTaskType := by
  obtain ⟨inTable, -, free⟩ := free_task_found dsp pri _ found
  obtain ⟨place, count, entered, room⟩ := enter_task_placed dsp pri names kind
    (Function.update dsp.tasks pri { dsp.tasks pri with taskPro := some .hw }) inTable free
  refine ⟨place, count, ?_, room⟩
  simp only [psCreateTask, if_neg hardware, found, modifyTask, entered, placeTask, allocatedTask, Function.update_self,
    Function.update_idem]

theorem create_outcome (mode : Option TaskMode) (registered : Bool) (reply : Reply)
    (done : (next, reply) = psCreateTask dsp mode registered) : CreateOutcome dsp mode registered reply next := by
  cases mode with
  | none =>
      cases done
      exact .refused (fun _ => by simp) rfl fun kind asked => (by cases asked)
  | some kind =>
      by_cases software : kind.isSw = true
      · have class_ := same_class_sw kind software
        cases found : getFreeSwTask dsp with
        | none =>
            simp only [psCreateTask, software, found, if_true] at done
            cases done
            refine .refused (fun _ => by simp) rfl fun other asked _ pri inTable sameClass => ?_
            cases asked
            exact no_free_task dsp pri _ found inTable ((class_ _).mp sameClass)
        | some pri =>
            obtain ⟨inTable, owned, free⟩ := free_task_found dsp pri _ found
            cases registered with
            | false =>
                simp only [psCreateTask, software, found, if_true] at done
                cases done
                exact .refused (fun _ => by simp) rfl fun _ _ known => absurd known (by decide)
            | true =>
                obtain ⟨place, count, made, empty, below, grown, bounded⟩ := create_sw_placed dsp pri names kind software found
                rw [made] at done
                cases done
                exact .created kind pri place count rfl inTable free ((class_ _).mpr owned) (fun _ => rfl) empty below grown bounded
                  rfl rfl
      · have class_ := same_class_hw kind software
        cases found : getFreeHwTask dsp with
        | none =>
            simp only [psCreateTask, if_neg software, found] at done
            cases done
            refine .refused (fun _ => by simp) rfl fun other asked _ pri inTable sameClass => ?_
            cases asked
            exact no_free_task dsp pri _ found inTable ((class_ _).mp sameClass)
        | some pri =>
            obtain ⟨inTable, owned, free⟩ := free_task_found dsp pri _ found
            obtain ⟨place, count, made, empty, below, grown, bounded⟩ := create_hw_placed dsp pri names kind software registered found
            rw [made] at done
            cases done
            exact .created kind pri place count rfl inTable free ((class_ _).mpr owned) (fun soft => absurd soft software) empty below
              grown bounded rfl rfl

end Create

-- TASK_FREE empties the place of the id and the entry it named.
structure DestroyOutcome (dsp : Dsp) (id pri : Nat) (next : Dsp) : Prop where
  handlers : next.taskHandler = Function.update dsp.taskHandler id none
  count : next.taskNum = if dsp.taskNum = id + 1 then dsp.taskNum - 1 else dsp.taskNum
  others : ∀ other, other ≠ pri → next.tasks other = dsp.tasks other
  entry : next.tasks pri = { dsp.tasks pri with status := .free, algo := ⟨-1, none, none⟩ }

section Steps

variable (dsp next : Dsp) (pri : Nat)

theorem destroy_outcome (id : Nat) (found : dspSearchTaskById dsp id = some pri) (reply : Reply)
    (done : (next, reply) = psDestroyTask dsp id) : DestroyOutcome dsp id pri next := by
  simp only [psDestroyTask, found] at done
  cases done
  obtain ⟨blocks, freed, -⟩ := free_algo_param_blocks pri (dspRemoveTaskFromScheduler dsp id)
  obtain ⟨same, -⟩ := free_in_same (dspRemoveTaskFromScheduler dsp id) blocks
  rw [← freed] at same
  generalize freeAlgoParam (dspRemoveTaskFromScheduler dsp id) pri = given at same
  have tasks : given.tasks = dsp.tasks := by rw [same]; rfl
  rw [releaseTask, modify_modify]
  refine ⟨by rw [same]; rfl, by rw [same]; rfl, fun other different => ?_, ?_⟩
  · rw [modify_task_other _ _ _ _ different, tasks]
  · rw [modify_task_same, tasks]

theorem names_destroyed (id : Nat) (names : NamesFaithful dsp) (found : dspSearchTaskById dsp id = some pri)
    (outcome : DestroyOutcome dsp id pri next) : NamesFaithful next := by
  have placed := search_listed dsp id pri found
  have listed (place owner : Nat) : next.taskHandler place = some owner ↔ place ≠ id ∧ dsp.taskHandler place = some owner := by
    rw [outcome.handlers]
    exact removed_listed dsp id place owner
  refine ⟨⟨fun place owner held => ?_, fun first second owner one two => ?_⟩, fun other inTable used => ?_, ?_, fun other => ?_⟩
  · obtain ⟨different, held⟩ := (listed place owner).mp held
    obtain ⟨inTable, below, used⟩ := names.slots.placed place owner held
    have apart : owner ≠ pri := fun same => different (names.slots.single place id owner held (same ▸ placed))
    refine ⟨inTable, ?_, by rw [outcome.others owner apart]; exact used⟩
    rw [outcome.count]
    split <;> omega
  · exact names.slots.single first second owner ((listed first owner).mp one).2 ((listed second owner).mp two).2
  · by_cases same : other = pri
    · rw [same, outcome.entry] at used
      exact absurd rfl used
    · rw [outcome.others other same] at used
      obtain ⟨place, held⟩ := names.listed other inTable used
      refine ⟨place, (listed place other).mpr ⟨fun here => same ?_, held⟩⟩
      rw [here, placed] at held
      exact (Option.some.inj held).symm
  · have bounded := names.bounded
    rw [outcome.count]
    split <;> omega
  · by_cases same : other = pri
    · rw [same, outcome.entry]
      exact names.classes pri
    · rw [outcome.others other same]
      exact names.classes other

theorem names_placed (mode : TaskMode) (place count : Nat) (names : NamesFaithful dsp) (inTable : pri < psMaxTaskType)
    (free : (dsp.tasks pri).status = .free) (sameClass : mode.sameClass (dsp.tasks pri)) (below : place < count)
    (grown : dsp.taskNum ≤ count) (bounded : count ≤ psMaxTaskType) (empty : dsp.taskHandler place = none) :
    NamesFaithful (placeTask dsp pri (allocatedTask mode (dsp.tasks pri)) place count) := by
  have unlisted := free_unlisted dsp pri names free
  have taken (id owner : Nat) (here : id ≠ place) (placed : Function.update dsp.taskHandler place (some pri) id = some owner) :
      dsp.taskHandler id = some owner := by
    rwa [Function.update_of_ne here] at placed
  refine ⟨⟨fun id owner placed => ?_, fun first second owner one two => ?_⟩, fun other small used => ?_, bounded, fun other => ?_⟩
  · by_cases here : id = place
    · simp only [placeTask, here, Function.update_self, Option.some.injEq] at placed
      subst placed
      simp only [placeTask, here, Function.update_self, allocatedTask]
      exact ⟨inTable, below, entered_used mode _⟩
    · have before := taken id owner here placed
      obtain ⟨small, under, used⟩ := names.slots.placed id owner before
      have apart : owner ≠ pri := fun same => unlisted id (same ▸ before)
      simp only [placeTask, Function.update_of_ne apart]
      exact ⟨small, Nat.lt_of_lt_of_le under grown, used⟩
  · by_cases here : first = place
    · by_cases there : second = place
      · rw [here, there]
      · simp only [placeTask, here, Function.update_self, Option.some.injEq] at one
        exact absurd (one ▸ taken second owner there two) (unlisted second)
    · by_cases there : second = place
      · simp only [placeTask, there, Function.update_self, Option.some.injEq] at two
        exact absurd (two ▸ taken first owner here one) (unlisted first)
      · exact names.slots.single first second owner (taken first owner here one) (taken second owner there two)
  · by_cases same : other = pri
    · exact ⟨place, by rw [same]; exact Function.update_self _ _ _⟩
    · simp only [placeTask, Function.update_of_ne same] at used
      obtain ⟨id, held⟩ := names.listed other small used
      have here : id ≠ place := by
        intro here
        rw [here, empty] at held
        cases held
      exact ⟨id, (Function.update_of_ne here _ _).trans held⟩
  · by_cases same : other = pri
    · subst same
      have kind := names.classes other
      rw [class_is_sw] at kind ⊢
      simp only [placeTask, Function.update_self, allocatedTask, enteredTask]
      rw [sameClass]
      exact kind
    · simp only [placeTask, Function.update_of_ne same]
      exact names.classes other

theorem names_step (command : Command) (names : NamesFaithful dsp) (taken : statusStep dsp command = some next) :
    NamesFaithful next := by
  obtain ⟨⟨result, reply⟩, done, rfl⟩ := Option.map_eq_some_iff.mp taken
  cases places_outcome dsp result command reply done with
  | kept pri work => exact names_kept dsp result pri work names
  | alloc mode registered asked same =>
      cases create_outcome dsp result names mode registered reply same with
      | refused failed unchanged reason => exact unchanged ▸ names
      | created kind pri place count wanted inTable free sameClass known empty below grown bounded answered entered =>
          exact entered ▸ names_placed dsp pri kind place count names inTable free sameClass below grown bounded empty
  | free id pri asked found same => exact names_destroyed dsp result pri id names found (destroy_outcome dsp result pri id found reply same)

theorem search_place (names : NamesFaithful dsp) (id : Nat) : dspSearchTaskById dsp id = dsp.taskHandler id := by
  rw [dspSearchTaskById]
  split
  · rename_i beyond
    exact (above_count dsp names id (Nat.le_trans names.bounded beyond)).symm
  · rfl

-- Only TASK_FREE of an id takes its task away.
theorem id_kept (command : Command) (names : NamesFaithful dsp) (id : Nat) (found : dsp.taskHandler id = some pri)
    (other : command ≠ .taskFree id) (taken : statusStep dsp command = some next) : next.taskHandler id = some pri := by
  obtain ⟨⟨result, reply⟩, done, rfl⟩ := Option.map_eq_some_iff.mp taken
  cases places_outcome dsp result command reply done with
  | kept entry work => rw [work.handlers, found]
  | alloc mode registered asked same =>
      cases create_outcome dsp result names mode registered reply same with
      | refused failed unchanged reason => rw [unchanged, found]
      | created kind entry place count wanted inTable free sameClass known empty below grown bounded answered entered =>
          have apart : id ≠ place := by
            intro here
            rw [here, empty] at found
            cases found
          rw [entered, placeTask]
          exact (Function.update_of_ne apart _ _).trans found
  | free freed entry asked listed same =>
      have apart : id ≠ freed := fun here => other (here ▸ asked)
      rw [(destroy_outcome dsp result entry freed listed reply same).handlers, Function.update_of_ne apart, found]

theorem id_kept_run (commands : List Command) (names : NamesFaithful dsp) (id : Nat) (found : dsp.taskHandler id = some pri)
    (others : ∀ command ∈ commands, command ≠ .taskFree id) (ran : Runs.run statusStep dsp commands = some next) :
    NamesFaithful next ∧ next.taskHandler id = some pri := by
  refine Runs.guarded_run_invariant statusStep (fun _ command => command ≠ .taskFree id)
    (fun state => NamesFaithful state ∧ state.taskHandler id = some pri) ?_ dsp next commands ⟨names, found⟩ ?_ ran
  · rintro state command later ⟨held, listed⟩ other taken
    exact ⟨names_step state later command held taken, id_kept state later pri command held id listed other taken⟩
  · exact Runs.guarded_of_forall statusStep _ dsp commands fun command member _ => others command member

end Steps

theorem init_names (cmd : XrpDspCmd) (payload : ReportItem) : NamesFaithful (initDsp cmd payload) := by
  have inv := init_status_inv cmd payload
  refine ⟨inv.slots, fun pri inTable used => ?_, show 2 ≤ 16 by decide, fun pri => ?_⟩
  · by_cases common : pri = 3
    · exact ⟨0, by simp [initDsp, common]⟩
    · by_cases idle : pri = 15
      · exact ⟨1, by simp [initDsp, idle]⟩
      · simp [initDsp, tableEntry, common, idle] at used
  · have kind : ((initDsp cmd payload).tasks pri).type = if pri < 3 then .hw else .sw := by
      simp only [initDsp, tableEntry]
      split
      · rfl
      · split <;> rfl
    rw [kind]
    by_cases hardware : pri < 3 <;> simp [hardware] <;> decide

-- What the scheduler's list says about the task table.
structure ListExact (dsp : Dsp) : Prop where
  distinct : ∀ id other pri, dsp.taskHandler id = some pri → dsp.taskHandler other = some pri → id = other
  exactly : ∀ pri, (∃ id, dsp.taskHandler id = some pri) ↔ pri < psMaxTaskType ∧ (dsp.tasks pri).status ≠ .free
  bounded : dsp.taskNum ≤ psMaxTaskType
  above : ∀ id, dsp.taskNum ≤ id → dsp.taskHandler id = none

theorem list_exact_of_names (dsp : Dsp) (names : NamesFaithful dsp) : ListExact dsp := by
  refine ⟨names.slots.single, fun pri => ⟨fun ⟨id, placed⟩ => ?_, fun ⟨inTable, used⟩ => names.listed pri inTable used⟩,
    names.bounded, above_count dsp names⟩
  obtain ⟨inTable, -, used⟩ := names.slots.placed id pri placed
  exact ⟨inTable, used⟩

-- The id names one task that is in use, and no other id names it, whatever
-- commands follow that do not free the id.
def NamesUntilFreed (dsp : Dsp) (id : Nat) : Prop :=
  ∃ pri, ∀ commands last, (∀ command ∈ commands, command ≠ .taskFree id) → Runs.run statusStep dsp commands = some last →
    dspSearchTaskById last id = some pri ∧ (last.tasks pri).status ≠ .free ∧
      ∀ other, dspSearchTaskById last other = some pri → other = id

theorem created_names (dsp next : Dsp) (names : NamesFaithful dsp) (mode : Option TaskMode) (registered : Bool) (id : Nat)
    (done : psCreateTask dsp mode registered = (next, .created id)) : NamesUntilFreed next id := by
  cases create_outcome dsp next names mode registered _ done.symm with
  | refused failed => exact absurd rfl (failed id)
  | created kind pri place count wanted inTable free sameClass known empty below grown bounded answered entered =>
      cases answered
      have placed := names_placed dsp pri kind id count names inTable free sameClass below grown bounded empty
      rw [← entered] at placed
      have held : next.taskHandler id = some pri := by
        rw [entered]
        exact Function.update_self _ _ _
      refine ⟨pri, fun commands last others ran => ?_⟩
      obtain ⟨lastNames, lastHeld⟩ := id_kept_run next last pri commands placed id held others ran
      refine ⟨by rw [search_place last lastNames, lastHeld], (lastNames.slots.placed id pri lastHeld).2.2, fun other found => ?_⟩
      exact lastNames.slots.single other id pri (search_listed last other pri found) lastHeld

theorem create_fails_iff (dsp : Dsp) (names : NamesFaithful dsp) (mode : TaskMode) :
    (∀ id, (psCreateTask dsp (some mode) true).2 ≠ .created id) ↔
      ∀ pri < psMaxTaskType, mode.sameClass (dsp.tasks pri) → (dsp.tasks pri).status ≠ .free := by
  cases create_outcome dsp _ names (some mode) true _ rfl with
  | refused failed same reason => exact ⟨fun _ => reason mode rfl rfl, fun _ => failed⟩
  | created kind pri place count asked inTable free sameClass known empty below grown bounded answered same =>
      cases asked
      exact ⟨fun failed => absurd answered (failed place), fun none_ => absurd free (none_ pri inTable sameClass)⟩

-- The ids of the tasks are a faithful naming.
structure TaskIdsFaithful (dsp : Dsp) : Prop where
  list : ListExact dsp
  added : ∀ pri < psMaxTaskType, (dsp.tasks pri).status = .free → dspAddTaskToScheduler dsp pri ≠ none
  created : ∀ mode registered next id, psCreateTask dsp mode registered = (next, .created id) → NamesUntilFreed next id
  refused : ∀ mode : TaskMode, (∀ id, (psCreateTask dsp (some mode) true).2 ≠ .created id) ↔
    ∀ pri < psMaxTaskType, mode.sameClass (dsp.tasks pri) → (dsp.tasks pri).status ≠ .free

theorem task_ids_faithful (cmd : XrpDspCmd) (payload : ReportItem) (finish : Dsp) (commands : List Command)
    (ran : Runs.run statusStep (initDsp cmd payload) commands = some finish) : TaskIdsFaithful finish := by
  have names := Runs.run_invariant statusStep NamesFaithful
    (fun dsp command next held taken => names_step dsp next command held taken) _ finish commands (init_names cmd payload) ran
  refine ⟨list_exact_of_names finish names, fun pri inTable free => ?_,
    fun mode registered next id done => created_names finish next names mode registered id done, create_fails_iff finish names⟩
  obtain ⟨place, count, added, -⟩ := add_takes_place finish pri names inTable (free_unlisted finish pri names free)
  simp [added]

-- A software task, a hardware task, and the id of the first taken back.
theorem task_ids_faithful_reused : TaskIdsFaithful ((Runs.run statusStep (initDsp anyCmd anyReport)
    [.taskAlloc (some .swToSw) true, .taskAlloc (some .hwToSw) true, .taskFree 2]).get (by decide)) :=
  task_ids_faithful anyCmd anyReport _ _ (Option.some_get _).symm

end CsiDsp
