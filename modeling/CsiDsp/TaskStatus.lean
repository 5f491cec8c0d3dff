import CsiDsp.Base.Runs
import CsiDsp.TaskHeap

set_option autoImplicit false

namespace CsiDsp

-- The types of task that update_task_status makes READY once their front end,
-- back end and algorithm are there.
def TaskMode.hasFrontEnd : TaskMode → Bool
  | .hwToSw | .hwToHw => true
  | _ => false

structure Configured (dsp : Dsp) (pri : Nat) : Prop where
  fe : (dsp.tasks pri).fe.type ≠ .invalid
  be : (dsp.tasks pri).be.type ≠ .invalid
  algo : (dsp.tasks pri).algo.algoProcess ≠ none
  param : ∃ param, (dsp.tasks pri).algo.param = some param ∧ dsp.heap.live param = true ∧
    (dsp.heap.params param).bufferStructPtr ≠ none

def StatusTruthful (dsp : Dsp) : Prop :=
  ∀ pri < psMaxTaskType, (dsp.tasks pri).type.hasFrontEnd = true → (dsp.tasks pri).status ≠ .free →
    ((dsp.tasks pri).status = .ready ∨ (dsp.tasks pri).status = .runing ↔ Configured dsp pri) ∧
    (¬ Configured dsp pri → (dsp.tasks pri).status = .idel)

def statusStep (dsp : Dsp) (command : Command) : Option Dsp := (psCommonCommand dsp command).map Prod.fst

-- ALGO_CONFIG for a task with a front end updates a loaded algorithm, gets no
-- parameter block, or loads one completely. The load itself may fail while the
-- task is IDEL, and an algorithm without buffers may follow one with buffers.
def ConfigTruthful (task : DspTask) (message : AlgoConfigPar) (env : AlgoEnv) : Prop :=
  task.type.hasFrontEnd = true → (task.algo.param = none → env.paramBlock ≠ none) →
    ¬ (task.algo.param ≠ none ∧ task.algo.algoProcess ≠ none ∧ message.algoPtr = 0 ∧ message.algoId = -1) →
    match env.load with
    | none => task.status = .idel
    | some (_, 0) => task.algo.param ≠ none
    | some (_, _ + 1) => ¬ ListRefused message env

-- ALGO_LOAD does not fail once it has its parameter block. For a task with a
-- front end it gets that block or there is no algorithm yet, the algorithm has
-- buffers, and it does not complete the configuration of the task.
def LoadTruthful (task : DspTask) (env : AlgoEnv) : Prop :=
  match env.paramBlock, env.load with
  | none, _ => task.type.hasFrontEnd = true → task.algo.algoProcess = none
  | some _, none => False
  | some _, some (_, descNum) =>
      (task.type.isHw = true → descNum ≠ 0 → env.bufsBlock ≠ none) ∧
      (task.type.hasFrontEnd = true → descNum ≠ 0 ∧
        ¬ (task.status = .idel ∧ task.fe.type ≠ .invalid ∧ task.be.type ≠ .invalid))

def KeepsTruth (dsp : Dsp) (command : Command) : Prop :=
  match command with
  | .algoConfig id message env => ∀ pri < psMaxTaskType, dspSearchTaskById dsp id = some pri →
      ConfigTruthful (dsp.tasks pri) message env
  | .algoLoad id _ env => ∀ pri < psMaxTaskType, dspSearchTaskById dsp id = some pri → LoadTruthful (dsp.tasks pri) env
  | _ => True

-- What the entry of a task says, without the heap around it. The status may
-- still be behind the configuration.
structure EntrySound (params : Nat → AlgoParam) (task : DspTask) : Prop where
  valid : task.status ≠ .invalid
  freed : task.status = .free → task.algo.algoProcess = none
  algo : task.type.hasFrontEnd = true → (task.algo.algoProcess ≠ none ↔ task.algo.param ≠ none)
  bufs : task.type.hasFrontEnd = true → ∀ param, task.algo.param = some param → (params param).bufferStructPtr ≠ none
  ready : task.type.hasFrontEnd = true → task.status = .ready ∨ task.status = .runing →
    task.fe.type ≠ .invalid ∧ task.be.type ≠ .invalid ∧ task.algo.algoProcess ≠ none

structure EntryTruth (params : Nat → AlgoParam) (task : DspTask) : Prop where
  sound : EntrySound params task
  updated : task.type.hasFrontEnd = true → task.fe.type ≠ .invalid → task.be.type ≠ .invalid →
    task.algo.algoProcess ≠ none → task.status ≠ .idel

-- Every place of the scheduler's list that is taken holds a task of its own.
structure SlotInv (dsp : Dsp) : Prop where
  placed : ∀ id pri, dsp.taskHandler id = some pri → pri < psMaxTaskType ∧ id < dsp.taskNum ∧ (dsp.tasks pri).status ≠ .free
  single : ∀ id other pri, dsp.taskHandler id = some pri → dsp.taskHandler other = some pri → id = other

structure StatusInv (dsp : Dsp) : Prop where
  slots : SlotInv dsp
  truth : ∀ pri, EntryTruth dsp.heap.params (dsp.tasks pri)
  owned : HeapOwned dsp

section Entry

variable (params : Nat → AlgoParam) (task : DspTask)

theorem updated_status_front (front : task.type.hasFrontEnd = true) : updatedStatus task =
    if task.status = .idel ∧ task.fe.type ≠ .invalid ∧ task.be.type ≠ .invalid ∧ task.algo.algoProcess ≠ none then .ready
    else task.status := by
  rw [updatedStatus]
  cases kind : task.type with
  | hwToSw | hwToHw => rfl
  | swToSw | swToHw | sw | hw =>
      rw [kind] at front
      cases front

theorem entry_truth_update (sound : EntrySound params task) : EntryTruth params { task with status := updatedStatus task } := by
  have frontEnd := updated_status_front task
  refine ⟨⟨?_, fun free => sound.freed ((updated_status_free task).mp free), sound.algo, sound.bufs, fun front later => ?_⟩,
    fun front fe be algo idle => ?_⟩
  · rcases updated_status_cases task with same | ⟨-, ready⟩
    · exact same ▸ sound.valid
    · simp [ready]
  · rw [frontEnd front] at later
    split at later
    · rename_i configured
      exact configured.2
    · exact sound.ready front later
  · rw [frontEnd front] at idle
    split at idle
    · cases idle
    · rename_i open_
      exact open_ ⟨idle, fe, be, algo⟩

theorem entry_truth_switch (truth : EntryTruth params task) (status : TaskStatus)
    (before : task.status = .ready ∨ task.status = .runing) (after : status = .ready ∨ status = .runing) (handler : Handler)
    (arg : Int) : EntryTruth params { task with status := status, intrHandler := handler, intrArg := arg } := by
  obtain ⟨⟨valid, freed, algo, bufs, ready⟩, updated⟩ := truth
  refine ⟨⟨?_, ?_, algo, bufs, fun front _ => ready front before⟩, fun _ _ _ _ => ?_⟩ <;>
    rcases after with rfl | rfl <;> simp

theorem entry_truth_other (other : task.type.hasFrontEnd = false) (valid : task.status ≠ .invalid) (used : task.status ≠ .free) :
    EntryTruth params task := by
  refine ⟨⟨valid, fun free => absurd free used, ?_, ?_, ?_⟩, ?_⟩ <;>
    exact fun front => absurd (front.symm.trans other) (by decide)

theorem front_end_is_hw (mode : TaskMode) (front : mode.hasFrontEnd = true) : mode.isHw = true := by
  revert front
  cases mode <;> decide

end Entry

section Keep

variable (pri : Nat) (dsp next : Dsp) (inv : StatusInv dsp)

theorem slot_inv_same (slots : SlotInv dsp) (handlers : next.taskHandler = dsp.taskHandler) (count : next.taskNum = dsp.taskNum)
    (allocated : ∀ id other, dsp.taskHandler id = some other → (next.tasks other).status ≠ .free) : SlotInv next := by
  refine ⟨fun id other placed => ?_, fun id other owner first second => ?_⟩
  · rw [handlers] at placed
    obtain ⟨inTable, below, -⟩ := slots.placed id other placed
    exact ⟨inTable, count ▸ below, allocated id other placed⟩
  · rw [handlers] at first second
    exact slots.single id other owner first second

theorem entry_truth_params (params other : Nat → AlgoParam) (task : DspTask) (truth : EntryTruth params task)
    (same : ∀ param, task.algo.param = some param → other param = params param) : EntryTruth other task := by
  obtain ⟨⟨valid, freed, algo, bufs, ready⟩, updated⟩ := truth
  exact ⟨⟨valid, freed, algo, fun front param held => by rw [same param held]; exact bufs front param held, ready⟩, updated⟩

include inv

theorem truth_of_work (work : TaskWork pri dsp next) (truth : EntryTruth next.heap.params (next.tasks pri)) :
    ∀ other, EntryTruth next.heap.params (next.tasks other) := by
  intro other
  by_cases same : other = pri
  · exact same ▸ truth
  · rw [work.tasks other same]
    exact entry_truth_params dsp.heap.params _ _ (inv.truth other) (work.params other same)

theorem status_inv_work (work : TaskWork pri dsp next) (truth : EntryTruth next.heap.params (next.tasks pri))
    (allocated : (dsp.tasks pri).status ≠ .free → (next.tasks pri).status ≠ .free) : StatusInv next := by
  refine ⟨slot_inv_same dsp next inv.slots work.handlers work.count fun id other placed => ?_,
    truth_of_work pri dsp next inv work truth, task_work_owned pri dsp next inv.owned work⟩
  have used := (inv.slots.placed id other placed).2.2
  by_cases same : other = pri
  · subst same
    exact allocated used
  · rw [work.tasks other same]
    exact used

theorem status_inv_same (tasks : next.tasks = dsp.tasks) (handlers : next.taskHandler = dsp.taskHandler)
    (count : next.taskNum = dsp.taskNum) (heap : next.heap = dsp.heap) : StatusInv next :=
  status_inv_work 0 dsp next inv
    (task_work_plain 0 dsp next inv.owned (fun _ _ => by rw [tasks]) (by rw [tasks]) handlers count heap)
    (by rw [tasks, heap]; exact inv.truth 0) (by rw [tasks]; exact fun used => used)

theorem updated_inv (middle : Dsp) (work : TaskWork pri dsp middle) (sound : EntrySound middle.heap.params (middle.tasks pri))
    (allocated : (dsp.tasks pri).status ≠ .free → (middle.tasks pri).status ≠ .free) :
    StatusInv (updateTaskStatus middle pri) := by
  have owned := task_work_owned pri dsp middle inv.owned work
  refine status_inv_work pri dsp _ inv (task_work_trans pri dsp _ _ work (task_work_update pri middle owned)) ?_ fun used => ?_
  · rw [updateTaskStatus, modify_task_same]
    exact entry_truth_update middle.heap.params (middle.tasks pri) sound
  · rw [updateTaskStatus, modify_task_same]
    exact fun free => allocated used ((updated_status_free _).mp free)

theorem start_inv (outcome : StartOutcome dsp pri next) : StatusInv next := by
  cases outcome with
  | refused same => exact same ▸ inv
  | noHandler isReady null same =>
      subst same
      exact status_inv_same dsp _ inv rfl rfl rfl rfl
  | started isReady present same =>
      subst same
      have work : TaskWork pri dsp (startedTask dsp pri) := task_work_plain pri dsp _ inv.owned (started_task_other dsp pri)
        (by rw [started_task_same]) rfl rfl rfl
      refine status_inv_work pri dsp _ inv work ?_ fun _ => ?_
      · rw [started_task_same]
        exact entry_truth_switch dsp.heap.params _ (inv.truth pri) .runing (.inl isReady) (.inr rfl) _ _
      · rw [started_task_same]
        simp

theorem stop_inv (outcome : StopOutcome dsp pri next) : StatusInv next := by
  cases outcome with
  | refused same => exact same ▸ inv
  | stopped running same =>
      subst same
      have entry : (stoppedTask dsp pri).tasks pri = { dsp.tasks pri with status := .ready } := modify_task_same _ _ _
      have work : TaskWork pri dsp (stoppedTask dsp pri) := task_work_plain pri dsp _ inv.owned
        (fun other different => modify_task_other _ _ _ _ different) (by rw [entry]) rfl rfl rfl
      refine status_inv_work pri dsp _ inv work ?_ fun _ => ?_
      · rw [entry]
        exact entry_truth_switch dsp.heap.params _ (inv.truth pri) .ready (.inr running) (.inl rfl) _ _
      · rw [entry]
        simp

theorem fe_inv (message : FeConfig) (outcome : FeOutcome dsp pri message next) : StatusInv next := by
  cases outcome with
  | refused isp vipre same =>
      subst same
      exact status_inv_same dsp _ inv rfl rfl rfl rfl
  | cpu same =>
      subst same
      exact updated_inv pri dsp inv dsp (task_work_plain pri dsp dsp inv.owned (fun _ _ => rfl) rfl rfl rfl rfl)
        (inv.truth pri).sound fun used => used
  | bound isp vipre high line fe check asked valid named known same =>
      subst same
      have sound := (inv.truth pri).sound
      refine updated_inv pri dsp inv _ (task_work_plain pri dsp _ inv.owned
        (fun other different => modify_task_other _ _ _ _ different) ?_ rfl rfl rfl) ?_ ?_
      · rw [modify_task_same]
        rfl
      · rw [modify_task_same]
        exact ⟨sound.valid, sound.freed, sound.algo, sound.bufs, fun front later => ⟨valid, (sound.ready front later).2⟩⟩
      · rw [modify_task_same]
        exact fun used => used

theorem be_inv (outcome : BeOutcome dsp pri next) : StatusInv next := by
  have sound := (inv.truth pri).sound
  cases outcome with
  | refused work content frame same =>
      refine status_inv_work pri dsp next inv work ?_ fun used => by rw [same]; exact used
      rw [same, content]
      exact inv.truth pri
  | bound middle be valid work entry content frame same =>
      subst same
      refine updated_inv pri dsp inv middle work ?_ ?_
      · rw [entry, content]
        exact ⟨sound.valid, sound.freed, sound.algo, sound.bufs, fun front later =>
          ⟨(sound.ready front later).1, valid, (sound.ready front later).2.2⟩⟩
      · rw [entry]
        exact fun used => used

omit inv in
-- What the entry says after dsp_task_algo_config has gone on from a state with
-- a parameter block, which is the task's old one or a fresh one.
theorem load_truth (message : AlgoConfigPar) (env : AlgoEnv) (task : DspTask) (params : Nat → AlgoParam)
    (truth : EntryTruth params task) (used : task.status ≠ .free) (param : Nat) (algo : DspAlgoHandler)
    (started : dsp.tasks pri = { task with algo := algo })
    (old : task.algo.param ≠ none → task.algo.param = some param ∧ dsp.heap.params = params)
    (keeps : task.type.hasFrontEnd = true → match env.load with
      | none => task.status = .idel
      | some (_, 0) => task.algo.param ≠ none
      | some (_, _ + 1) => ¬ ListRefused message env)
    (outcome : LoadOutcome dsp pri param message env next) :
    EntryTruth next.heap.params (next.tasks pri) ∧ (next.tasks pri).status ≠ .free := by
  obtain ⟨⟨valid, freed, algoParam, bufs, ready⟩, updated⟩ := truth
  cases outcome with
  | noAlgo failed entry =>
      rw [started] at entry
      rw [failed] at keeps
      rw [entry]
      refine ⟨⟨⟨valid, fun _ => rfl, fun _ => by simp, fun _ _ held => (by cases held), fun front later => ?_⟩,
        fun _ _ _ process => ?_⟩,
        used⟩
      · simp only at later
        rw [keeps front] at later
        rcases later with later | later <;> cases later
      · exact absurd rfl process
  | gaveUp process descNum loaded hardware some_bufs refused entry =>
      rw [started] at entry
      obtain ⟨count, rfl⟩ := Nat.exists_eq_succ_of_ne_zero some_bufs
      rw [loaded] at keeps
      rw [entry]
      cases front : task.type.hasFrontEnd with
      | true => exact absurd refused (keeps front)
      | false => exact ⟨entry_truth_other _ _ front valid used, used⟩
  | noBufs process loaded hardware entry block =>
      rw [started] at entry
      rw [loaded] at keeps
      rw [entry]
      cases front : task.type.hasFrontEnd with
      | false => exact ⟨entry_truth_other _ _ front valid used, used⟩
      | true =>
          obtain ⟨held, same⟩ := old (keeps front)
          have algorithm := (algoParam front).mpr (keeps front)
          refine ⟨⟨⟨valid, fun free => absurd free used, fun _ => by simp, fun _ other given => ?_, fun _ later => ?_⟩,
            fun _ fe be _ => updated front fe be algorithm⟩, used⟩
          · cases given
            rw [block, same]
            exact bufs front param held
          · exact ⟨(ready front later).1, (ready front later).2.1, by simp⟩
  | taken process descNum loaded entry block =>
      rw [started] at entry block
      rw [entry]
      refine ⟨entry_truth_update next.heap.params { task with algo := ⟨message.algoId, some param, some process⟩ }
        ⟨valid, fun free => absurd free used, fun _ => by simp, fun front other given => ?_, fun front later => ?_⟩,
        fun free => used ((updated_status_free { task with algo := ⟨message.algoId, some param, some process⟩ }).mp free)⟩
      · cases given
        exact (block (front_end_is_hw _ front)).2
      · exact ⟨(ready front later).1, (ready front later).2.1, by simp⟩

theorem config_inv (id : Nat) (found : dspSearchTaskById dsp id = some pri) (used : (dsp.tasks pri).status ≠ .free)
    (message : AlgoConfigPar) (env : AlgoEnv) (keeps : ConfigTruthful (dsp.tasks pri) message env) (reply : Reply)
    (done : dspTaskAlgoConfig dsp id message env = some (next, reply)) : StatusInv next := by
  have truth := inv.truth pri
  cases config_way dsp id pri found next reply message env done with
  | starved held asked same => exact same ▸ inv
  | fresh heap full param held asked given brought loaded =>
      have fresh := task_work_take_param pri dsp inv.owned heap full param env.library given brought
      have entry : (takeParam dsp pri full param).tasks pri =
          { dsp.tasks pri with algo := { (dsp.tasks pri).algo with param := some param } } := by
        simp [takeParam, setParam]
      obtain ⟨work, outcome⟩ := load_outcome pri _ next (task_work_owned pri dsp _ inv.owned fresh) param (by rw [entry])
        message env reply loaded
      obtain ⟨last, stays⟩ := load_truth pri _ next message env (dsp.tasks pri) dsp.heap.params truth used param _ entry
        (fun old => absurd held old) (fun front => keeps front (fun _ => by simp [asked]) fun update => update.1 held) outcome
      exact status_inv_work pri dsp next inv (task_work_trans pri dsp _ _ fresh work) last fun _ => stays
  | updated param held update done =>
      have work := task_work_algo_update pri dsp next inv.owned param message env reply done
      obtain ⟨settings, bufs, rfl⟩ := algo_update_same dsp next param message env reply done
      exact status_inv_work pri dsp _ inv work truth fun _ => used
  | again full param held other brought loaded =>
      have library := task_work_library pri dsp inv.owned full env.library brought
      obtain ⟨work, outcome⟩ := load_outcome pri _ next (task_work_owned pri dsp _ inv.owned library) param held message env reply loaded
      have params := (load_library_live dsp.heap full env.library brought).1
      obtain ⟨last, stays⟩ := load_truth pri { dsp with heap := full } next message env (dsp.tasks pri) dsp.heap.params truth used
        param (dsp.tasks pri).algo rfl (fun _ => ⟨held, by rw [params]⟩)
        (fun front => keeps front (fun none_ => by simp [held] at none_) fun update => other update.2) outcome
      exact status_inv_work pri dsp next inv (task_work_trans pri dsp _ _ library work) last fun _ => stays

theorem reload_inv (algoId : Int) (env : AlgoEnv) (used : (dsp.tasks pri).status ≠ .free)
    (keeps : LoadTruthful (dsp.tasks pri) env) (outcome : ReloadOutcome dsp pri algoId env next) : StatusInv next := by
  obtain ⟨⟨valid, freed, algoParam, bufs, ready⟩, updated⟩ := inv.truth pri
  unfold LoadTruthful at keeps
  cases outcome with
  | noMemory refused entry work =>
      rw [refused] at keeps
      refine status_inv_work pri dsp next inv work ?_ fun _ => by rw [entry]; exact used
      rw [entry]
      refine ⟨⟨valid, freed, fun front => ?_, fun _ _ held => (by cases held), ready⟩, updated⟩
      simp [keeps front]
  | failed param given reason =>
      rw [given] at keeps
      rcases reason with failed | ⟨hardware, noList, process, descNum, loaded, some_bufs⟩
      · rw [failed] at keeps
        exact keeps.elim
      · rw [loaded] at keeps
        exact absurd noList (keeps.1 hardware some_bufs)
  | loaded param process descNum given found entry block work =>
      rw [given, found] at keeps
      refine status_inv_work pri dsp next inv work ?_ fun _ => by rw [entry]; exact used
      rw [entry]
      refine ⟨⟨valid, fun free => absurd free used, fun _ => by simp, fun front other held => ?_, fun front later => ?_⟩,
        fun front fe be _ idle => (keeps.2 front).2 ⟨idle, fe, be⟩⟩
      · cases held
        exact block (front_end_is_hw _ front) (keeps.2 front).1
      · exact ⟨(ready front later).1, (ready front later).2.1, by simp⟩

theorem entry_inv_report (report : DspTaskReport) : StatusInv (modifyTask dsp pri fun task => { task with report := report }) := by
  obtain ⟨⟨valid, freed, algo, bufs, ready⟩, updated⟩ := inv.truth pri
  refine status_inv_work pri dsp _ inv (task_work_entry pri dsp inv.owned _ rfl) ?_ ?_
  · rw [modify_task_same]
    exact ⟨⟨valid, freed, algo, bufs, ready⟩, updated⟩
  · rw [modify_task_same]
    exact fun used => used

theorem report_inv (id : Nat) (flag : ReportFlag) (size : Nat) : StatusInv (psRegisterReportToTask dsp id flag size).1 := by
  cases found : dspSearchTaskById dsp id with
  | none =>
      rw [psRegisterReportToTask, found]
      exact inv
  | some pri =>
      rcases report_configured dsp id pri found flag size with same | ⟨report, same⟩
      · rw [same]
        exact inv
      · rw [same]
        exact entry_inv_report pri dsp inv (report (dsp.tasks pri))

end Keep

section Slots

variable (dsp next : Dsp) (pri : Nat) (inv : StatusInv dsp)

include inv

theorem status_inv_unlisted (work : TaskWork pri dsp next) (truth : EntryTruth next.heap.params (next.tasks pri))
    (unlisted : ∀ id, dsp.taskHandler id ≠ some pri) : StatusInv next := by
  refine ⟨slot_inv_same dsp next inv.slots work.handlers work.count fun id other placed => ?_,
    truth_of_work pri dsp next inv work truth, task_work_owned pri dsp next inv.owned work⟩
  have different : other ≠ pri := fun same => unlisted id (same ▸ placed)
  rw [work.tasks other different]
  exact (inv.slots.placed id other placed).2.2

theorem unlisted_of_free (free : (dsp.tasks pri).status = .free) (id : Nat) : dsp.taskHandler id ≠ some pri :=
  fun placed => (inv.slots.placed id pri placed).2.2 free

theorem add_task_inv (place : Nat) (inTable : pri < psMaxTaskType) (unlisted : ∀ id, dsp.taskHandler id ≠ some pri)
    (used : (dsp.tasks pri).status ≠ .free) (added : dspAddTaskToScheduler dsp pri = some (next, place)) : StatusInv next := by
  have outcome : dsp.taskHandler place = none ∧ place < next.taskNum ∧ dsp.taskNum ≤ next.taskNum ∧
      next = { dsp with taskHandler := Function.update dsp.taskHandler place (some pri), taskNum := next.taskNum } := by
    unfold dspAddTaskToScheduler at added
    split at added
    · split at added
      · rename_i free found
        cases added
        have empty := List.find?_some found
        simp only [beq_iff_eq] at empty
        exact ⟨empty, List.mem_range.mp (List.mem_of_find?_eq_some found), Nat.le_refl _, rfl⟩
      · cases added
    · cases added
      refine ⟨?_, Nat.lt_succ_self _, Nat.le_succ _, rfl⟩
      by_contra taken
      obtain ⟨other, placed⟩ := Option.ne_none_iff_exists'.mp taken
      exact Nat.lt_irrefl _ (inv.slots.placed _ other placed).2.1
  obtain ⟨empty, below, grown, same⟩ := outcome
  rw [same]
  refine ⟨⟨fun id other placed => ?_, fun id other owner first second => ?_⟩, inv.truth, inv.owned⟩
  · by_cases here : id = place
    · subst here
      simp only [Function.update_self, Option.some.injEq] at placed
      exact ⟨placed ▸ inTable, below, placed ▸ used⟩
    · simp only [Function.update_of_ne here] at placed
      obtain ⟨small, before, taken⟩ := inv.slots.placed id other placed
      exact ⟨small, Nat.lt_of_lt_of_le before grown, taken⟩
  · by_cases here : id = place
    · by_cases there : other = place
      · rw [here, there]
      · simp only [here, Function.update_self, Function.update_of_ne there] at first second
        exact absurd (first ▸ second) (unlisted other)
    · by_cases there : other = place
      · simp only [there, Function.update_self, Function.update_of_ne here] at first second
        exact absurd (second ▸ first) (unlisted id)
      · simp only [Function.update_of_ne here, Function.update_of_ne there] at first second
        exact inv.slots.single id other owner first second

theorem enter_inv (mode : TaskMode) (inTable : pri < psMaxTaskType) (free : (dsp.tasks pri).status = .free) :
    StatusInv (enterTask dsp pri mode).1 := by
  have unlisted := unlisted_of_free dsp pri inv free
  have noAlgo := (inv.truth pri).sound.freed free
  have work : TaskWork pri dsp (modifyTask dsp pri (enteredTask mode)) :=
    task_work_drop pri dsp [] (fun _ member => absurd member List.not_mem_nil) _ rfl
  have entry : (modifyTask dsp pri (enteredTask mode)).tasks pri = enteredTask mode (dsp.tasks pri) := modify_task_same _ _ _
  have noProcess : (enteredTask mode (dsp.tasks pri)).algo.algoProcess = none := noAlgo
  have noParam : (enteredTask mode (dsp.tasks pri)).algo.param = none := rfl
  unfold enterTask
  generalize modifyTask dsp pri (enteredTask mode) = middle at work entry
  have status : (enteredTask mode (dsp.tasks pri)).status = .ready ∧ mode = .swToSw ∨
      (enteredTask mode (dsp.tasks pri)).status = .idel ∧ mode ≠ .swToSw := by
    rw [enteredTask]
    by_cases soft : mode = .swToSw <;> simp [soft]
  have used : (middle.tasks pri).status ≠ .free := by
    rw [entry]
    rcases status with ⟨ready, -⟩ | ⟨idle, -⟩ <;> simp [*]
  have truth : EntryTruth middle.heap.params (middle.tasks pri) := by
    rw [entry]
    refine ⟨⟨?_, fun _ => noProcess, fun _ => by simp [noProcess, noParam], fun _ _ held => (by cases held), fun front later => ?_⟩,
      fun _ fe => absurd rfl fe⟩
    · rcases status with ⟨ready, -⟩ | ⟨idle, -⟩ <;> simp [*]
    · have different : mode ≠ .swToSw := fun same => by
        subst same
        cases front
      rcases status with ⟨-, soft⟩ | ⟨idle, -⟩
      · exact absurd soft different
      · simp [idle] at later
  have middleInv := status_inv_unlisted dsp middle pri inv work truth unlisted
  have stillUnlisted : ∀ id, middle.taskHandler id ≠ some pri := fun id => by
    rw [work.handlers]
    exact unlisted id
  dsimp only
  cases added : dspAddTaskToScheduler middle pri with
  | none =>
      refine status_inv_unlisted middle (releaseTask middle pri) pri middleInv
        (task_work_entry pri middle middleInv.owned _ rfl) ?_ stillUnlisted
      rw [releaseTask, modify_task_same, entry]
      exact ⟨⟨by simp, fun _ => noProcess, fun _ => by simp [noProcess, noParam], fun _ _ held => (by cases held),
        fun _ later => by simp at later⟩, fun _ fe => absurd rfl fe⟩
  | some result => exact add_task_inv middle result.1 pri middleInv result.2 inTable stillUnlisted used added

theorem create_inv (mode : Option TaskMode) (registered : Bool) : StatusInv (psCreateTask dsp mode registered).1 := by
  simp only [psCreateTask]
  cases mode with
  | none => exact inv
  | some mode =>
      dsimp only
      split
      · split
        · exact inv
        · rename_i pri found
          obtain ⟨inTable, -, free⟩ := free_task_found dsp pri _ found
          split
          · exact enter_inv dsp pri inv mode inTable free
          · exact inv
      · split
        · exact inv
        · rename_i pri found
          obtain ⟨inTable, -, free⟩ := free_task_found dsp pri _ found
          have same : ((modifyTask dsp pri fun task => { task with taskPro := some .hw }).tasks pri) =
              { dsp.tasks pri with taskPro := some .hw } := modify_task_same _ _ _
          have prepared := status_inv_unlisted dsp _ pri inv
            (task_work_entry pri dsp inv.owned (fun task => { task with taskPro := some .hw }) rfl)
            (by
              obtain ⟨⟨valid, freed, algo, bufs, ready⟩, updated⟩ := inv.truth pri
              rw [same]
              exact ⟨⟨valid, freed, algo, bufs, ready⟩, updated⟩)
            (unlisted_of_free dsp pri inv free)
          exact enter_inv _ pri prepared mode inTable (by rw [same, free])

theorem remove_inv (id : Nat) : StatusInv (dspRemoveTaskFromScheduler dsp id) := by
  refine ⟨⟨fun place other placed => ?_, fun first second owner one two => ?_⟩, inv.truth, inv.owned⟩
  · obtain ⟨different, placed⟩ := (removed_listed dsp id place other).mp placed
    obtain ⟨inTable, below, used⟩ := inv.slots.placed place other placed
    refine ⟨inTable, ?_, used⟩
    simp only [dspRemoveTaskFromScheduler]
    split <;> omega
  · exact inv.slots.single first second owner ((removed_listed dsp id first owner).mp one).2
      ((removed_listed dsp id second owner).mp two).2

theorem destroy_inv (id : Nat) : StatusInv (psDestroyTask dsp id).1 := by
  rw [psDestroyTask]
  cases found : dspSearchTaskById dsp id with
  | none => exact inv
  | some pri =>
      have removed := remove_inv dsp inv id
      have unlisted : ∀ place, (dspRemoveTaskFromScheduler dsp id).taskHandler place ≠ some pri := fun place placed => by
        obtain ⟨different, placed⟩ := (removed_listed dsp id place pri).mp placed
        exact different (inv.slots.single place id pri placed (search_listed dsp id pri found))
      have truth := removed.truth pri
      dsimp only
      generalize dspRemoveTaskFromScheduler dsp id = middle at removed unlisted truth
      obtain ⟨blocks, freed, mine⟩ := free_algo_param_blocks pri middle
      have work := task_work_drop pri middle blocks mine
        (fun task => { task with algo := ⟨-1, none, none⟩, status := .free }) rfl
      rw [freed, releaseTask, modify_modify]
      refine status_inv_unlisted middle _ pri removed work ?_ unlisted
      rw [modify_task_same]
      exact ⟨⟨by simp, fun _ => rfl, fun _ => by simp, fun _ _ held => (by cases held), fun _ later => by simp at later⟩,
        fun _ _ _ process => absurd rfl process⟩

end Slots

theorem status_step_inv (dsp next : Dsp) (command : Command) (inv : StatusInv dsp) (keeps : KeepsTruth dsp command)
    (taken : statusStep dsp command = some next) : StatusInv next := by
  obtain ⟨⟨result, reply⟩, done, rfl⟩ := Option.map_eq_some_iff.mp taken
  have unknown (id : Nat) (asked : command.id = some id) (missing : dspSearchTaskById dsp id = none) : StatusInv result := by
    rw [unknown_task dsp result command id reply asked missing done]
    exact inv
  cases command with
  | taskAlloc mode registered =>
      have same := congrArg Prod.fst (Option.some.inj done)
      exact same ▸ create_inv dsp inv mode registered
  | taskFree id =>
      have same := congrArg Prod.fst (Option.some.inj done)
      exact same ▸ destroy_inv dsp inv id
  | reportConfig id flag size =>
      have same := congrArg Prod.fst (Option.some.inj done)
      exact same ▸ report_inv dsp inv id flag size
  | beAssginBuf id config =>
      cases found : dspSearchTaskById dsp id with
      | none => exact unknown id rfl found
      | some pri =>
          simp only [psCommonCommand, dspBackendAssginBufHandler, found, Option.ite_none_left_eq_some] at done
          obtain ⟨assigned, -, same⟩ := Option.bind_eq_some_iff.mp done.2
          cases same
          exact status_inv_same dsp _ inv rfl rfl rfl rfl
  | taskStart id =>
      cases found : dspSearchTaskById dsp id with
      | none => exact unknown id rfl found
      | some pri => exact start_inv pri dsp _ inv (start_outcome dsp id pri found _ _ (Option.some.inj done))
  | taskStop id =>
      cases found : dspSearchTaskById dsp id with
      | none => exact unknown id rfl found
      | some pri => exact stop_inv pri dsp _ inv (stop_outcome dsp id pri found _ _ (Option.some.inj done))
  | feConfig id message =>
      cases found : dspSearchTaskById dsp id with
      | none => exact unknown id rfl found
      | some pri => exact fe_inv pri dsp _ inv message (fe_outcome dsp id pri found _ _ message done)
  | beConfig id message =>
      cases found : dspSearchTaskById dsp id with
      | none => exact unknown id rfl found
      | some pri => exact be_inv pri dsp _ inv (be_outcome dsp _ id pri found inv.owned message _ done)
  | algoConfig id message env =>
      cases found : dspSearchTaskById dsp id with
      | none => exact unknown id rfl found
      | some pri =>
          obtain ⟨inTable, -, used⟩ := inv.slots.placed id pri (search_listed dsp id pri found)
          exact config_inv pri dsp _ inv id found used message env (keeps pri inTable found) _ done
  | algoLoad id algoId env =>
      cases found : dspSearchTaskById dsp id with
      | none => exact unknown id rfl found
      | some pri =>
          obtain ⟨inTable, -, used⟩ := inv.slots.placed id pri (search_listed dsp id pri found)
          exact reload_inv pri dsp _ inv algoId env used (keeps pri inTable found)
            (reload_outcome dsp _ id pri found inv.owned algoId env _ done)

theorem truthful_of_inv (dsp : Dsp) (inv : StatusInv dsp) : StatusTruthful dsp := by
  intro pri _ front used
  obtain ⟨⟨valid, freed, algo, bufs, ready⟩, updated⟩ := inv.truth pri
  have configured : Configured dsp pri ↔ (dsp.tasks pri).fe.type ≠ .invalid ∧ (dsp.tasks pri).be.type ≠ .invalid ∧
      (dsp.tasks pri).algo.algoProcess ≠ none := by
    refine ⟨fun found => ⟨found.fe, found.be, found.algo⟩, fun ⟨fe, be, process⟩ => ⟨fe, be, process, ?_⟩⟩
    obtain ⟨param, held⟩ := Option.ne_none_iff_exists'.mp ((algo front).mp process)
    exact ⟨param, held, (inv.owned pri param (by simp [ownBlocks, held])).1, bufs front param held⟩
  have kinds : (dsp.tasks pri).status = .idel ∨ (dsp.tasks pri).status = .ready ∨ (dsp.tasks pri).status = .runing := by
    cases status : (dsp.tasks pri).status with
    | free => exact absurd status used
    | invalid => exact absurd status valid
    | idel | ready | runing => simp
  constructor
  · rw [configured]
    refine ⟨ready front, fun ⟨fe, be, process⟩ => kinds.resolve_left (updated front fe be process)⟩
  · intro open_
    refine kinds.resolve_right fun later => open_ (configured.mpr (ready front later))

theorem init_status_inv (cmd : XrpDspCmd) (payload : ReportItem) : StatusInv (initDsp cmd payload) := by
  have places : ∀ id pri, (initDsp cmd payload).taskHandler id = some pri → id = 0 ∧ pri = 3 ∨ id = 1 ∧ pri = 15 := by
    intro id pri placed
    simp only [initDsp] at placed
    split at placed
    · rename_i first
      cases placed
      exact .inl ⟨first, rfl⟩
    · split at placed
      · rename_i second
        cases placed
        exact .inr ⟨second, rfl⟩
      · cases placed
  have entries : ∀ pri, ((initDsp cmd payload).tasks pri).status ≠ .invalid ∧
      ((initDsp cmd payload).tasks pri).type.hasFrontEnd = false ∧ ((initDsp cmd payload).tasks pri).algo = ⟨0, none, none⟩ := by
    intro pri
    simp only [initDsp, tableEntry]
    split
    · rename_i third
      subst third
      simp [TaskMode.hasFrontEnd]
    · split
      · rename_i last
        subst last
        simp [TaskMode.hasFrontEnd]
      · by_cases hardware : pri < 3 <;> simp [hardware, TaskMode.hasFrontEnd]
  refine ⟨⟨?_, ?_⟩, fun pri => ?_, fun pri block member => ?_⟩
  · intro id pri placed
    rcases places id pri placed with ⟨rfl, rfl⟩ | ⟨rfl, rfl⟩ <;> exact ⟨by decide, by simp [initDsp], by simp [initDsp]⟩
  · intro id other pri first second
    rcases places id pri first with ⟨rfl, rfl⟩ | ⟨rfl, rfl⟩ <;> rcases places other _ second with ⟨rfl, same⟩ | ⟨rfl, same⟩ <;>
      first | rfl | cases same
  · obtain ⟨valid, other, algo⟩ := entries pri
    refine ⟨⟨valid, fun _ => by rw [algo], ?_, ?_, ?_⟩, ?_⟩ <;> exact fun front => absurd (front.symm.trans other) (by decide)
  · simp [ownBlocks, (entries pri).2.2] at member

-- In a run of commands that keep it so, the status of a task is truthful.
theorem task_status_truthful (cmd : XrpDspCmd) (payload : ReportItem) (finish : Dsp) (commands : List Command)
    (keeps : Runs.Guarded statusStep KeepsTruth (initDsp cmd payload) commands)
    (ran : Runs.run statusStep (initDsp cmd payload) commands = some finish) : StatusTruthful finish :=
  truthful_of_inv finish (Runs.guarded_run_invariant statusStep KeepsTruth StatusInv
    (fun dsp command next inv kept taken => status_step_inv dsp next command inv kept taken)
    (initDsp cmd payload) finish commands (init_status_inv cmd payload) keeps ran)

-- A hardware task, its front end, back end and algorithm, and its start.
def fullConfiguration : List Command :=
  [.taskAlloc (some .hwToSw) true, .feConfig 2 (.isp (smallIspConfig 512)), .beConfig 2 (.host ⟨2, fun _ => zeroBuffer⟩ (some 100)),
    .algoConfig 2 ⟨0, 0, 0, 0, 0, 0⟩ (blocksEnv 200 (7, 2) (some 300)), .taskStart 2]

instance (task : DspTask) (message : AlgoConfigPar) (env : AlgoEnv) : Decidable (ConfigTruthful task message env) :=
  match load : env.load with
  | none => decidable_of_iff (_ → (_ → env.paramBlock ≠ none) → ¬ (_ ∧ _ ∧ message.algoPtr = 0 ∧ message.algoId = -1) →
      task.status = .idel) (by rw [ConfigTruthful, load])
  | some (_, 0) => decidable_of_iff (_ → (_ → env.paramBlock ≠ none) → ¬ (_ ∧ _ ∧ message.algoPtr = 0 ∧ message.algoId = -1) →
      task.algo.param ≠ none) (by rw [ConfigTruthful, load])
  | some (_, _ + 1) => decidable_of_iff (_ → (_ → env.paramBlock ≠ none) → ¬ (_ ∧ _ ∧ message.algoPtr = 0 ∧ message.algoId = -1) →
      ¬ ListRefused message env) (by rw [ConfigTruthful, load])

instance (task : DspTask) (env : AlgoEnv) : Decidable (LoadTruthful task env) :=
  match block : env.paramBlock, load : env.load with
  | none, _ => decidable_of_iff (_ → task.algo.algoProcess = none) (by rw [LoadTruthful, block])
  | some _, none => decidable_of_iff False (by rw [LoadTruthful, block, load])
  | some _, some (_, descNum) => decidable_of_iff ((_ → _ → env.bufsBlock ≠ none) ∧ (_ → descNum ≠ 0 ∧ ¬ (_ ∧ _ ∧ _)))
      (by rw [LoadTruthful, block, load])

instance (dsp : Dsp) : ∀ command, Decidable (KeepsTruth dsp command)
  | .algoConfig _ _ _ | .algoLoad _ _ _ => inferInstanceAs (Decidable (∀ pri < psMaxTaskType, _ → _))
  | .taskAlloc _ _ | .taskFree _ | .taskStart _ | .taskStop _ | .feConfig _ _ | .beConfig _ _ | .reportConfig _ _ _
  | .beAssginBuf _ _ => inferInstanceAs (Decidable True)

theorem task_status_truthful_running :
    StatusTruthful ((Runs.run statusStep (initDsp anyCmd anyReport) fullConfiguration).get (by decide)) :=
  task_status_truthful anyCmd anyReport _ fullConfiguration (by decide) (Option.some_get _).symm

-- The buffer list cannot be allocated for the only algorithm of the task, and
-- its back end makes it READY without a parameter block.
theorem task_status_lies : ¬ ∀ (cmd : XrpDspCmd) (payload : ReportItem) (finish : Dsp) (commands : List Command),
    Runs.run statusStep (initDsp cmd payload) commands = some finish → StatusTruthful finish := by
  intro claim
  let commands : List Command := [.taskAlloc (some .hwToSw) true, .feConfig 2 (.isp (smallIspConfig 512)),
    .algoConfig 2 ⟨0, 0, 0, 0, 0, 0⟩ (blocksEnv 200 (7, 2) none),
    .beConfig 2 (.host ⟨2, fun _ => zeroBuffer⟩ (some 100))]
  have truthful := claim anyCmd anyReport ((Runs.run statusStep (initDsp anyCmd anyReport) commands).get (by decide)) commands
    (Option.some_get _).symm
  obtain ⟨param, held, -⟩ := ((truthful 0 (by decide) (by decide) (by decide)).1.mp (.inl (by decide))).param
  have missing : (((Runs.run statusStep (initDsp anyCmd anyReport) commands).get (by decide)).tasks 0).algo.param = none := by
    decide
  rw [missing] at held
  cases held

end CsiDsp
