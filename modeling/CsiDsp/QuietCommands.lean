import CsiDsp.TaskHeap

set_option autoImplicit false

namespace CsiDsp

-- What a command that neither starts nor stops a task may do to an entry: the
-- interrupts, the kind of the entry and whether it runs stay as they are.
structure QuietEntry (task after : DspTask) : Prop where
  running : after.status = .runing ↔ task.status = .runing
  vector : taskVector after = taskVector task
  kind : after.type.isHw = task.type.isHw
  pro : after.taskPro = some .hw → task.taskPro = some .hw ∨ task.type.isHw = true
  line : task.status = .runing → after.irqNum = task.irqNum
  param : task.status = .runing → task.type.isHw = true → task.algo.param ≠ none → after.algo.param ≠ none

structure QuietCommand (dsp next : Dsp) : Prop where
  ready : next.ready = dsp.ready
  entries : ∀ pri, QuietEntry (dsp.tasks pri) (next.tasks pri)
  lines : ∀ irq, (next.vectors irq = dsp.vectors irq ∧ next.enabled irq = dsp.enabled irq) ∨
    ∃ driver, next.vectors irq = ⟨driver, 0⟩ ∧ driver ≠ .trigger ∧ driver ≠ .null
  listed : (∀ id pri, dsp.taskHandler id = some pri → pri < psMaxTaskType) →
    ∀ id pri, next.taskHandler id = some pri → pri < psMaxTaskType
  named : dsp.highPriTask < psMaxTaskType → next.highPriTask < psMaxTaskType

section Entry

variable (task after : DspTask)

theorem quiet_entry_refl : QuietEntry task task := ⟨.rfl, rfl, rfl, .inl, fun _ => rfl, fun _ _ held => held⟩

theorem quiet_entry_update : QuietEntry task { task with status := updatedStatus task } :=
  ⟨updated_status_runing task, rfl, rfl, .inl, fun _ => rfl, fun _ _ held => held⟩

theorem quiet_entry_trans (last : DspTask) (first : QuietEntry task after) (second : QuietEntry after last) :
    QuietEntry task last := by
  refine ⟨second.running.trans first.running, second.vector.trans first.vector, second.kind.trans first.kind, fun pro => ?_,
    fun running => ?_, fun running kind held => ?_⟩
  · rcases second.pro pro with before | hardware
    · exact first.pro before
    · exact .inr (first.kind.symm.trans hardware)
  · rw [second.line (first.running.mpr running), first.line running]
  · exact second.param (first.running.mpr running) (first.kind.trans kind) (first.param running kind held)

end Entry

section Command

variable (dsp middle next : Dsp) (pri : Nat)

theorem quiet_trans (first : QuietCommand dsp middle) (second : QuietCommand middle next) : QuietCommand dsp next := by
  refine ⟨second.ready.trans first.ready, fun id => quiet_entry_trans _ _ _ (first.entries id) (second.entries id), fun irq => ?_,
    fun inTable => second.listed (first.listed inTable), fun small => second.named (first.named small)⟩
  rcases second.lines irq with ⟨vector, line⟩ | driver
  · rcases first.lines irq with ⟨before, lineBefore⟩ | driver
    · exact .inl ⟨vector.trans before, line.trans lineBefore⟩
    · exact .inr (by rw [vector]; exact driver)
  · exact .inr driver

-- Nothing that the scheduler looks at has changed.
theorem quiet_same (ready : next.ready = dsp.ready) (tasks : next.tasks = dsp.tasks) (vectors : next.vectors = dsp.vectors)
    (enabled : next.enabled = dsp.enabled) (handlers : next.taskHandler = dsp.taskHandler)
    (high : next.highPriTask = dsp.highPriTask) : QuietCommand dsp next :=
  ⟨ready, fun id => tasks ▸ quiet_entry_refl _, fun irq => .inl ⟨by rw [vectors], by rw [enabled]⟩,
    fun inTable => handlers ▸ inTable, fun small => high ▸ small⟩

theorem quiet_modify (change : DspTask → DspTask) (entry : QuietEntry (dsp.tasks pri) (change (dsp.tasks pri))) :
    QuietCommand dsp (modifyTask dsp pri change) := by
  refine ⟨rfl, fun id => ?_, fun _ => .inl ⟨rfl, rfl⟩, fun inTable => inTable, fun small => small⟩
  by_cases same : id = pri
  · rw [same, modify_task_same]
    exact entry
  · rw [modify_task_other dsp pri id change same]
    exact quiet_entry_refl _

theorem quiet_update : QuietCommand dsp (updateTaskStatus dsp pri) := quiet_modify dsp pri _ (quiet_entry_update _)

theorem quiet_driver (irq : Irq) (driver : Handler) (other : driver ≠ .trigger) (present : driver ≠ .null) :
    QuietCommand dsp (registerDriver dsp irq driver) := by
  refine ⟨rfl, fun _ => quiet_entry_refl _, fun line => ?_, fun inTable => inTable, fun small => small⟩
  by_cases same : line = irq
  · rw [same]
    exact .inr ⟨driver, Function.update_self _ _ _, other, present⟩
  · exact .inl ⟨Function.update_of_ne same _ _, Function.update_of_ne same _ _⟩

end Command

def AlgoWork (pri : Nat) (dsp next : Dsp) : Prop :=
  ∃ algo heap, next = { modifyTask dsp pri fun task => { task with algo := algo } with heap := heap }

def AlgoEnd (pri : Nat) (dsp next : Dsp) : Prop :=
  AlgoWork pri dsp next ∨ ∃ middle, AlgoWork pri dsp middle ∧ next = updateTaskStatus middle pri

section Algo

variable (pri : Nat) (dsp middle next : Dsp)

theorem algo_work_heap (heap : Heap) : AlgoWork pri dsp { dsp with heap := heap } :=
  ⟨(dsp.tasks pri).algo, heap, by simp [modifyTask]⟩

theorem algo_work_entry (change : DspAlgoHandler → DspAlgoHandler) :
    AlgoWork pri dsp (modifyTask dsp pri fun task => { task with algo := change task.algo }) :=
  ⟨change (dsp.tasks pri).algo, dsp.heap, by simp [modifyTask]⟩

theorem algo_work_trans (first : AlgoWork pri dsp middle) (second : AlgoWork pri middle next) : AlgoWork pri dsp next := by
  obtain ⟨algo, heap, rfl⟩ := first
  obtain ⟨last, lastHeap, rfl⟩ := second
  exact ⟨last, lastHeap, by simp [modifyTask]⟩

theorem algo_end_trans (first : AlgoWork pri dsp middle) (second : AlgoEnd pri middle next) : AlgoEnd pri dsp next := by
  rcases second with work | ⟨last, work, same⟩
  · exact .inl (algo_work_trans pri dsp middle next first work)
  · exact .inr ⟨last, algo_work_trans pri dsp middle last first work, same⟩

theorem algo_work_free (blocks : List (Option Nat)) : AlgoWork pri dsp (blocks.foldl freeInDsp dsp) := by
  induction blocks generalizing dsp with
  | nil => exact algo_work_heap pri dsp dsp.heap
  | cons block rest ih => exact algo_work_trans pri dsp _ _ (algo_work_heap pri dsp _) (ih (freeInDsp dsp block))

theorem algo_work_drop (param : Nat) (blocks : List (Option Nat)) : AlgoWork pri dsp (dropParam dsp pri param blocks) :=
  algo_work_trans pri dsp _ _ (algo_work_free pri dsp blocks)
    (algo_work_trans pri _ _ _ (algo_work_heap pri _ _) (algo_work_entry pri _ fun algo => { algo with param := none }))

theorem take_settings_work (param : Nat) (message : AlgoConfigPar) (env : AlgoEnv) (taken : Bool)
    (done : takeSettings dsp pri param message env = some (next, taken)) : AlgoWork pri dsp next ∧
      (next.tasks = dsp.tasks ∨ taken = false ∧ message.settPtr ≠ 0 ∧ message.settLength ≠ 0 ∧ env.setBlock = none) := by
  unfold takeSettings at done
  split at done
  · rename_i asked
    obtain ⟨heap, given, rest⟩ := Option.bind_eq_some_iff.mp done
    cases set : env.setBlock with
    | none =>
        simp only [set] at rest
        cases rest
        exact ⟨algo_work_trans pri dsp _ _ (algo_work_heap pri dsp _) (algo_work_drop pri _ param _),
          .inr ⟨rfl, asked.1, asked.2, rfl⟩⟩
    | some address =>
        simp only [set] at rest
        cases rest
        exact ⟨algo_work_heap pri dsp _, .inl rfl⟩
  · cases done
    exact ⟨algo_work_heap pri dsp dsp.heap, .inl rfl⟩

theorem buffer_list_work (param : Nat) (message : AlgoConfigPar) (env : AlgoEnv) (descNum : Nat) (reply : Reply)
    (done : takeBufferList dsp pri param message env descNum = some (next, reply)) : AlgoEnd pri dsp next ∧
      ((next.tasks pri).algo = (dsp.tasks pri).algo ∨ ListRefused message env) := by
  obtain ⟨heap, given, rest⟩ := Option.bind_eq_some_iff.mp done
  have listed : AlgoWork pri dsp (writeParam { dsp with heap := heap } param
      fun block => { block with bufferNum := descNum, bufferStructPtr := env.bufsBlock }) := algo_work_heap pri dsp _
  have tasks := write_param_tasks { dsp with heap := heap } param
    fun block => { block with bufferNum := descNum, bufferStructPtr := env.bufsBlock }
  generalize (writeParam { dsp with heap := heap } param
    fun block => { block with bufferNum := descNum, bufferStructPtr := env.bufsBlock }) = list at rest listed tasks
  simp only at tasks
  cases block : env.bufsBlock with
  | none =>
      simp only [block] at rest
      cases rest
      exact ⟨.inl (algo_work_trans pri dsp _ _ listed (algo_work_drop pri list param [])), .inr (.inl block)⟩
  | some address =>
      simp only [block] at rest
      obtain ⟨⟨settled, took⟩, settings, rest⟩ := Option.bind_eq_some_iff.mp rest
      obtain ⟨work, ways⟩ := take_settings_work pri _ settled param message env took settings
      have toSettled := algo_work_trans pri dsp _ _ listed (algo_work_trans pri list _ _ (algo_work_heap pri list _) work)
      rcases ways with settledTasks | ⟨rfl, refused⟩
      · cases took with
        | false =>
            cases rest
            exact ⟨.inl toSettled, .inl (by rw [settledTasks]; simp [writeBufs, tasks])⟩
        | true =>
            simp only [Bool.true_eq_false, if_false] at rest
            split at rest
            · cases rest
            · cases rest
              obtain ⟨written, filled⟩ := take_buffers_same settled param message env.bufs
              rw [filled]
              exact ⟨.inr ⟨_, algo_work_trans pri dsp _ _ toSettled (algo_work_heap pri settled _), rfl⟩,
                .inl (by simp [updateTaskStatus, settledTasks, writeBufs, tasks])⟩
      · cases rest
        exact ⟨.inl toSettled, .inr (.inr refused)⟩

-- Why ALGO_CONFIG may leave a task without its parameter block.
def ParamLost (message : AlgoConfigPar) (env : AlgoEnv) : Prop :=
  match env.load with
  | none => True
  | some (_, 0) => False
  | some (_, _ + 1) => ListRefused message env

theorem load_config_work (param : Nat) (message : AlgoConfigPar) (env : AlgoEnv) (reply : Reply)
    (done : dspTaskAlgoLoadConfig dsp pri param message env = some (next, reply)) : AlgoEnd pri dsp next ∧
      ((next.tasks pri).algo.param = (dsp.tasks pri).algo.param ∨ ParamLost message env) := by
  unfold dspTaskAlgoLoadConfig at done
  rw [ParamLost]
  cases loaded : env.load with
  | none =>
      simp only [loaded] at done
      cases done
      exact ⟨.inl (algo_work_trans pri dsp _ _ (algo_work_entry pri dsp fun algo => ⟨message.algoId, algo.param, none⟩)
        (algo_work_drop pri _ param [])), .inr trivial⟩
  | some result =>
      obtain ⟨process, descNum⟩ := result
      simp only [loaded] at done
      have set : AlgoWork pri dsp (writeParam (setAlgo dsp pri message.algoId (some process)) param fun block =>
          { block with bufDescNum := descNum }) :=
        algo_work_trans pri dsp _ _ (algo_work_entry pri dsp fun algo => ⟨message.algoId, algo.param, some process⟩)
          (algo_work_heap pri _ _)
      have kept : ((writeParam (setAlgo dsp pri message.algoId (some process)) param fun block =>
          { block with bufDescNum := descNum }).tasks pri).algo.param = (dsp.tasks pri).algo.param := by simp [setAlgo]
      generalize (writeParam (setAlgo dsp pri message.algoId (some process)) param fun block =>
        { block with bufDescNum := descNum }) = named at done set kept
      split at done
      · cases done
        exact ⟨.inr ⟨named, set, rfl⟩, .inl (by rw [← kept, updateTaskStatus, modify_task_same])⟩
      · cases descNum with
        | zero =>
            simp only [if_true] at done
            cases done
            exact ⟨.inl set, .inl kept⟩
        | succ descNum =>
            simp only [Nat.add_one_ne_zero, if_false] at done
            obtain ⟨work, ways⟩ := buffer_list_work pri named next param message env _ reply done
            refine ⟨algo_end_trans pri dsp named next set work, ways.imp (fun same => ?_) fun refused => refused⟩
            rw [same, kept]

theorem algo_end_quiet (work : AlgoEnd pri dsp next)
    (param : Running dsp pri → (dsp.tasks pri).type.isHw = true → (dsp.tasks pri).algo.param ≠ none →
      (next.tasks pri).algo.param ≠ none) : QuietCommand dsp next := by
  have changed (middle : Dsp) (before : AlgoWork pri dsp middle)
      (same : (middle.tasks pri).algo.param = (next.tasks pri).algo.param) : QuietCommand dsp middle := by
    obtain ⟨algo, heap, rfl⟩ := before
    simp only [modify_task_same] at same
    refine quiet_trans dsp (modifyTask dsp pri fun task => { task with algo := algo }) _
      (quiet_modify dsp pri _ ⟨.rfl, rfl, rfl, .inl, fun _ => rfl, fun running kind held => ?_⟩)
      (quiet_same _ _ rfl rfl rfl rfl rfl rfl)
    rw [same]
    exact param running kind held
  rcases work with work | ⟨middle, work, rfl⟩
  · exact changed next work rfl
  · exact quiet_trans dsp middle _ (changed middle work (by rw [updateTaskStatus, modify_task_same])) (quiet_update middle pri)

end Algo

section Handlers

variable (dsp next : Dsp) (id pri : Nat) (reply : Reply)

theorem sw_not_hw (mode : TaskMode) (software : mode.isSw = true) : mode.isHw = false := by
  revert software
  cases mode <;> decide

theorem quiet_entered (task : DspTask) (mode : TaskMode) (free : task.status = .free) (kind : mode.isHw = task.type.isHw) :
    QuietEntry task (enteredTask mode task) := by
  have stopped : task.status ≠ .runing := by simp [free]
  refine ⟨?_, rfl, kind, .inl, fun running => absurd running stopped, fun running => absurd running stopped⟩
  simp only [enteredTask, free]
  split <;> simp

theorem quiet_release (stopped : ¬ Running dsp pri) : QuietCommand dsp (releaseTask dsp pri) :=
  quiet_modify dsp pri _ ⟨⟨fun freed => TaskStatus.noConfusion freed, fun running => absurd running stopped⟩, rfl, rfl, .inl,
    fun running => absurd running stopped, fun running => absurd running stopped⟩

theorem quiet_add (place : Nat) (inTable : pri < psMaxTaskType) (added : dspAddTaskToScheduler dsp pri = some (next, place)) :
    QuietCommand dsp next := by
  have listed (spot : Nat) (known : ∀ other entry, dsp.taskHandler other = some entry → entry < psMaxTaskType) (other entry : Nat)
      (found : Function.update dsp.taskHandler spot (some pri) other = some entry) : entry < psMaxTaskType := by
    by_cases same : other = spot
    · rw [same, Function.update_self] at found
      cases found
      exact inTable
    · rw [Function.update_of_ne same] at found
      exact known other entry found
  unfold dspAddTaskToScheduler at added
  split at added
  · split at added
    · cases added
      exact ⟨rfl, fun _ => quiet_entry_refl _, fun _ => .inl ⟨rfl, rfl⟩, listed _, fun small => small⟩
    · cases added
  · cases added
    exact ⟨rfl, fun _ => quiet_entry_refl _, fun _ => .inl ⟨rfl, rfl⟩, listed _, fun small => small⟩

theorem enter_quiet (mode : TaskMode) (inTable : pri < psMaxTaskType) (free : (dsp.tasks pri).status = .free)
    (kind : mode.isHw = (dsp.tasks pri).type.isHw) : QuietCommand dsp (enterTask dsp pri mode).1 := by
  have entered := quiet_modify dsp pri (enteredTask mode) (quiet_entered _ mode free kind)
  cases added : dspAddTaskToScheduler (modifyTask dsp pri (enteredTask mode)) pri with
  | none =>
      simp only [enterTask, added]
      refine quiet_trans dsp _ _ entered (quiet_release _ pri fun running => ?_)
      have stopped := ((entered.entries pri).running.mp running).symm.trans free
      cases stopped
  | some result =>
      obtain ⟨last, place⟩ := result
      simp only [enterTask, added]
      exact quiet_trans dsp _ _ entered (quiet_add _ last pri place inTable added)

theorem create_quiet (mode : Option TaskMode) (registered : Bool) : QuietCommand dsp (psCreateTask dsp mode registered).1 := by
  have unchanged : QuietCommand dsp dsp := quiet_same dsp dsp rfl rfl rfl rfl rfl rfl
  cases mode with
  | none => exact unchanged
  | some mode =>
      simp only [psCreateTask]
      split
      · rename_i software
        cases found : getFreeSwTask dsp with
        | none => exact unchanged
        | some pri =>
            obtain ⟨inTable, kind, free⟩ := free_task_found dsp pri _ found
            simp only
            split
            · exact enter_quiet dsp pri mode inTable free (by rw [sw_not_hw mode software, sw_not_hw _ kind])
            · exact unchanged
      · rename_i software
        have hardware : mode.isHw = true := by
          revert software
          cases mode <;> decide
        cases found : getFreeHwTask dsp with
        | none => exact unchanged
        | some pri =>
            obtain ⟨inTable, kind, free⟩ := free_task_found dsp pri _ found
            refine quiet_trans dsp (modifyTask dsp pri fun task => { task with taskPro := some .hw }) _
              (quiet_modify dsp pri _ ⟨.rfl, rfl, rfl, fun _ => .inr kind, fun _ => rfl, fun _ _ held => held⟩)
              (enter_quiet _ pri mode inTable (by rw [modify_task_same]; exact free) (by rw [modify_task_same, hardware]; exact kind.symm))

theorem destroy_quiet (stopped : ∀ pri, dspSearchTaskById dsp id = some pri → ¬ Running dsp pri) :
    QuietCommand dsp (psDestroyTask dsp id).1 := by
  cases found : dspSearchTaskById dsp id with
  | none =>
      simp only [psDestroyTask, found]
      exact quiet_same dsp dsp rfl rfl rfl rfl rfl rfl
  | some pri =>
      have removed : QuietCommand dsp (dspRemoveTaskFromScheduler dsp id) := by
        refine ⟨rfl, fun _ => quiet_entry_refl _, fun _ => .inl ⟨rfl, rfl⟩, fun inTable place owner listed => ?_, fun small => small⟩
        exact inTable place owner ((removed_listed dsp id place owner).mp listed).2
      obtain ⟨blocks, freed, -⟩ := free_algo_param_blocks pri (dspRemoveTaskFromScheduler dsp id)
      have given := algo_work_free pri (dspRemoveTaskFromScheduler dsp id) blocks
      rw [← freed] at given
      have forgotten := algo_work_trans pri _ _ _ given (algo_work_entry pri _ fun _ => ⟨-1, none, none⟩)
      have quiet := quiet_trans dsp _ _ removed (algo_end_quiet pri _ _ (.inl forgotten) fun running => absurd running (stopped pri found))
      simp only [psDestroyTask, found]
      exact quiet_trans dsp _ _ quiet (quiet_release _ pri fun running => stopped pri found ((quiet.entries pri).running.mp running))

theorem fe_quiet (message : FeConfig) (inTable : pri < psMaxTaskType)
    (bound : Running dsp pri → message.line = none ∨ message.line = some (dsp.tasks pri).irqNum)
    (outcome : FeOutcome dsp pri message next) : QuietCommand dsp next := by
  cases outcome with
  | refused isp vipre same =>
      subst same
      exact quiet_same dsp _ rfl rfl rfl rfl rfl rfl
  | cpu same =>
      subst same
      exact quiet_update dsp pri
  | bound isp vipre high line fe check asked valid named known same =>
      subst same
      have present : driverHandler line ≠ .null := by cases line <;> decide
      have searched : QuietCommand dsp { dsp with isp := isp, vipre := vipre, highPriTask := high } :=
        ⟨rfl, fun _ => quiet_entry_refl _, fun _ => .inl ⟨rfl, rfl⟩, fun known => known, fun small => by
          rcases named with same | below
          · exact same ▸ small
          · exact Int.lt_trans below (Int.ofNat_lt.mpr inTable)⟩
      refine quiet_trans dsp _ _ (quiet_trans dsp _ _ searched (quiet_driver _ line _ (driver_not_trigger line) present))
        (quiet_trans _ _ _ (quiet_modify _ pri _ ⟨.rfl, rfl, rfl, .inl, fun running => ?_, fun _ _ held => held⟩) (quiet_update _ pri))
      rcases bound running with other | same
      · rw [other] at asked
        cases asked
      · rw [same] at asked
        exact (Option.some.inj asked).symm

theorem be_quiet (message : BeConfig) (found : dspSearchTaskById dsp id = some pri)
    (done : dspTaskBeConfig dsp id message = some (next, reply)) : QuietCommand dsp next := by
  have quiet (middle : Dsp) (ready : middle.ready = dsp.ready) (tasks : middle.tasks = dsp.tasks)
      (vectors : middle.vectors = dsp.vectors) (enabled : middle.enabled = dsp.enabled) (handlers : middle.taskHandler = dsp.taskHandler)
      (high : middle.highPriTask = dsp.highPriTask) : QuietCommand dsp middle :=
    quiet_same dsp middle ready tasks vectors enabled handlers high
  have placed (middle : Dsp) (be : DspTask → DspBeHandler) :
      QuietCommand middle (updateTaskStatus (modifyTask middle pri fun task => { task with be := be task }) pri) :=
    quiet_trans _ _ _ (quiet_modify middle pri _ ⟨.rfl, rfl, rfl, .inl, fun _ => rfl, fun _ _ held => held⟩) (quiet_update _ pri)
  cases be_configured dsp id pri found next reply message done with
  | refused same =>
      rw [same]
      exact quiet dsp rfl rfl rfl rfl rfl rfl
  | rejected handler same =>
      rw [same]
      exact quiet _ rfl rfl rfl rfl rfl rfl
  | host config bufs place heap asked block free given same =>
      rw [same]
      exact quiet_trans dsp { dsp with heap := heap, swBe := Function.update dsp.swBe _ _ } _ (quiet _ rfl rfl rfl rfl rfl rfl)
        (placed _ _)
  | postIsp config handler asked same =>
      rw [same]
      exact quiet_trans dsp { dsp with postIsp := handler } _ (quiet _ rfl rfl rfl rfl rfl rfl)
        (quiet_trans _ _ _ (quiet_driver _ .postIsp .postIsp (by decide) (by decide)) (placed _ _))

theorem take_param_work (heap : Heap) (param : Nat) : AlgoWork pri dsp (takeParam dsp pri heap param) :=
  algo_work_trans pri dsp _ _ (algo_work_heap pri dsp heap)
    (algo_work_trans pri _ _ _ (algo_work_entry pri _ fun algo => { algo with param := some param }) (algo_work_heap pri _ _))

theorem config_work (message : AlgoConfigPar) (env : AlgoEnv) (found : dspSearchTaskById dsp id = some pri)
    (done : dspTaskAlgoConfig dsp id message env = some (next, reply)) : AlgoEnd pri dsp next ∧
      ((dsp.tasks pri).algo.param ≠ none → (next.tasks pri).algo.param = (dsp.tasks pri).algo.param ∨
        ¬ ((dsp.tasks pri).algo.algoProcess ≠ none ∧ message.algoPtr = 0 ∧ message.algoId = -1) ∧ ParamLost message env) := by
  cases config_way dsp id pri found next reply message env done with
  | starved held asked same =>
      rw [same]
      exact ⟨.inl (algo_work_heap pri dsp dsp.heap), fun some_ => absurd held some_⟩
  | fresh heap full param held asked given brought loaded =>
      refine ⟨?_, fun some_ => absurd held some_⟩
      exact algo_end_trans pri dsp _ next (take_param_work dsp pri full param) (load_config_work pri _ next param message env reply loaded).1
  | updated param held update done =>
      obtain ⟨settings, bufs, rfl⟩ := algo_update_same dsp next param message env reply done
      exact ⟨.inl (algo_work_heap pri dsp _), fun _ => .inl rfl⟩
  | again full param held other brought loaded =>
      obtain ⟨work, ways⟩ := load_config_work pri _ next param message env reply loaded
      refine ⟨algo_end_trans pri dsp _ next (algo_work_heap pri dsp full) work, fun _ => ways.imp (fun same => ?_) fun lost => ⟨other, lost⟩⟩
      rw [same, held]

theorem config_quiet (message : AlgoConfigPar) (env : AlgoEnv) (found : dspSearchTaskById dsp id = some pri)
    (kept : Running dsp pri → (dsp.tasks pri).type.isHw = true → (dsp.tasks pri).algo.param ≠ none →
      ¬ ((dsp.tasks pri).algo.algoProcess ≠ none ∧ message.algoPtr = 0 ∧ message.algoId = -1) → ¬ ParamLost message env)
    (done : dspTaskAlgoConfig dsp id message env = some (next, reply)) : QuietCommand dsp next := by
  obtain ⟨work, ways⟩ := config_work dsp next id pri reply message env found done
  refine algo_end_quiet pri dsp next work fun running kind held => ?_
  rcases ways held with same | ⟨fresh, lost⟩
  · rw [same]
    exact held
  · exact absurd lost (kept running kind held fresh)

theorem described_work (heap : Heap) (param : Nat) (algoId : Int) (process descNum : Nat) :
    AlgoWork pri dsp (describedTask dsp pri heap param algoId process descNum) := by
  have set := algo_work_entry pri (takeParam dsp pri heap param) fun algo => ⟨algoId, algo.param, some process⟩
  exact algo_work_trans pri dsp _ _ (take_param_work dsp pri heap param) (algo_work_trans pri _ _ _ set (algo_work_heap pri _ _))

theorem load_work (algoId : Int) (env : AlgoEnv) (found : dspSearchTaskById dsp id = some pri)
    (done : csiDspTaskAlgoLoad dsp id algoId env = some (next, reply)) :
    AlgoWork pri dsp next ∧ (next.tasks pri).algo.param = env.paramBlock := by
  cases load_way dsp id pri found next reply algoId env done with
  | starved asked same answer =>
      rw [same, asked]
      exact ⟨algo_work_entry pri dsp fun algo => { algo with param := none }, by simp [setParam]⟩
  | unloaded heap full param asked given brought missing same answer =>
      rw [same, asked]
      have unset := algo_work_entry pri (takeParam dsp pri full param) fun algo => ⟨(dsp.tasks pri).algo.algoId, algo.param, none⟩
      have work := algo_work_trans pri dsp _ _ (take_param_work dsp pri full param) unset
      exact ⟨algo_work_trans pri dsp _ _ work (algo_work_heap pri _ _), by simp [freeInDsp, setAlgo, takeParam, setParam]⟩
  | plain heap full param process descNum asked given brought loaded few same answer =>
      rw [same, asked]
      exact ⟨described_work dsp pri full param algoId process descNum, by rw [described_entry]⟩
  | unlisted heap full grown param process descNum asked given brought loaded hardware many missing more same answer =>
      have described := described_work dsp pri full param algoId process descNum
      have entry := described_entry dsp pri full param algoId process descNum
      rw [same, asked]
      exact ⟨algo_work_trans pri dsp _ _ described (algo_work_heap pri _ _), congrArg (fun task => task.algo.param) entry⟩
  | listed heap full grown param process descNum bufs asked given brought loaded hardware many list more same answer =>
      have described := described_work dsp pri full param algoId process descNum
      have entry := described_entry dsp pri full param algoId process descNum
      rw [same, asked]
      exact ⟨algo_work_trans pri dsp _ _ described (algo_work_heap pri _ _), congrArg (fun task => task.algo.param) entry⟩

theorem load_quiet (algoId : Int) (env : AlgoEnv) (found : dspSearchTaskById dsp id = some pri)
    (kept : Running dsp pri → (dsp.tasks pri).type.isHw = true → env.paramBlock ≠ none)
    (done : csiDspTaskAlgoLoad dsp id algoId env = some (next, reply)) : QuietCommand dsp next := by
  obtain ⟨work, same⟩ := load_work dsp next id pri reply algoId env found done
  exact algo_end_quiet pri dsp next (.inl work) fun running kind _ => same ▸ kept running kind

theorem report_quiet (flag : ReportFlag) (size : Nat) : QuietCommand dsp (psRegisterReportToTask dsp id flag size).1 := by
  have unchanged : QuietCommand dsp dsp := quiet_same dsp dsp rfl rfl rfl rfl rfl rfl
  have registered (pri : Nat) (report : DspTask → DspTaskReport) :
      QuietCommand dsp (modifyTask dsp pri fun task => { task with report := report task }) :=
    quiet_modify dsp pri _ ⟨.rfl, rfl, rfl, .inl, fun _ => rfl, fun _ _ held => held⟩
  cases found : dspSearchTaskById dsp id with
  | none =>
      rw [psRegisterReportToTask, found]
      exact unchanged
  | some pri =>
      rcases report_configured dsp id pri found flag size with same | ⟨report, same⟩
      · rw [same]
        exact unchanged
      · rw [same]
        exact registered pri report

theorem assgin_quiet (config : SwBeConfigPar) (done : dspBackendAssginBufHandler dsp id config = some (next, reply)) :
    QuietCommand dsp next := by
  unfold dspBackendAssginBufHandler at done
  split at done
  · cases done
    exact quiet_same dsp dsp rfl rfl rfl rfl rfl rfl
  · simp only [Option.ite_none_left_eq_some] at done
    obtain ⟨⟨handler, assigned⟩, -, same⟩ := Option.bind_eq_some_iff.mp done.2
    cases same
    exact quiet_same dsp _ rfl rfl rfl rfl rfl rfl

end Handlers

end CsiDsp
