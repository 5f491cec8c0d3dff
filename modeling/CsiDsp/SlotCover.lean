import CsiDsp.TaskLife

set_option autoImplicit false

namespace CsiDsp

open CInt

-- The firmware with another content in one entry of the table.
def coverEntry (slot : Nat) (veil : DspTask → DspTask) (dsp : Dsp) : Dsp := modifyTask dsp slot veil

@[simp] theorem cover_search (slot id : Nat) (veil : DspTask → DspTask) (dsp : Dsp) :
    dspSearchTaskById (coverEntry slot veil dsp) id = dspSearchTaskById dsp id := rfl

@[simp] theorem cover_rings (slot : Nat) (veil : DspTask → DspTask) (dsp : Dsp) : (coverEntry slot veil dsp).swBe = dsp.swBe := rfl

-- What the commands look at in an entry, apart from its line and its link.
structure SeenAlike (task other : DspTask) : Prop where
  kind : other.type = task.type
  status : other.status = task.status
  front : other.fe.type = task.fe.type
  be : other.be = task.be
  algo : other.algo = task.algo
  pro : other.taskPro = task.taskPro
  report : other.report = task.report
  check : other.emptyCheck = task.emptyCheck

-- A change of an entry that the commands neither see nor disturb.
structure Veil (veil : DspTask → DspTask) : Prop where
  seen : ∀ task, SeenAlike task (veil task)
  status : ∀ task status, veil { task with status := status } = { veil task with status := status }
  be : ∀ task be, veil { task with be := be } = { veil task with be := be }
  algo : ∀ task algo, veil { task with algo := algo } = { veil task with algo := algo }
  report : ∀ task report, veil { task with report := report } = { veil task with report := report }
  check : ∀ task check, veil { task with emptyCheck := check } = { veil task with emptyCheck := check }
  alloc : ∀ mode task, allocatedTask mode (veil task) = veil (allocatedTask mode task)

def linkVeil (handler : Handler) (arg : Int) (task : DspTask) : DspTask := { task with intrHandler := handler, intrArg := arg }

-- A front end that has not been configured since TASK_ALLOC, and the line it was bound to.
def frontVeil (id : Int) (ops : Option FeOps) (line : Irq) (handler : Handler) (arg : Int) (task : DspTask) : DspTask :=
  linkVeil handler arg { task with fe := { task.fe with id := id, ops := ops }, irqNum := line }

theorem link_veil (handler : Handler) (arg : Int) : Veil (linkVeil handler arg) := by
  refine ⟨fun _ => ⟨rfl, rfl, rfl, rfl, rfl, rfl, rfl, rfl⟩, fun _ _ => rfl, fun _ _ => rfl, fun _ _ => rfl, fun _ _ => rfl,
    fun _ _ => rfl,
    fun mode task => ?_⟩
  cases software : mode.isSw <;> (rw [allocatedTask, allocatedTask, software]; rfl)

theorem front_veil (id : Int) (ops : Option FeOps) (line : Irq) (handler : Handler) (arg : Int) :
    Veil (frontVeil id ops line handler arg) := by
  refine ⟨fun _ => ⟨rfl, rfl, rfl, rfl, rfl, rfl, rfl, rfl⟩, fun _ _ => rfl, fun _ _ => rfl, fun _ _ => rfl, fun _ _ => rfl,
    fun _ _ => rfl,
    fun mode task => ?_⟩
  cases software : mode.isSw <;> (rw [allocatedTask, allocatedTask, software]; rfl)

theorem updated_status_seen (task other : DspTask) (seen : SeenAlike task other) : updatedStatus other = updatedStatus task := by
  rw [updatedStatus, updatedStatus, seen.kind, seen.status, seen.front, seen.be, seen.algo]

section Entry

variable (slot pri : Nat) (veil : DspTask → DspTask) (dsp : Dsp)

@[simp] theorem cover_same : (coverEntry slot veil dsp).tasks slot = veil (dsp.tasks slot) := modify_task_same dsp slot veil

theorem cover_other (different : pri ≠ slot) : (coverEntry slot veil dsp).tasks pri = dsp.tasks pri :=
  modify_task_other dsp slot pri veil different

theorem cover_tasks (next : Dsp) (tasks : next.tasks = dsp.tasks) : (coverEntry slot veil next).tasks =
    (coverEntry slot veil dsp).tasks := by
  simp only [coverEntry, modifyTask, tasks]

theorem cover_modify_other (change : DspTask → DspTask) (different : pri ≠ slot) :
    modifyTask (coverEntry slot veil dsp) pri change = coverEntry slot veil (modifyTask dsp pri change) := by
  simp only [coverEntry, modifyTask, Function.update_of_ne different, Function.update_of_ne (Ne.symm different)]
  rw [Function.update_comm different]

variable (sees : pri ≠ slot ∨ Veil veil)

include sees

theorem cover_seen : SeenAlike (dsp.tasks pri) ((coverEntry slot veil dsp).tasks pri) := by
  by_cases same : pri = slot
  · subst same
    rw [cover_same]
    exact (sees.resolve_left fun different => different rfl).seen _
  · rw [cover_other slot pri veil dsp same]
    exact ⟨rfl, rfl, rfl, rfl, rfl, rfl, rfl, rfl⟩

-- A change that the veil does not disturb can be made under it.
theorem cover_modify (change : DspTask → DspTask) (plain : Veil veil → ∀ task, change (veil task) = veil (change task)) :
    modifyTask (coverEntry slot veil dsp) pri change = coverEntry slot veil (modifyTask dsp pri change) := by
  by_cases same : pri = slot
  · subst same
    have commutes := plain (sees.resolve_left fun different => different rfl)
    rw [coverEntry, coverEntry, modify_modify, modify_modify]
    simp only [commutes]
  · exact cover_modify_other slot pri veil dsp change same

theorem cover_update_status : updateTaskStatus (coverEntry slot veil dsp) pri = coverEntry slot veil (updateTaskStatus dsp pri) :=
  cover_modify slot pri veil dsp sees _ fun hides task =>
    (congrArg (fun status => { veil task with status := status }) (updated_status_seen _ _ (hides.seen task))).trans (hides.status task _).symm

theorem cover_algo_entry (change : DspAlgoHandler → DspAlgoHandler) :
    modifyTask (coverEntry slot veil dsp) pri (fun task => { task with algo := change task.algo }) =
      coverEntry slot veil (modifyTask dsp pri fun task => { task with algo := change task.algo }) :=
  cover_modify slot pri veil dsp sees _ fun hides task =>
    (congrArg (fun algo => { veil task with algo := change algo }) (hides.seen task).algo).trans (hides.algo task _).symm

theorem cover_set_param (param : Option Nat) : setParam (coverEntry slot veil dsp) pri param =
    coverEntry slot veil (setParam dsp pri param) :=
  cover_algo_entry slot pri veil dsp sees fun algo => { algo with param := param }

theorem cover_set_algo (algoId : Int) (process : Option Nat) :
    setAlgo (coverEntry slot veil dsp) pri algoId process = coverEntry slot veil (setAlgo dsp pri algoId process) :=
  cover_algo_entry slot pri veil dsp sees fun algo => { algo with algoId := algoId, algoProcess := process }

omit sees in
theorem cover_free_in (blocks : List (Option Nat)) :
    blocks.foldl freeInDsp (coverEntry slot veil dsp) = coverEntry slot veil (blocks.foldl freeInDsp dsp) := by
  induction blocks generalizing dsp with
  | nil => rfl
  | cons block rest ih => exact ih (freeInDsp dsp block)

omit sees in
theorem cover_write_param (param : Nat) (change : AlgoParam → AlgoParam) :
    writeParam (coverEntry slot veil dsp) param change = coverEntry slot veil (writeParam dsp param change) := rfl

omit sees in
theorem cover_with_heap (heap : Heap) :
    ({ coverEntry slot veil dsp with heap := heap } : Dsp) = coverEntry slot veil { dsp with heap := heap } := rfl

theorem cover_drop_param (param : Nat) (blocks : List (Option Nat)) :
    dropParam (coverEntry slot veil dsp) pri param blocks = coverEntry slot veil (dropParam dsp pri param blocks) := by
  rw [dropParam, cover_free_in]
  exact cover_set_param slot pri veil (freeInDsp (blocks.foldl freeInDsp dsp) (some param)) sees none

theorem cover_take_param (heap : Heap) (param : Nat) :
    takeParam (coverEntry slot veil dsp) pri heap param = coverEntry slot veil (takeParam dsp pri heap param) :=
  congrArg (fun taken => writeParam taken param fun _ => zeroParam) (cover_set_param slot pri veil { dsp with heap := heap } sees (some param))

end Entry

def coverAnswer {Answer : Type} (slot : Nat) (veil : DspTask → DspTask) (answer : Dsp × Answer) : Dsp × Answer :=
  (coverEntry slot veil answer.1, answer.2)

section Algo

variable (slot pri : Nat) (veil : DspTask → DspTask) (dsp : Dsp) (sees : pri ≠ slot ∨ Veil veil) (param : Nat)
  (message : AlgoConfigPar) (env : AlgoEnv)

include sees

omit sees in
theorem cover_take_buffers (bufs : Nat → AlgoBuffer) : takeBuffers (coverEntry slot veil dsp) param message bufs =
    coverAnswer slot veil (takeBuffers dsp param message bufs) := by
  unfold takeBuffers
  dsimp only
  rw [show (coverEntry slot veil dsp).heap = dsp.heap from rfl]
  split
  · rfl
  · split <;> rfl

omit sees in
theorem cover_algo_load : dspAlgoLoad (coverEntry slot veil dsp) env = (dspAlgoLoad dsp env).map (coverEntry slot veil) := by
  rw [dspAlgoLoad, dspAlgoLoad, Option.map_map]
  rfl

omit sees in
theorem cover_algo_update : dspTaskAlgoUpdate (coverEntry slot veil dsp) param message env =
    (dspTaskAlgoUpdate dsp param message env).map (coverAnswer slot veil) := by
  have settings (block : AlgoParam) : updateSettings (coverEntry slot veil dsp) block message env.settings =
      coverAnswer slot veil (updateSettings dsp block message env.settings) := rfl
  have buffers (settled : Dsp) (block : AlgoParam) : updateBufs (coverEntry slot veil settled) block message env.bufs =
      (updateBufs settled block message env.bufs).map (coverAnswer slot veil) := by
    cases list : block.bufferStructPtr with
    | some place =>
        simp only [updateBufs, list]
        rfl
    | none =>
        simp only [updateBufs, list]
        split
        · rfl
        · split <;> rfl
  simp only [dspTaskAlgoUpdate, settings, show (coverEntry slot veil dsp).heap = dsp.heap from rfl]
  rw [coverAnswer]
  dsimp only
  rw [buffers, Option.map_map, Option.map_map]
  rfl

theorem cover_take_settings : takeSettings (coverEntry slot veil dsp) pri param message env =
    (takeSettings dsp pri param message env).map (coverAnswer slot veil) := by
  unfold takeSettings
  split
  · show (malloc dsp.heap env.setBlock).bind _ = ((malloc dsp.heap env.setBlock).bind _).map _
    cases malloc dsp.heap env.setBlock with
    | none => rfl
    | some heap =>
        simp only [Option.bind_some, cover_with_heap, cover_write_param]
        generalize writeParam { dsp with heap := heap } param _ = stored
        cases env.setBlock with
        | none => exact congrArg (fun dropped => some (dropped, false)) (cover_drop_param slot pri veil stored sees param _)
        | some block => rfl
  · rfl

theorem cover_take_list (descNum : Nat) : takeBufferList (coverEntry slot veil dsp) pri param message env descNum =
    (takeBufferList dsp pri param message env descNum).map (coverAnswer slot veil) := by
  unfold takeBufferList
  show (malloc dsp.heap env.bufsBlock).bind _ = ((malloc dsp.heap env.bufsBlock).bind _).map _
  cases malloc dsp.heap env.bufsBlock with
  | none => rfl
  | some heap =>
      simp only [Option.bind_some, cover_with_heap, cover_write_param]
      generalize writeParam { dsp with heap := heap } param _ = listed
      cases env.bufsBlock with
      | none => exact congrArg (fun dropped => some (dropped, _)) (cover_drop_param slot pri veil listed sees param [])
      | some block =>
          dsimp only
          generalize cleared : (writeBufs listed block fun place => if place < descNum then zeroAlgoBuffer else listed.heap.bufs block place) =
            middle
          rw [show writeBufs (coverEntry slot veil listed) block (fun place =>
            if place < descNum then zeroAlgoBuffer else (coverEntry slot veil listed).heap.bufs block place) =
              coverEntry slot veil middle by rw [← cleared]; rfl, cover_take_settings slot pri veil middle sees]
          cases takeSettings middle pri param message env with
          | none => rfl
          | some result =>
              obtain ⟨settled, took⟩ := result
              cases took with
              | false => rfl
              | true =>
                  simp only [Option.map_some, coverAnswer, Option.bind_eq_bind, Option.bind_some, Bool.true_eq_false, if_false,
                    cover_take_buffers]
                  split
                  · rfl
                  · exact congrArg (fun updated => some (updated, _)) (cover_update_status slot pri veil _ sees)

theorem cover_load_config : dspTaskAlgoLoadConfig (coverEntry slot veil dsp) pri param message env =
    (dspTaskAlgoLoadConfig dsp pri param message env).map (coverAnswer slot veil) := by
  unfold dspTaskAlgoLoadConfig
  cases env.load with
  | none =>
      simp only [cover_set_algo slot pri veil dsp sees]
      exact congrArg (fun dropped => some (dropped, _)) (cover_drop_param slot pri veil (setAlgo dsp pri message.algoId none) sees param [])
  | some loaded =>
      obtain ⟨process, descNum⟩ := loaded
      simp only [cover_set_algo slot pri veil dsp sees, cover_write_param]
      generalize writeParam (setAlgo dsp pri message.algoId (some process)) param _ = named
      rw [(cover_seen slot pri veil named sees).kind]
      split
      · exact congrArg (fun updated => some (updated, _)) (cover_update_status slot pri veil named sees)
      · split
        · rfl
        · exact cover_take_list slot pri veil named sees param message env descNum

end Algo

section Commands

variable (slot id : Nat) (veil : DspTask → DspTask) (dsp : Dsp)
  (sees : ∀ pri, dspSearchTaskById dsp id = some pri → pri ≠ slot ∨ Veil veil)

include sees

theorem cover_config (message : AlgoConfigPar) (env : AlgoEnv) : dspTaskAlgoConfig (coverEntry slot veil dsp) id message env =
    (dspTaskAlgoConfig dsp id message env).map (coverAnswer slot veil) := by
  simp only [dspTaskAlgoConfig, cover_search]
  cases found : dspSearchTaskById dsp id with
  | none => rfl
  | some pri =>
      simp only [(cover_seen slot pri veil dsp (sees pri found)).algo]
      cases (dsp.tasks pri).algo.param with
      | none =>
          show (malloc dsp.heap env.paramBlock).bind _ = ((malloc dsp.heap env.paramBlock).bind _).map _
          cases malloc dsp.heap env.paramBlock with
          | none => rfl
          | some heap =>
              cases env.paramBlock with
              | none => rfl
              | some param =>
                  simp only [Option.bind_some, cover_take_param slot pri veil dsp (sees pri found), cover_algo_load]
                  cases dspAlgoLoad (takeParam dsp pri heap param) env with
                  | none => rfl
                  | some brought => exact cover_load_config slot pri veil brought (sees pri found) param message env
      | some param =>
          dsimp only
          split
          · exact cover_algo_update slot veil dsp param message env
          · rw [cover_algo_load]
            cases dspAlgoLoad dsp env with
            | none => rfl
            | some brought => exact cover_load_config slot pri veil brought (sees pri found) param message env

theorem cover_load (algoId : Int) (env : AlgoEnv) : csiDspTaskAlgoLoad (coverEntry slot veil dsp) id algoId env =
    (csiDspTaskAlgoLoad dsp id algoId env).map (coverAnswer slot veil) := by
  simp only [csiDspTaskAlgoLoad, cover_search]
  cases found : dspSearchTaskById dsp id with
  | none => rfl
  | some pri =>
      have seesPri := sees pri found
      show (malloc dsp.heap env.paramBlock).bind _ = ((malloc dsp.heap env.paramBlock).bind _).map _
      cases malloc dsp.heap env.paramBlock with
      | none => rfl
      | some heap =>
          cases env.paramBlock with
          | none => exact congrArg (fun set => some (set, _)) (cover_set_param slot pri veil dsp seesPri none)
          | some param =>
              simp only [Option.bind_some, cover_take_param slot pri veil dsp seesPri, cover_algo_load]
              cases dspAlgoLoad (takeParam dsp pri heap param) env with
              | none => rfl
              | some taken =>
                  simp only [Option.map_some, Option.bind_eq_bind, Option.bind_some, (cover_seen slot pri veil taken seesPri).algo, cover_set_algo slot pri veil taken seesPri, cover_write_param]
                  cases env.load with
                  | none => rfl
                  | some loaded =>
                      obtain ⟨process, descNum⟩ := loaded
                      dsimp only
                      generalize writeParam (setAlgo taken pri algoId (some process)) param _ = named
                      rw [(cover_seen slot pri veil named seesPri).kind]
                      by_cases plain : (named.tasks pri).type.isHw = false ∨ descNum = 0
                      · rw [if_pos plain, if_pos plain]
                        rfl
                      · rw [if_neg plain, if_neg plain]
                        show (malloc named.heap env.bufsBlock).bind _ = ((malloc named.heap env.bufsBlock).bind _).map _
                        cases malloc named.heap env.bufsBlock with
                        | none => rfl
                        | some grown => cases env.bufsBlock <;> rfl

theorem cover_be_entry (pri : Nat) (found : dspSearchTaskById dsp id = some pri) (middle : Dsp) (change : DspBeHandler → DspBeHandler) :
    updateTaskStatus (modifyTask (coverEntry slot veil middle) pri fun task => { task with be := change task.be }) pri =
      coverEntry slot veil (updateTaskStatus (modifyTask middle pri fun task => { task with be := change task.be }) pri) := by
  rw [cover_modify slot pri veil middle (sees pri found) _ fun hides task =>
    (congrArg (fun be => { veil task with be := change be }) (hides.seen task).be).trans (hides.be task _).symm]
  exact cover_update_status slot pri veil _ (sees pri found)

theorem cover_be_config (message : BeConfig) : dspTaskBeConfig (coverEntry slot veil dsp) id message =
    (dspTaskBeConfig dsp id message).map (coverAnswer slot veil) := by
  simp only [dspTaskBeConfig, cover_search]
  cases found : dspSearchTaskById dsp id with
  | none => rfl
  | some pri =>
      cases message with
      | illegal => rfl
      | host config bufs =>
          simp only [psSwTaskOutConfigMessageHandler, (cover_seen slot pri veil dsp (sees pri found)).report,
            cover_rings, show (coverEntry slot veil dsp).heap = dsp.heap from rfl]
          cases freeSwBeId dsp.swBe with
          | none => rfl
          | some place =>
              dsimp only
              cases malloc dsp.heap bufs with
              | none => rfl
              | some heap =>
                  cases bufs with
                  | none => rfl
                  | some block =>
                      exact congrArg (fun placed => some (placed, _)) (cover_be_entry slot id veil dsp sees pri found
                        { dsp with heap := heap, swBe := Function.update dsp.swBe place (swBeStart config (dsp.tasks pri).report.buf
                          (dsp.tasks pri).report.bufSize) } fun _ => ⟨.host, place, some .host⟩)
      | postIsp config =>
          simp only [psPostIspConfigMessageHandler, show (coverEntry slot veil dsp).postIsp = dsp.postIsp from rfl]
          split
          · rfl
          · cases postIspHandlerConfig (postIspInitialize config.id.toNat dsp.postIsp).1 config with
            | none => rfl
            | some result =>
                obtain ⟨handler, ret⟩ := result
                simp only [Option.bind_eq_bind, Option.bind_some]
                split
                · rfl
                · exact congrArg (fun placed => some (placed, _)) (cover_be_entry slot id veil dsp sees pri found
                    (registerDriver { dsp with postIsp := handler } .postIsp .postIsp) fun be =>
                      { be with type := .postIsp, ops := some .postIsp })

theorem cover_report (flag : ReportFlag) (size : Nat) : psRegisterReportToTask (coverEntry slot veil dsp) id flag size =
    coverAnswer slot veil (psRegisterReportToTask dsp id flag size) := by
  have registered (pri : Nat) (found : dspSearchTaskById dsp id = some pri) (change : DspTaskReport → DspTaskReport) :
      modifyTask (coverEntry slot veil dsp) pri (fun task => { task with report := change task.report }) =
        coverEntry slot veil (modifyTask dsp pri fun task => { task with report := change task.report }) :=
    cover_modify slot pri veil dsp (sees pri found) _ fun hides task =>
      (congrArg (fun report => { veil task with report := change report }) (hides.seen task).report).trans (hides.report task _).symm
  simp only [psRegisterReportToTask, cover_search, show (coverEntry slot veil dsp).cmd = dsp.cmd from rfl]
  cases found : dspSearchTaskById dsp id with
  | none => rfl
  | some pri =>
      cases flag with
      | other => rfl
      | release => exact congrArg (fun set => (set, _)) (registered pri found fun report => { report with reportId := noReport })
      | setup =>
          cases xrpGetReportBuffer dsp.cmd with
          | none => rfl
          | some buffer =>
              obtain ⟨address, limit⟩ := buffer
              dsimp only
              split
              · exact congrArg (fun set => (set, _)) (registered pri found fun report => { report with buf := some address, bufSize := limit })
              · exact congrArg (fun set => (set, _)) (registered pri found fun _ => ⟨BitVec.ofNat 32 id, some address, size⟩)

theorem cover_assgin (config : SwBeConfigPar) : dspBackendAssginBufHandler (coverEntry slot veil dsp) id config =
    (dspBackendAssginBufHandler dsp id config).map (coverAnswer slot veil) := by
  simp only [dspBackendAssginBufHandler, cover_search, cover_rings]
  cases found : dspSearchTaskById dsp id with
  | none => rfl
  | some pri =>
      dsimp only
      rw [(cover_seen slot pri veil dsp (sees pri found)).be]
      split
      · rfl
      · cases swBeAsginBuf (dsp.swBe (dsp.tasks pri).be.id) config <;> rfl

theorem cover_destroy : psDestroyTask (coverEntry slot veil dsp) id = coverAnswer slot veil (psDestroyTask dsp id) := by
  simp only [psDestroyTask, cover_search,
    show dspRemoveTaskFromScheduler (coverEntry slot veil dsp) id = coverEntry slot veil (dspRemoveTaskFromScheduler dsp id) from rfl]
  cases found : dspSearchTaskById dsp id with
  | none => rfl
  | some pri =>
      have seesPri := sees pri found
      generalize dspRemoveTaskFromScheduler dsp id = removed
      have freed : freeAlgoParam (coverEntry slot veil removed) pri = coverEntry slot veil (freeAlgoParam removed pri) := by
        have seen := cover_seen slot pri veil removed seesPri
        rw [freeAlgoParam, freeAlgoParam, seen.algo, seen.kind]
        cases (removed.tasks pri).algo.param with
        | none => rfl
        | some param => cases (removed.tasks pri).type.isHw <;> rfl
      dsimp only
      rw [freed, cover_algo_entry slot pri veil _ seesPri fun _ => ⟨-1, none, none⟩, releaseTask,
        cover_modify slot pri veil _ seesPri _ fun hides task => (hides.status task .free).symm]
      rfl

variable (stopped : (dsp.tasks slot).status ≠ .runing)

include stopped

theorem cover_stop : dspTaskStop (coverEntry slot veil dsp) id = coverAnswer slot veil (dspTaskStop dsp id) := by
  simp only [dspTaskStop, cover_search]
  cases found : dspSearchTaskById dsp id with
  | none => rfl
  | some pri =>
      have seen := cover_seen slot pri veil dsp (sees pri found)
      by_cases same : pri = slot
      · subst same
        dsimp only
        rw [seen.status]
        cases status : (dsp.tasks pri).status with
        | runing => exact absurd status stopped
        | free | idel | ready | invalid => rfl
      · dsimp only
        rw [cover_other slot pri veil dsp same]
        cases (dsp.tasks pri).status with
        | free | idel | ready | invalid => rfl
        | runing =>
            have reset : psTaskInterruptDisable (coverEntry slot veil dsp) pri (dsp.tasks pri).irqNum =
                coverEntry slot veil (psTaskInterruptDisable dsp pri (dsp.tasks pri).irqNum) := by
              rw [psTaskInterruptDisable, reinstallOld, cover_other slot pri veil dsp same]
              rfl
            dsimp only
            rw [reset, cover_modify slot pri veil _ (.inl same) _ fun hides task => (hides.status task .ready).symm]
            rfl

end Commands

section Scans

variable (slot pri : Nat) (veil : DspTask → DspTask) (dsp : Dsp)

-- TASK_START looks for tasks that run.
theorem cover_latest (irq : Irq) (stopped : (dsp.tasks slot).status ≠ .runing) (still : (veil (dsp.tasks slot)).status ≠ .runing) :
    dspGetLatestHwTask (coverEntry slot veil dsp) pri irq = dspGetLatestHwTask dsp pri irq := by
  have entry (id : Nat) : (id ≠ pri && ((coverEntry slot veil dsp).tasks id).type.isHw &&
      ((coverEntry slot veil dsp).tasks id).status == .runing && ((coverEntry slot veil dsp).tasks id).irqNum == irq) =
      (id ≠ pri && (dsp.tasks id).type.isHw && (dsp.tasks id).status == .runing && (dsp.tasks id).irqNum == irq) := by
    by_cases same : id = slot
    · subst same
      rw [cover_same, beq_eq_false_iff_ne.mpr stopped, beq_eq_false_iff_ne.mpr still]
      simp
    · rw [cover_other slot id veil dsp same]
  simp only [dspGetLatestHwTask, entry]

theorem cover_free_task (kind : TaskMode → Bool) (sameKind : kind (veil (dsp.tasks slot)).type = kind (dsp.tasks slot).type)
    (status : (veil (dsp.tasks slot)).status = (dsp.tasks slot).status) :
    getFreeTask (coverEntry slot veil dsp) kind = getFreeTask dsp kind := by
  have entry (id : Nat) : (kind ((coverEntry slot veil dsp).tasks id).type && ((coverEntry slot veil dsp).tasks id).status == .free) =
      (kind (dsp.tasks id).type && (dsp.tasks id).status == .free) := by
    by_cases same : id = slot
    · subst same
      rw [cover_same, sameKind, status]
    · rw [cover_other slot id veil dsp same]
  simp only [getFreeTask, entry]

-- FE_CONFIG looks for tasks of the scheduler's list with the same front end.
theorem cover_higher_prio (sees : pri ≠ slot ∨ Veil veil) (listed : (∀ id, dsp.taskHandler id ≠ some slot) ∨ Veil veil) :
    dspSearchHigherPrioTask (coverEntry slot veil dsp) pri = dspSearchHigherPrioTask dsp pri := by
  have own := (cover_seen slot pri veil dsp sees).front
  have entry (place : Nat) : ((coverEntry slot veil dsp).taskHandler place).bind (fun other =>
      if other ≠ pri ∧ ((coverEntry slot veil dsp).tasks other).fe.type = ((coverEntry slot veil dsp).tasks pri).fe.type ∧ other < pri
        then some other else none) =
      (dsp.taskHandler place).bind fun other =>
        if other ≠ pri ∧ (dsp.tasks other).fe.type = (dsp.tasks pri).fe.type ∧ other < pri then some other else none := by
    rw [own, show (coverEntry slot veil dsp).taskHandler = dsp.taskHandler from rfl]
    cases owner : dsp.taskHandler place with
    | none => rfl
    | some other =>
        have seesOther : other ≠ slot ∨ Veil veil := listed.imp (fun unlisted same => unlisted place (same ▸ owner)) fun hides => hides
        simp only [Option.bind_some, (cover_seen slot other veil dsp seesOther).front]
  simp only [dspSearchHigherPrioTask, entry, show (coverEntry slot veil dsp).taskNum = dsp.taskNum from rfl]

end Scans

-- Once the front end of an entry is configured, a veil hides its link only.
def Uncovers (slot pri : Nat) (veil after : DspTask → DspTask) : Prop :=
  pri ≠ slot ∧ after = veil ∨ pri = slot ∧ ∃ handler arg, after = linkVeil handler arg ∧
    ∀ task fe line, { veil task with fe := fe, irqNum := line } = linkVeil handler arg { task with fe := fe, irqNum := line }

section FrontEnd

variable (slot id pri : Nat) (veil after : DspTask → DspTask) (dsp : Dsp) (uncovers : Uncovers slot pri veil after)

include uncovers

theorem uncovered_sees : pri ≠ slot ∨ Veil after := by
  rcases uncovers with ⟨different, -⟩ | ⟨-, handler, arg, same, -⟩
  · exact .inl different
  · exact .inr (same ▸ link_veil handler arg)

theorem cover_bound (fe : DspFeHandler) (line : Irq) :
    bindIrq (modifyTask (coverEntry slot veil dsp) pri fun task => { task with fe := fe }) pri line =
      coverEntry slot after (bindIrq (modifyTask dsp pri fun task => { task with fe := fe }) pri line) := by
  rw [bindIrq, bindIrq, modify_modify, modify_modify]
  rcases uncovers with ⟨different, rfl⟩ | ⟨rfl, handler, arg, rfl, law⟩
  · exact cover_modify_other slot pri _ dsp _ different
  · rw [coverEntry, coverEntry, modify_modify, modify_modify]
    exact congrArg (modifyTask dsp pri) (funext fun task => law task fe line)

theorem cover_choose (listed : (∀ id, dsp.taskHandler id ≠ some slot) ∨ Veil after) :
    chooseEmptyCheck (coverEntry slot after dsp) pri = coverEntry slot after (chooseEmptyCheck dsp pri) := by
  have sees := uncovered_sees slot pri veil after uncovers
  simp only [chooseEmptyCheck, cover_higher_prio slot pri after dsp sees listed]
  exact cover_modify slot pri after { dsp with highPriTask := dspSearchHigherPrioTask dsp pri } sees _ fun hides task =>
    (hides.check task _).symm

theorem cover_fe_config (message : FeConfig) (found : dspSearchTaskById dsp id = some pri) (sees : pri ≠ slot ∨ Veil veil)
    (listed : (∀ id, dsp.taskHandler id ≠ some slot) ∨ Veil after) : dspTaskFeConfig (coverEntry slot veil dsp) id message =
      (dspTaskFeConfig dsp id message).map fun answer =>
        coverAnswer slot (if answer.2 = .status .ok ∧ message.line ≠ none then after else veil) answer := by
  have seesAfter := uncovered_sees slot pri veil after uncovers
  simp only [dspTaskFeConfig, cover_search, found]
  cases message with
  | illegal => rfl
  | cpu =>
      dsimp only
      rw [cover_update_status slot pri veil dsp sees]
      rfl
  | isp config =>
      simp only [psIspConfigMessageHandler, show (coverEntry slot veil dsp).isp = dsp.isp from rfl]
      split
      · rfl
      · cases ispHandlerConfig (ispInitialize config.id.toNat dsp.isp).1 config with
        | none => rfl
        | some result =>
            obtain ⟨handler, ret⟩ := result
            simp only [Option.bind_eq_bind, Option.bind_some]
            split
            · rfl
            · have bound := cover_bound slot pri veil after (registerDriver { dsp with isp := handler } (psGetIspIrq config.id.toNat) .isp)
                uncovers ⟨.isp, config.id.toNat, some .isp⟩ (psGetIspIrq config.id.toNat)
              have settled := (congrArg (fun set => updateTaskStatus set pri) bound).trans (cover_update_status slot pri after _ seesAfter)
              simp only [FeConfig.line, ne_eq, reduceCtorEq, not_false_eq_true]
              exact congrArg (fun set => some (set, _)) settled
  | vipre config =>
      simp only [psVipreConfigMessageHandler]
      cases vipreConfigure config with
      | none => rfl
      | some result =>
          obtain ⟨handler, ok⟩ := result
          cases ok with
          | false => rfl
          | true =>
              have bound := cover_bound slot pri veil after (registerDriver { dsp with vipre := handler } .vipre .vipre) uncovers
                ⟨.vipre, config.id.toNat, some .vipre⟩ .vipre
              have chosen := (congrArg (fun set => chooseEmptyCheck set pri) bound).trans (cover_choose slot pri veil after _ uncovers listed)
              have settled := (congrArg (fun set => updateTaskStatus set pri) chosen).trans (cover_update_status slot pri after _ seesAfter)
              simp only [Option.bind_eq_bind, Option.bind_some, Bool.true_eq_false, if_false, Option.map_some, FeConfig.line, ne_eq,
                reduceCtorEq, not_false_eq_true, and_self, if_true]
              exact congrArg (fun set => some (set, _)) settled

end FrontEnd

section Start

variable (slot id pri : Nat) (veil : DspTask → DspTask) (dsp : Dsp) (handler : Handler) (arg : Int)

theorem cover_start_other (found : dspSearchTaskById dsp id = some pri) (different : pri ≠ slot)
    (stopped : (dsp.tasks slot).status ≠ .runing) (still : (veil (dsp.tasks slot)).status ≠ .runing) :
    dspTaskStart (coverEntry slot veil dsp) id = coverAnswer slot veil (dspTaskStart dsp id) := by
  simp only [dspTaskStart, cover_search, found, cover_other slot pri veil dsp different]
  cases (dsp.tasks pri).status with
  | free | idel | runing | invalid => rfl
  | ready =>
      simp only [psTaskInterruptRegister, show (coverEntry slot veil dsp).vectors = dsp.vectors from rfl]
      generalize (dsp.tasks pri).irqNum = irq
      split
      · rfl
      · have latest := cover_latest slot pri veil (installTrigger dsp pri irq) irq stopped still
        have linked : linkOldHandler (coverEntry slot veil (installTrigger dsp pri irq)) pri irq (dsp.vectors irq).handler =
            coverEntry slot veil (linkOldHandler (installTrigger dsp pri irq) pri irq (dsp.vectors irq).handler) := by
          rw [linkOldHandler, linkOldHandler, latest]
          exact cover_modify_other slot pri veil _ _ different
        have started := cover_modify_other slot pri veil
          (enableLine (linkOldHandler (installTrigger dsp pri irq) pri irq (dsp.vectors irq).handler) irq)
          (fun task => { task with status := .runing }) different
        rw [show coverEntry slot veil (enableLine (linkOldHandler (installTrigger dsp pri irq) pri irq (dsp.vectors irq).handler) irq) =
          enableLine (coverEntry slot veil (linkOldHandler (installTrigger dsp pri irq) pri irq (dsp.vectors irq).handler)) irq from rfl,
          ← linked] at started
        exact congrArg (fun running => (running, _)) started

theorem cover_start_refused (found : dspSearchTaskById dsp id = some slot) (hides : Veil veil)
    (notReady : (dsp.tasks slot).status ≠ .ready) :
    dspTaskStart (coverEntry slot veil dsp) id = coverAnswer slot veil (dspTaskStart dsp id) := by
  simp only [dspTaskStart, cover_search, found, (cover_seen slot slot veil dsp (.inr hides)).status]
  cases status : (dsp.tasks slot).status with
  | ready => exact absurd status notReady
  | free | idel | runing | invalid => rfl

-- TASK_START writes the link of its entry, whatever it was.
theorem cover_start_linked (found : dspSearchTaskById dsp id = some slot) (ready : (dsp.tasks slot).status = .ready)
    (present : (dsp.vectors (dsp.tasks slot).irqNum).handler ≠ .null) :
    dspTaskStart (coverEntry slot (linkVeil handler arg) dsp) id = dspTaskStart dsp id := by
  have entry : (coverEntry slot (linkVeil handler arg) dsp).tasks slot = linkVeil handler arg (dsp.tasks slot) :=
    cover_same slot (linkVeil handler arg) dsp
  have latest (irq : Irq) : dspGetLatestHwTask (coverEntry slot (linkVeil handler arg) (installTrigger dsp slot irq)) slot irq =
      dspGetLatestHwTask (installTrigger dsp slot irq) slot irq :=
    cover_latest slot slot (linkVeil handler arg) (installTrigger dsp slot irq) irq (by simp [installTrigger, ready])
      (by simp [installTrigger, linkVeil, ready])
  have linked (irq : Irq) (old : Handler) :
    linkOldHandler (coverEntry slot (linkVeil handler arg) (installTrigger dsp slot irq)) slot irq old =
      linkOldHandler (installTrigger dsp slot irq) slot irq old := by
    rw [linkOldHandler, linkOldHandler, latest, coverEntry, modify_modify]
    rfl
  simp only [dspTaskStart, cover_search, found,
    entry, show (linkVeil handler arg (dsp.tasks slot)).status = (dsp.tasks slot).status from rfl,
    show (linkVeil handler arg (dsp.tasks slot)).irqNum = (dsp.tasks slot).irqNum from rfl, ready]
  generalize (dsp.tasks slot).irqNum = irq at present
  simp only [psTaskInterruptRegister, show (coverEntry slot (linkVeil handler arg) dsp).vectors = dsp.vectors from rfl, if_neg present,
    show installTrigger (coverEntry slot (linkVeil handler arg) dsp) slot irq =
      coverEntry slot (linkVeil handler arg) (installTrigger dsp slot irq) from rfl, linked]

end Start

-- A command that neither binds nor starts the task of the entry does the same under a veil.
theorem cover_command (slot : Nat) (veil : DspTask → DspTask) (dsp : Dsp) (command : Command) (named : command.id ≠ none)
    (sees : ∀ pri, command.target dsp = some pri → pri ≠ slot ∨ Veil veil) (listed : (∀ id, dsp.taskHandler id ≠ some slot) ∨ Veil veil)
    (stopped : (dsp.tasks slot).status ≠ .runing) (still : (veil (dsp.tasks slot)).status ≠ .runing)
    (idle : ∀ id, command = .taskStart id → command.target dsp = some slot → (dsp.tasks slot).status ≠ .ready)
    (front : ∀ id message, command = .feConfig id message → command.target dsp ≠ some slot) :
    psCommonCommand (coverEntry slot veil dsp) command = (psCommonCommand dsp command).map (coverAnswer slot veil) := by
  cases command with
  | taskAlloc mode registered => exact absurd rfl named
  | taskFree id => exact congrArg some (cover_destroy slot id veil dsp sees)
  | taskStop id => exact congrArg some (cover_stop slot id veil dsp sees stopped)
  | beConfig id message => exact cover_be_config slot id veil dsp sees message
  | algoConfig id message env => exact cover_config slot id veil dsp sees message env
  | algoLoad id algoId env => exact cover_load slot id veil dsp sees algoId env
  | reportConfig id flag size => exact congrArg some (cover_report slot id veil dsp sees flag size)
  | beAssginBuf id config => exact cover_assgin slot id veil dsp sees config
  | taskStart id =>
      refine congrArg some ?_
      cases found : dspSearchTaskById dsp id with
      | none =>
          simp only [dspTaskStart, cover_search, found]
          rfl
      | some pri =>
          by_cases same : pri = slot
          · subst same
            exact cover_start_refused pri id veil dsp found ((sees pri found).resolve_left fun different => different rfl) (idle id rfl found)
          · exact cover_start_other slot id pri veil dsp found same stopped still
  | feConfig id message =>
      cases found : dspSearchTaskById dsp id with
      | none =>
          simp only [psCommonCommand, dspTaskFeConfig,
            cover_search, found]
          rfl
      | some pri =>
          have different : pri ≠ slot := fun same => front id message rfl (same ▸ found)
          have covered := cover_fe_config slot id pri veil veil dsp (.inl ⟨different, rfl⟩) message found (sees pri found) listed
          simp only [ite_self] at covered
          exact covered

end CsiDsp
