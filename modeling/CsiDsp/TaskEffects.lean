import CsiDsp.TaskCommands

set_option autoImplicit false

namespace CsiDsp

@[simp] theorem modify_modify (dsp : Dsp) (pri : Nat) (first second : DspTask → DspTask) :
    modifyTask (modifyTask dsp pri first) pri second = modifyTask dsp pri fun task => second (first task) := by
  simp [modifyTask]

theorem updated_status_cases (task : DspTask) :
    updatedStatus task = task.status ∨ (task.status = .idel ∧ updatedStatus task = .ready) := by
  rw [updatedStatus]
  split
  · split
    · rename_i found
      exact .inr ⟨found.1, rfl⟩
    · exact .inl rfl
  · split
    · rename_i found
      exact .inr ⟨found.1, rfl⟩
    · exact .inl rfl
  · split
    · rename_i found
      exact .inr ⟨found.1, rfl⟩
    · exact .inl rfl
  · exact .inl rfl

theorem updated_status_runing (task : DspTask) : updatedStatus task = .runing ↔ task.status = .runing := by
  rcases updated_status_cases task with same | ⟨idle, ready⟩
  · rw [same]
  · rw [idle, ready]
    decide

theorem updated_status_free (task : DspTask) : updatedStatus task = .free ↔ task.status = .free := by
  rcases updated_status_cases task with same | ⟨idle, ready⟩
  · rw [same]
  · rw [idle, ready]
    decide

def startedTask (dsp : Dsp) (pri : Nat) : Dsp :=
  let irq := (dsp.tasks pri).irqNum
  modifyTask (enableLine (linkOldHandler (installTrigger dsp pri irq) pri irq (dsp.vectors irq).handler) irq) pri fun task =>
    { task with status := .runing }

inductive StartOutcome (dsp : Dsp) (pri : Nat) (next : Dsp) : Prop where
  | refused (same : next = dsp)
  | noHandler (isReady : (dsp.tasks pri).status = .ready) (null : (dsp.vectors (dsp.tasks pri).irqNum).handler = .null)
      (same : next = installTrigger dsp pri (dsp.tasks pri).irqNum)
  | started (isReady : (dsp.tasks pri).status = .ready) (present : (dsp.vectors (dsp.tasks pri).irqNum).handler ≠ .null)
      (same : next = startedTask dsp pri)

def stoppedTask (dsp : Dsp) (pri : Nat) : Dsp :=
  modifyTask (psTaskInterruptDisable dsp pri (dsp.tasks pri).irqNum) pri fun task => { task with status := .ready }

inductive StopOutcome (dsp : Dsp) (pri : Nat) (next : Dsp) : Prop where
  | refused (same : next = dsp)
  | stopped (running : Running dsp pri) (same : next = stoppedTask dsp pri)

-- The line whose driver handler a front end installs.
def FeConfig.line : FeConfig → Option Irq
  | .cpu | .illegal => none
  | .isp config => some (psGetIspIrq config.id.toNat)
  | .vipre _ => some .vipre

-- The task of an accepted front end, before its status is looked at again.
def boundTask (task : DspTask) (fe : DspFeHandler) (check : Option TaskCheck) (line : Irq) : DspTask :=
  { task with fe := fe, emptyCheck := check, irqNum := line }

inductive FeOutcome (dsp : Dsp) (pri : Nat) (message : FeConfig) (next : Dsp) : Prop where
  | refused (isp : SispHandler) (vipre : SvipreHandler) (same : next = { dsp with isp := isp, vipre := vipre })
  | cpu (same : next = updateTaskStatus dsp pri)
  | bound (isp : SispHandler) (vipre : SvipreHandler) (high : Int) (line : Irq) (fe : DspFeHandler) (check : Option TaskCheck)
      (asked : message.line = some line) (valid : fe.type ≠ .invalid) (named : high = dsp.highPriTask ∨ high < pri)
      (known : line = .isp0 ∨ line = .isp1 ∨ line = .vipre)
      (same : next = updateTaskStatus (modifyTask (registerDriver { dsp with isp := isp, vipre := vipre, highPriTask := high }
        line (driverHandler line)) pri fun task => boundTask task fe check line) pri)

@[simp] theorem started_task_same (dsp : Dsp) (pri : Nat) : (startedTask dsp pri).tasks pri = { dsp.tasks pri with
    status := .runing
    intrHandler := (dsp.vectors (dsp.tasks pri).irqNum).handler
    intrArg := if (dsp.vectors (dsp.tasks pri).irqNum).handler = .trigger then
      dspGetLatestHwTask dsp pri (dsp.tasks pri).irqNum else -1 } := by
  rw [startedTask, modify_task_same]
  simp only [enableLine, linkOldHandler, modify_task_same]
  rfl

theorem started_task_other (dsp : Dsp) (pri other : Nat) (different : other ≠ pri) :
    (startedTask dsp pri).tasks other = dsp.tasks other := by
  simp [startedTask, enableLine, linkOldHandler, installTrigger, modifyTask, different]

theorem removed_listed (dsp : Dsp) (id place owner : Nat) :
    (dspRemoveTaskFromScheduler dsp id).taskHandler place = some owner ↔ place ≠ id ∧ dsp.taskHandler place = some owner := by
  by_cases same : place = id
  · simp [dspRemoveTaskFromScheduler, same]
  · simp [dspRemoveTaskFromScheduler, same]

theorem search_listed (dsp : Dsp) (id pri : Nat) (found : dspSearchTaskById dsp id = some pri) : dsp.taskHandler id = some pri := by
  unfold dspSearchTaskById at found
  split at found
  · cases found
  · exact found

theorem free_task_found (dsp : Dsp) (pri : Nat) (kind : TaskMode → Bool) (found : getFreeTask dsp kind = some pri) :
    pri < psMaxTaskType ∧ kind (dsp.tasks pri).type = true ∧ (dsp.tasks pri).status = .free := by
  have holds := List.find?_some found
  simp only [Bool.and_eq_true, beq_iff_eq] at holds
  exact ⟨List.mem_range.mp (List.mem_of_find?_eq_some found), holds⟩

theorem higher_prio_below (dsp : Dsp) (pri : Nat) : dspSearchHigherPrioTask dsp pri < pri := by
  rw [dspSearchHigherPrioTask]
  split
  · rename_i other found
    obtain ⟨place, -, named⟩ := List.exists_of_findSome?_eq_some found
    obtain ⟨entry, -, chosen⟩ := Option.bind_eq_some_iff.mp named
    split at chosen
    · rename_i below
      cases chosen
      exact Int.ofNat_lt.mpr below.2.2
    · cases chosen
  · omega

-- The host's ring takes a block and a free slot, and a configuration the post
-- ISP refuses stays in its driver.
inductive BeConfigured (dsp : Dsp) (pri : Nat) (message : BeConfig) (next : Dsp) : Prop where
  | refused (same : next = dsp)
  | rejected (handler : SispHandler) (same : next = { dsp with postIsp := handler })
  | host (config : SwBeConfigPar) (bufs : Option Nat) (place : Nat) (heap : Heap) (asked : message = .host config bufs)
      (block : bufs ≠ none) (free : freeSwBeId dsp.swBe = some place) (given : malloc dsp.heap bufs = some heap)
      (same : next = updateTaskStatus (modifyTask { dsp with
        heap := heap
        swBe := Function.update dsp.swBe place (swBeStart config (dsp.tasks pri).report.buf (dsp.tasks pri).report.bufSize) } pri
          fun task => { task with be := ⟨.host, place, some .host⟩ }) pri)
  | postIsp (config : SispConfigPar) (handler : SispHandler) (asked : message = .postIsp config)
      (same : next = updateTaskStatus (modifyTask (registerDriver { dsp with postIsp := handler } .postIsp .postIsp) pri
        fun task => { task with be := { task.be with type := .postIsp, ops := some .postIsp } }) pri)

theorem malloc_live (heap grown : Heap) (block : Option Nat) (given : malloc heap block = some grown) :
    grown.params = heap.params ∧ (∀ address, grown.live address = true ↔ heap.live address = true ∨ block = some address) ∧
      ∀ address, block = some address → heap.live address = false := by
  cases block with
  | none =>
      cases given
      simp
  | some fresh =>
      simp only [malloc] at given
      split at given
      · cases given
      · rename_i free
        cases given
        refine ⟨rfl, fun address => ?_, fun address same => ?_⟩
        · by_cases same : address = fresh
          · subst same
            simp
          · simp [Function.update_of_ne same, Ne.symm same]
        · cases same
          simpa using free

theorem malloc_same (heap grown : Heap) (block : Option Nat) (given : malloc heap block = some grown) :
    grown = { heap with live := grown.live } := by
  cases block with
  | none =>
      cases given
      rfl
  | some fresh =>
      simp only [malloc] at given
      split at given
      · cases given
      · cases given
        rfl

-- The loader takes blocks that are not in use, and nothing else of the heap.
theorem load_library_live (heap full : Heap) (library : Loader) (brought : loadLibrary heap library = some full) :
    full = { heap with live := full.live } ∧
      (∀ address, full.live address = true ↔ heap.live address = true ∨ address ∈ library.blocks) ∧
      ∀ address ∈ library.blocks, heap.live address = false := by
  cases library with
  | overlay entry =>
      cases brought
      simp [Loader.blocks]
  | split sizes dataBlock codeBlock entry =>
      cases sizes with
      | none =>
          cases brought
          simp [Loader.blocks]
      | some bytes =>
          obtain ⟨data, first, second⟩ := Option.bind_eq_some_iff.mp brought
          obtain ⟨-, dataLive, dataFree⟩ := malloc_live heap data dataBlock first
          obtain ⟨-, codeLive, codeFree⟩ := malloc_live data full codeBlock second
          refine ⟨?_, fun address => ?_, fun address member => ?_⟩
          · rw [malloc_same data full codeBlock second, malloc_same heap data dataBlock first]
          · rw [codeLive, dataLive, or_assoc]
            simp [Loader.blocks]
          · simp only [Loader.blocks, List.mem_append, Option.mem_toList] at member
            rcases member with data_ | code
            · exact dataFree address data_
            · have free := codeFree address code
              refine Bool.eq_false_iff.mpr fun live => ?_
              rw [(dataLive address).mpr (.inl live)] at free
              cases free

-- A loader that takes no blocks leaves the heap as it is.
theorem load_library_none (heap full : Heap) (library : Loader) (none_ : library.blocks = [])
    (brought : loadLibrary heap library = some full) : full = heap := by
  obtain ⟨same, live, -⟩ := load_library_live heap full library brought
  have kept : full.live = heap.live := by
    funext address
    rw [Bool.eq_iff_iff, live, none_]
    simp
  rw [same, kept]

theorem algo_load_take (dsp : Dsp) (pri : Nat) (heap : Heap) (param : Nat) (env : AlgoEnv) :
    dspAlgoLoad (takeParam dsp pri heap param) env = (loadLibrary heap env.library).map fun full => takeParam dsp pri full param := by
  have take (block : Option Nat) (base : Heap) : malloc { base with params := Function.update base.params param zeroParam } block =
      (malloc base block).map fun grown => { grown with params := Function.update grown.params param zeroParam } := by
    cases block with
    | none => rfl
    | some fresh =>
        simp only [malloc]
        split <;> rfl
  cases library : env.library with
  | overlay entry => simp [dspAlgoLoad, library, loadLibrary, takeParam, writeParam]
  | split sizes dataBlock codeBlock entry =>
      cases sizes with
      | none => simp [dspAlgoLoad, library, loadLibrary, takeParam, writeParam]
      | some bytes =>
          simp only [dspAlgoLoad, library, loadLibrary, takeParam, writeParam, setParam, modifyTask]
          rw [take dataBlock heap]
          cases malloc heap dataBlock with
          | none => rfl
          | some data =>
              simp only [Option.map_some, Option.bind_some]
              rw [take codeBlock data, Option.map_map]
              rfl

theorem update_bufs_same (dsp next : Dsp) (block : AlgoParam) (message : AlgoConfigPar) (bufs : Nat → AlgoBuffer) (ok : Bool)
    (done : updateBufs dsp block message bufs = some (next, ok)) :
    ∃ written, next = { dsp with heap := { dsp.heap with bufs := written } } := by
  cases list : block.bufferStructPtr with
  | none =>
      simp only [updateBufs, list] at done
      split at done
      · cases done
        exact ⟨dsp.heap.bufs, rfl⟩
      · split at done
        · cases done
          exact ⟨dsp.heap.bufs, rfl⟩
        · cases done
  | some address =>
      simp only [updateBufs, list] at done
      cases done
      exact ⟨_, rfl⟩

theorem algo_update_parts (dsp next : Dsp) (param : Nat) (message : AlgoConfigPar) (env : AlgoEnv) (reply : Reply)
    (done : dspTaskAlgoUpdate dsp param message env = some (next, reply)) :
    ∃ updated, updateBufs (updateSettings dsp (dsp.heap.params param) message env.settings).1 (dsp.heap.params param) message env.bufs =
        some (next, updated) ∧
      reply = .status (if (updateSettings dsp (dsp.heap.params param) message env.settings).2 && updated then .ok else .fail) := by
  obtain ⟨⟨middle, updated⟩, taken, same⟩ := Option.map_eq_some_iff.mp done
  obtain ⟨rfl, rfl⟩ := Prod.mk.inj same
  exact ⟨updated, taken, rfl⟩

-- An update writes to the settings and to the list of buffers.
theorem algo_update_same (dsp next : Dsp) (param : Nat) (message : AlgoConfigPar) (env : AlgoEnv) (reply : Reply)
    (done : dspTaskAlgoUpdate dsp param message env = some (next, reply)) :
    ∃ settings bufs, next = { dsp with heap := { dsp.heap with settings := settings, bufs := bufs } } := by
  obtain ⟨updated, taken, -⟩ := algo_update_parts dsp next param message env reply done
  obtain ⟨bufs, rfl⟩ := update_bufs_same _ _ _ message env.bufs updated taken
  exact ⟨_, bufs, rfl⟩

-- The ways of dsp_task_algo_config: no block is to be had, a new one is loaded,
-- the loaded algorithm is updated, or the block is loaded again.
inductive ConfigWay (dsp : Dsp) (pri : Nat) (message : AlgoConfigPar) (env : AlgoEnv) (next : Dsp) (reply : Reply) : Prop where
  | starved (held : (dsp.tasks pri).algo.param = none) (asked : env.paramBlock = none) (same : next = dsp)
  | fresh (heap full : Heap) (param : Nat) (held : (dsp.tasks pri).algo.param = none) (asked : env.paramBlock = some param)
      (given : malloc dsp.heap (some param) = some heap) (brought : loadLibrary heap env.library = some full)
      (loaded : dspTaskAlgoLoadConfig (takeParam dsp pri full param) pri param message env = some (next, reply))
  | updated (param : Nat) (held : (dsp.tasks pri).algo.param = some param)
      (update : (dsp.tasks pri).algo.algoProcess ≠ none ∧ message.algoPtr = 0 ∧ message.algoId = -1)
      (done : dspTaskAlgoUpdate dsp param message env = some (next, reply))
  | again (full : Heap) (param : Nat) (held : (dsp.tasks pri).algo.param = some param)
      (other : ¬ ((dsp.tasks pri).algo.algoProcess ≠ none ∧ message.algoPtr = 0 ∧ message.algoId = -1))
      (brought : loadLibrary dsp.heap env.library = some full)
      (loaded : dspTaskAlgoLoadConfig { dsp with heap := full } pri param message env = some (next, reply))

-- csi_dsp_task_algo_load with its library loaded, and with its list of buffers.
def describedTask (dsp : Dsp) (pri : Nat) (heap : Heap) (param : Nat) (algoId : Int) (process descNum : Nat) : Dsp :=
  writeParam (setAlgo (takeParam dsp pri heap param) pri algoId (some process)) param fun block => { block with bufDescNum := descNum }

def listedTask (dsp : Dsp) (heap : Heap) (param descNum : Nat) (bufs : Option Nat) : Dsp :=
  writeParam { dsp with heap := heap } param fun block => { block with bufferNum := descNum, bufferStructPtr := bufs }

inductive LoadWay (dsp : Dsp) (pri : Nat) (algoId : Int) (env : AlgoEnv) (next : Dsp) (reply : Reply) : Prop where
  | starved (asked : env.paramBlock = none) (same : next = setParam dsp pri none) (answer : reply = .status .malloFail)
  | unloaded (heap full : Heap) (param : Nat) (asked : env.paramBlock = some param) (given : malloc dsp.heap (some param) = some heap)
      (brought : loadLibrary heap env.library = some full) (missing : env.load = none)
      (same : next = freeInDsp (setAlgo (takeParam dsp pri full param) pri (dsp.tasks pri).algo.algoId none) (some param))
      (answer : reply = .status .algoLoadFail)
  | plain (heap full : Heap) (param process descNum : Nat) (asked : env.paramBlock = some param)
      (given : malloc dsp.heap (some param) = some heap) (brought : loadLibrary heap env.library = some full)
      (loaded : env.load = some (process, descNum))
      (few : (dsp.tasks pri).type.isHw = false ∨ descNum = 0)
      (same : next = describedTask dsp pri full param algoId process descNum) (answer : reply = .status .ok)
  | unlisted (heap full grown : Heap) (param process descNum : Nat) (asked : env.paramBlock = some param)
      (given : malloc dsp.heap (some param) = some heap) (brought : loadLibrary heap env.library = some full)
      (loaded : env.load = some (process, descNum))
      (hardware : (dsp.tasks pri).type.isHw = true) (many : descNum ≠ 0) (missing : env.bufsBlock = none)
      (more : malloc (describedTask dsp pri full param algoId process descNum).heap none = some grown)
      (same : next = freeInDsp (listedTask (describedTask dsp pri full param algoId process descNum) grown param descNum none) (some param))
      (answer : reply = .status .algoLoadFail)
  | listed (heap full grown : Heap) (param process descNum bufs : Nat) (asked : env.paramBlock = some param)
      (given : malloc dsp.heap (some param) = some heap) (brought : loadLibrary heap env.library = some full)
      (loaded : env.load = some (process, descNum))
      (hardware : (dsp.tasks pri).type.isHw = true) (many : descNum ≠ 0) (list : env.bufsBlock = some bufs)
      (more : malloc (describedTask dsp pri full param algoId process descNum).heap (some bufs) = some grown)
      (same : next = listedTask (describedTask dsp pri full param algoId process descNum) grown param descNum (some bufs))
      (answer : reply = .status .ok)

theorem described_entry (dsp : Dsp) (pri : Nat) (heap : Heap) (param : Nat) (algoId : Int) (process descNum : Nat) :
    (describedTask dsp pri heap param algoId process descNum).tasks pri =
      { dsp.tasks pri with algo := ⟨algoId, some param, some process⟩ } := by
  simp [describedTask, writeParam, setAlgo, takeParam, setParam, modifyTask]

section Commands

variable (dsp : Dsp) (id pri : Nat) (found : dspSearchTaskById dsp id = some pri) (next : Dsp) (reply : Reply)

include found

theorem start_outcome (done : dspTaskStart dsp id = (next, reply)) : StartOutcome dsp pri next := by
  simp only [dspTaskStart, found] at done
  cases status : (dsp.tasks pri).status with
  | ready =>
      simp only [status] at done
      by_cases null : (dsp.vectors (dsp.tasks pri).irqNum).handler = .null
      · simp only [psTaskInterruptRegister, if_pos null] at done
        exact .noHandler status null (Prod.mk.inj done).1.symm
      · simp only [psTaskInterruptRegister, if_neg null] at done
        exact .started status null (Prod.mk.inj done).1.symm
  | free | idel | runing | invalid =>
      simp only [status] at done
      exact .refused (Prod.mk.inj done).1.symm

theorem stop_outcome (done : dspTaskStop dsp id = (next, reply)) : StopOutcome dsp pri next := by
  simp only [dspTaskStop, found] at done
  cases status : (dsp.tasks pri).status with
  | runing =>
      simp only [status] at done
      exact .stopped status (Prod.mk.inj done).1.symm
  | free | idel | ready | invalid =>
      simp only [status] at done
      exact .refused (Prod.mk.inj done).1.symm

theorem config_way (message : AlgoConfigPar) (env : AlgoEnv) (done : dspTaskAlgoConfig dsp id message env = some (next, reply)) :
    ConfigWay dsp pri message env next reply := by
  simp only [dspTaskAlgoConfig, found] at done
  cases held : (dsp.tasks pri).algo.param with
  | none =>
      simp only [held] at done
      obtain ⟨heap, given, done⟩ := Option.bind_eq_some_iff.mp done
      cases asked : env.paramBlock with
      | none =>
          simp only [asked] at done
          cases done
          exact .starved held asked rfl
      | some param =>
          simp only [asked] at done given
          obtain ⟨middle, brought, done⟩ := Option.bind_eq_some_iff.mp done
          rw [algo_load_take] at brought
          obtain ⟨full, library, rfl⟩ := Option.map_eq_some_iff.mp brought
          exact .fresh heap full param held asked given library done
  | some param =>
      simp only [held] at done
      split at done
      · rename_i update
        exact .updated param held update done
      · rename_i other
        obtain ⟨middle, brought, done⟩ := Option.bind_eq_some_iff.mp done
        obtain ⟨full, library, rfl⟩ := Option.map_eq_some_iff.mp brought
        exact .again full param held other library done

theorem load_way (algoId : Int) (env : AlgoEnv) (done : csiDspTaskAlgoLoad dsp id algoId env = some (next, reply)) :
    LoadWay dsp pri algoId env next reply := by
  simp only [csiDspTaskAlgoLoad, found] at done
  obtain ⟨heap, given, done⟩ := Option.bind_eq_some_iff.mp done
  cases asked : env.paramBlock with
  | none =>
      simp only [asked] at done
      cases done
      exact .starved asked rfl rfl
  | some param =>
      simp only [asked] at done given
      obtain ⟨middle, brought, done⟩ := Option.bind_eq_some_iff.mp done
      rw [algo_load_take] at brought
      obtain ⟨full, library, rfl⟩ := Option.map_eq_some_iff.mp brought
      cases loaded : env.load with
      | none =>
          simp only [loaded] at done
          have kept : ((takeParam dsp pri full param).tasks pri).algo.algoId = (dsp.tasks pri).algo.algoId := by
            simp [takeParam, writeParam, setParam, modifyTask]
          rw [kept] at done
          cases done
          exact .unloaded heap full param asked given library loaded rfl rfl
      | some result =>
          obtain ⟨process, descNum⟩ := result
          simp only [loaded] at done
          change (if ((describedTask dsp pri full param algoId process descNum).tasks pri).type.isHw = false ∨ descNum = 0 then
            some (describedTask dsp pri full param algoId process descNum, Reply.status .ok) else _) = _ at done
          rw [described_entry] at done
          split at done
          · rename_i few
            cases done
            exact .plain heap full param process descNum asked given library loaded few rfl rfl
          · rename_i more
            rw [not_or, Bool.not_eq_false] at more
            obtain ⟨grown, taken, done⟩ := Option.bind_eq_some_iff.mp done
            cases list : env.bufsBlock with
            | none =>
                simp only [list, if_true] at done taken
                cases done
                exact .unlisted heap full grown param process descNum asked given library loaded more.1 more.2 list taken rfl rfl
            | some bufs =>
                simp only [list, reduceCtorEq, if_false] at done taken
                cases done
                exact .listed heap full grown param process descNum bufs asked given library loaded more.1 more.2 list taken rfl rfl

theorem fe_outcome (message : FeConfig) (done : dspTaskFeConfig dsp id message = some (next, reply)) :
    FeOutcome dsp pri message next := by
  simp only [dspTaskFeConfig, found] at done
  cases message with
  | cpu =>
      cases done
      exact .cpu rfl
  | illegal =>
      cases done
      exact .refused dsp.isp dsp.vipre rfl
  | isp config =>
      simp only [psIspConfigMessageHandler] at done
      by_cases started : (ispInitialize config.id.toNat dsp.isp).2 = false
      · simp only [started, if_true, Option.bind_eq_bind, Option.bind_some] at done
        cases done
        exact .refused dsp.isp dsp.vipre rfl
      · simp only [if_neg started] at done
        cases configured : ispHandlerConfig (ispInitialize config.id.toNat dsp.isp).1 config with
        | none => simp [configured] at done
        | some result =>
            obtain ⟨handler, ret⟩ := result
            by_cases ok : ret = .ok
            · simp only [configured, ok, ne_eq, not_true_eq_false, if_false, Option.bind_eq_bind, Option.bind_some,
                Bool.true_eq_false] at done
              cases done
              refine .bound handler dsp.vipre dsp.highPriTask (psGetIspIrq config.id.toNat) ⟨.isp, config.id.toNat, some .isp⟩
                (dsp.tasks pri).emptyCheck rfl (by simp) (.inl rfl) ?_ ?_
              · rw [psGetIspIrq]
                split <;> simp
              · have driver : driverHandler (psGetIspIrq config.id.toNat) = .isp := by
                  rw [psGetIspIrq]
                  split <;> rfl
                simp [bindIrq, driver, boundTask, modifyTask, registerDriver]
            · simp only [configured, ne_eq, ok, not_false_eq_true, if_true, Option.bind_eq_bind, Option.bind_some] at done
              cases done
              exact .refused handler dsp.vipre rfl
  | vipre config =>
      simp only [psVipreConfigMessageHandler, Option.bind_eq_bind] at done
      obtain ⟨⟨middle, accepted⟩, configured, finish⟩ := Option.bind_eq_some_iff.mp done
      obtain ⟨⟨handler, ok⟩, -, settled⟩ := Option.bind_eq_some_iff.mp configured
      cases ok with
      | false =>
          cases settled
          cases finish
          exact .refused dsp.isp handler rfl
      | true =>
          cases settled
          cases finish
          let bound := bindIrq (modifyTask (registerDriver { dsp with vipre := handler } .vipre .vipre) pri fun task =>
            { task with fe := ⟨.vipre, config.id.toNat, some .vipre⟩ }) pri .vipre
          let high := dspSearchHigherPrioTask bound pri
          refine .bound dsp.isp handler high .vipre ⟨.vipre, config.id.toNat, some .vipre⟩
            (if high ≥ 0 then some .vipre else none) rfl (by simp) (.inr (higher_prio_below bound pri)) (by simp) ?_
          simp [bindIrq, chooseEmptyCheck, driverHandler, boundTask, modifyTask, registerDriver, high, bound]

theorem be_configured (message : BeConfig) (done : dspTaskBeConfig dsp id message = some (next, reply)) :
    BeConfigured dsp pri message next := by
  simp only [dspTaskBeConfig, found] at done
  cases message with
  | illegal =>
      cases done
      exact .refused rfl
  | host config bufs =>
      obtain ⟨⟨middle, accepted⟩, configured, settled⟩ := Option.bind_eq_some_iff.mp done
      unfold psSwTaskOutConfigMessageHandler at configured
      split at configured
      · cases configured
        cases settled
        exact .refused rfl
      · rename_i place free
        obtain ⟨heap, given, configured⟩ := Option.bind_eq_some_iff.mp configured
        split at configured
        · rename_i none_
          subst none_
          cases given
          cases configured
          cases settled
          exact .refused rfl
        · rename_i block
          cases configured
          cases settled
          exact .host config bufs place heap rfl block free given rfl
  | postIsp config =>
      obtain ⟨⟨middle, accepted⟩, configured, settled⟩ := Option.bind_eq_some_iff.mp done
      simp only [psPostIspConfigMessageHandler] at configured
      split at configured
      · cases configured
        cases settled
        exact .refused rfl
      · obtain ⟨⟨handler, ret⟩, -, configured⟩ := Option.bind_eq_some_iff.mp configured
        split at configured
        · cases configured
          cases settled
          exact .rejected handler rfl
        · cases configured
          cases settled
          exact .postIsp config handler rfl rfl

-- REPORT_CONFIG changes at most the report of the task.
theorem report_configured (flag : ReportFlag) (size : Nat) : (psRegisterReportToTask dsp id flag size).1 = dsp ∨
    ∃ report : DspTask → DspTaskReport, (psRegisterReportToTask dsp id flag size).1 =
      modifyTask dsp pri fun task => { task with report := report task } := by
  rw [psRegisterReportToTask, found]
  cases flag with
  | other => exact .inl rfl
  | release => exact .inr ⟨fun task => { task.report with reportId := noReport }, rfl⟩
  | setup =>
      cases xrpGetReportBuffer dsp.cmd with
      | none => exact .inl rfl
      | some buffer =>
          obtain ⟨address, limit⟩ := buffer
          dsimp only
          split
          · exact .inr ⟨fun task => { task.report with buf := some address, bufSize := limit }, rfl⟩
          · exact .inr ⟨fun _ => ⟨BitVec.ofNat 32 id, some address, size⟩, rfl⟩

end Commands

end CsiDsp
