import CsiDsp.Base.Ownership
import CsiDsp.TaskEffects

set_option autoImplicit false

namespace CsiDsp

open Ownership

def pointers (block : AlgoParam) : List Nat := block.bufferStructPtr.toList ++ block.setBufPtr.toList

-- The blocks TASK_FREE gives back for a task.
def ownBlocks (dsp : Dsp) (pri : Nat) : List Nat :=
  match (dsp.tasks pri).algo.param with
  | none => []
  | some param => param :: pointers (dsp.heap.params param)

def HeapOwned (dsp : Dsp) : Prop := Owned dsp.heap.live (ownBlocks dsp)

-- A step that works on one task: on its entry, its parameter block and memory
-- that nobody else has.
structure TaskWork (pri : Nat) (dsp next : Dsp) : Prop where
  tasks : ∀ other, other ≠ pri → next.tasks other = dsp.tasks other
  handlers : next.taskHandler = dsp.taskHandler
  count : next.taskNum = dsp.taskNum
  params : ∀ other, other ≠ pri → ∀ param, (dsp.tasks other).algo.param = some param →
    next.heap.params param = dsp.heap.params param
  taken : ∀ block ∈ ownBlocks next pri, block ∈ ownBlocks dsp pri ∨ dsp.heap.live block = false
  alive : ∀ block ∈ ownBlocks next pri, next.heap.live block = true
  kept : ∀ block, dsp.heap.live block = true → block ∉ ownBlocks dsp pri → next.heap.live block = true

section Work

variable (pri : Nat) (dsp middle next : Dsp)

theorem own_blocks_other (work : TaskWork pri dsp next) (other : Nat) (different : other ≠ pri) :
    ownBlocks next other = ownBlocks dsp other := by
  simp only [ownBlocks]
  rw [work.tasks other different]
  cases found : (dsp.tasks other).algo.param with
  | none => rfl
  | some param => simp only [work.params other different param found]

theorem task_work_owned (owned : HeapOwned dsp) (work : TaskWork pri dsp next) : HeapOwned next :=
  owned_works pri _ _ _ _ owned ⟨own_blocks_other pri dsp next work, work.taken, work.alive, work.kept⟩

theorem task_work_trans (first : TaskWork pri dsp middle) (second : TaskWork pri middle next) : TaskWork pri dsp next := by
  have given : ∀ block, dsp.heap.live block = true → block ∉ ownBlocks dsp pri → block ∉ ownBlocks middle pri :=
    fun block live outside held => (first.taken block held).elim outside fun free => absurd live (by simp [free])
  refine ⟨fun other different => (second.tasks other different).trans (first.tasks other different),
    second.handlers.trans first.handlers, second.count.trans first.count, ?_, ?_, second.alive, ?_⟩
  · intro other different param held
    rw [second.params other different param (by rw [first.tasks other different]; exact held)]
    exact first.params other different param held
  · intro block held
    rcases second.taken block held with before | free
    · exact first.taken block before
    · by_cases outside : block ∈ ownBlocks dsp pri
      · exact .inl outside
      · refine .inr ?_
        by_contra live
        rw [Bool.not_eq_false] at live
        rw [first.kept block live outside] at free
        cases free
  · intro block live outside
    exact second.kept block (first.kept block live outside) (given block live outside)

theorem task_work_plain (owned : HeapOwned dsp) (others : ∀ other, other ≠ pri → next.tasks other = dsp.tasks other)
    (param : (next.tasks pri).algo.param = (dsp.tasks pri).algo.param) (handlers : next.taskHandler = dsp.taskHandler)
    (count : next.taskNum = dsp.taskNum) (heap : next.heap = dsp.heap) : TaskWork pri dsp next := by
  have own : ownBlocks next pri = ownBlocks dsp pri := by
    simp only [ownBlocks]
    rw [param, heap]
  refine ⟨others, handlers, count, fun _ _ _ _ => by rw [heap], ?_, ?_, ?_⟩
  · rw [own]
    exact fun _ held => .inl held
  · rw [own, heap]
    exact fun block held => (owned pri block held).1
  · rw [heap]
    exact fun _ live _ => live

theorem task_work_entry (owned : HeapOwned dsp) (change : DspTask → DspTask)
    (same : (change (dsp.tasks pri)).algo.param = (dsp.tasks pri).algo.param) : TaskWork pri dsp (modifyTask dsp pri change) :=
  task_work_plain pri dsp _ owned (fun other different => modify_task_other dsp pri other change different)
    (by rw [modify_task_same, same]) rfl rfl rfl

theorem task_work_update (owned : HeapOwned dsp) : TaskWork pri dsp (updateTaskStatus dsp pri) :=
  task_work_entry pri dsp owned _ rfl

theorem task_work_set_algo (owned : HeapOwned dsp) (algoId : Int) (process : Option Nat) :
    TaskWork pri dsp (setAlgo dsp pri algoId process) :=
  task_work_entry pri dsp owned _ rfl

-- A step that touches neither the entries nor the parameter blocks, and gives nothing back.
theorem task_work_heap (owned : HeapOwned dsp) (tasks : next.tasks = dsp.tasks) (handlers : next.taskHandler = dsp.taskHandler)
    (count : next.taskNum = dsp.taskNum) (params : next.heap.params = dsp.heap.params)
    (grows : ∀ address, dsp.heap.live address = true → next.heap.live address = true) : TaskWork pri dsp next := by
  have own : ownBlocks next pri = ownBlocks dsp pri := by
    simp only [ownBlocks]
    rw [tasks, params]
  refine ⟨fun other _ => by rw [tasks], handlers, count, fun _ _ param _ => by rw [params], ?_, ?_, fun address live _ =>
    grows address live⟩
  · rw [own]
    exact fun _ member => .inl member
  · rw [own]
    exact fun address member => grows address (owned pri address member).1

theorem task_work_library (owned : HeapOwned dsp) (full : Heap) (library : Loader) (brought : loadLibrary dsp.heap library = some full) :
    TaskWork pri dsp { dsp with heap := full } := by
  obtain ⟨same, live, -⟩ := load_library_live dsp.heap full library brought
  exact task_work_heap pri dsp _ owned rfl rfl rfl (by rw [same]) fun address alive => (live address).mpr (.inl alive)

theorem task_work_algo_update (owned : HeapOwned dsp) (param : Nat) (message : AlgoConfigPar) (env : AlgoEnv) (reply : Reply)
    (done : dspTaskAlgoUpdate dsp param message env = some (next, reply)) : TaskWork pri dsp next := by
  obtain ⟨settings, bufs, rfl⟩ := algo_update_same dsp next param message env reply done
  exact task_work_heap pri dsp _ owned rfl rfl rfl rfl fun _ live => live

theorem task_work_take_param (owned : HeapOwned dsp) (heap full : Heap) (param : Nat) (library : Loader)
    (given : malloc dsp.heap (some param) = some heap) (brought : loadLibrary heap library = some full) :
    TaskWork pri dsp (takeParam dsp pri full param) := by
  obtain ⟨params, live, free⟩ := malloc_live _ _ _ given
  obtain ⟨same, more, -⟩ := load_library_live heap full library brought
  have fullParams : full.params = dsp.heap.params := by rw [same, params]
  have grows (address : Nat) (alive : heap.live address = true) : full.live address = true := (more address).mpr (.inl alive)
  have own : ownBlocks (takeParam dsp pri full param) pri = [param] := by
    simp [ownBlocks, takeParam, writeParam, setParam, pointers, zeroParam]
  refine ⟨fun other different => ?_, rfl, rfl, ?_, ?_, ?_, ?_⟩
  · simp [takeParam, writeParam, setParam, modifyTask, Function.update_of_ne different]
  · intro other different held found
    have apart : held ≠ param := by
      intro same
      have alive := (owned other held (by simp [ownBlocks, found])).1
      rw [same, free param rfl] at alive
      cases alive
    simp [takeParam, writeParam, setParam, modifyTask, Function.update_of_ne apart, fullParams]
  · rw [own]
    intro block held
    rw [List.mem_singleton.mp held]
    exact .inr (free param rfl)
  · rw [own]
    intro block held
    rw [List.mem_singleton.mp held]
    exact grows param ((live param).mpr (.inr rfl))
  · intro block alive _
    exact grows block ((live block).mpr (.inl alive))

theorem task_work_write (owned : HeapOwned dsp) (param : Nat) (held : (dsp.tasks pri).algo.param = some param) (heap : Heap)
    (block : Option Nat) (given : malloc dsp.heap block = some heap) (change : AlgoParam → AlgoParam)
    (within : ∀ address ∈ pointers (change (dsp.heap.params param)),
      address ∈ pointers (dsp.heap.params param) ∨ block = some address) :
    TaskWork pri dsp (writeParam { dsp with heap := heap } param change) := by
  obtain ⟨params, live, free⟩ := malloc_live _ _ _ given
  have own : ownBlocks (writeParam { dsp with heap := heap } param change) pri =
      param :: pointers (change (dsp.heap.params param)) := by
    simp [ownBlocks, writeParam, held, params]
  have before : ownBlocks dsp pri = param :: pointers (dsp.heap.params param) := by simp [ownBlocks, held]
  have source : ∀ address ∈ ownBlocks (writeParam { dsp with heap := heap } param change) pri,
      address ∈ ownBlocks dsp pri ∨ block = some address := by
    rw [own, before]
    intro address member
    rcases List.mem_cons.mp member with rfl | pointer
    · exact .inl List.mem_cons_self
    · exact (within address pointer).imp_left (List.mem_cons_of_mem param)
  refine ⟨fun _ _ => rfl, rfl, rfl, ?_, ?_, ?_, ?_⟩
  · intro other different theirs found
    have apart : theirs ≠ param := by
      intro same
      refine (owned pri param (by rw [before]; exact List.mem_cons_self)).2 other different ?_
      simp [ownBlocks, found, same]
    simp [writeParam, Function.update_of_ne apart, params]
  · intro address member
    exact (source address member).imp_right (free address)
  · intro address member
    refine (live address).mpr ((source address member).imp_left fun mine => (owned pri address mine).1)
  · intro address alive _
    exact (live address).mpr (.inl alive)

theorem free_live (heap : Heap) (block : Option Nat) (address : Nat) (live : heap.live address = true)
    (other : block ≠ some address) : (freeBlock heap block).live address = true := by
  cases block with
  | none => exact live
  | some freed =>
      have different : address ≠ freed := fun same => other (by rw [same])
      simp [freeBlock, Function.update_of_ne different, live]

theorem free_in_live (dsp : Dsp) (blocks : List (Option Nat)) (address : Nat) (live : dsp.heap.live address = true)
    (others : ∀ block ∈ blocks, block ≠ some address) : (blocks.foldl freeInDsp dsp).heap.live address = true := by
  induction blocks generalizing dsp with
  | nil => exact live
  | cons block rest ih =>
      exact ih _ (free_live dsp.heap block address live (others block List.mem_cons_self))
        fun later member => others later (List.mem_cons_of_mem block member)

theorem free_in_same (dsp : Dsp) (blocks : List (Option Nat)) :
    blocks.foldl freeInDsp dsp = { dsp with heap := (blocks.foldl freeInDsp dsp).heap } ∧
      (blocks.foldl freeInDsp dsp).heap.params = dsp.heap.params := by
  induction blocks generalizing dsp with
  | nil => exact ⟨rfl, rfl⟩
  | cons block rest ih =>
      obtain ⟨same, params⟩ := ih (freeInDsp dsp block)
      refine ⟨same, params.trans ?_⟩
      cases block <;> rfl

-- A step that gives back blocks of the task and leaves it without parameters.
theorem task_work_drop (blocks : List (Option Nat))
    (mine : ∀ block ∈ blocks, ∀ address, block = some address → address ∈ ownBlocks dsp pri)
    (change : DspTask → DspTask) (empty : (change (dsp.tasks pri)).algo.param = none) :
    TaskWork pri dsp (modifyTask (blocks.foldl freeInDsp dsp) pri change) := by
  obtain ⟨same, params⟩ := free_in_same dsp blocks
  have live := free_in_live dsp blocks
  generalize blocks.foldl freeInDsp dsp = freed at same params live
  have tasks : freed.tasks = dsp.tasks := by rw [same]
  have own : ownBlocks (modifyTask freed pri change) pri = [] := by simp [ownBlocks, tasks, empty]
  refine ⟨fun other different => ?_, by rw [same]; rfl, by rw [same]; rfl, fun _ _ param _ => congrFun params param, ?_, ?_, ?_⟩
  · rw [modify_task_other _ _ _ _ different, tasks]
  · rw [own]
    exact fun _ member => absurd member List.not_mem_nil
  · rw [own]
    exact fun _ member => absurd member List.not_mem_nil
  · intro address alive outside
    exact live address alive fun block member same => outside (mine block member address same)

theorem free_algo_param_blocks : ∃ blocks : List (Option Nat), freeAlgoParam dsp pri = blocks.foldl freeInDsp dsp ∧
    ∀ block ∈ blocks, ∀ address, block = some address → address ∈ ownBlocks dsp pri := by
  rw [freeAlgoParam]
  cases held : (dsp.tasks pri).algo.param with
  | none => exact ⟨[], rfl, fun _ member => absurd member List.not_mem_nil⟩
  | some param =>
      have own : ownBlocks dsp pri = param :: pointers (dsp.heap.params param) := by simp [ownBlocks, held]
      cases hardware : (dsp.tasks pri).type.isHw with
      | false =>
          refine ⟨[some param], rfl, fun block member address same => ?_⟩
          rw [List.mem_singleton.mp member] at same
          cases same
          exact own ▸ List.mem_cons_self
      | true =>
          refine ⟨[(dsp.heap.params param).bufferStructPtr, (dsp.heap.params param).setBufPtr, some param], rfl,
            fun block member address same => ?_⟩
          simp only [List.mem_cons, List.not_mem_nil, or_false] at member
          rw [own]
          rcases member with rfl | rfl | rfl <;> simp_all [pointers]

theorem drop_param_eq (param : Nat) (blocks : List (Option Nat)) : dropParam dsp pri param blocks =
    modifyTask ((blocks ++ [some param]).foldl freeInDsp dsp) pri fun task => { task with algo := { task.algo with param := none } } := by
  rw [List.foldl_append]
  rfl

theorem task_work_drop_param (param : Nat) (held : (dsp.tasks pri).algo.param = some param) (blocks : List (Option Nat))
    (mine : ∀ block ∈ blocks, ∀ address, block = some address → address ∈ pointers (dsp.heap.params param)) :
    TaskWork pri dsp (dropParam dsp pri param blocks) := by
  have own : ownBlocks dsp pri = param :: pointers (dsp.heap.params param) := by simp [ownBlocks, held]
  rw [drop_param_eq]
  refine task_work_drop pri dsp _ (fun block member address same => ?_) _ rfl
  rw [own]
  rcases List.mem_append.mp member with given | last
  · exact List.mem_cons_of_mem param (mine block given address same)
  · rw [List.mem_singleton.mp last] at same
    cases same
    exact List.mem_cons_self

-- A step that touches neither the entries nor the heap, or only takes a block.
theorem task_work_malloc (owned : HeapOwned dsp) (block : Option Nat) (heap : Heap) (given : malloc dsp.heap block = some heap)
    (tasks : next.tasks = dsp.tasks) (handlers : next.taskHandler = dsp.taskHandler) (count : next.taskNum = dsp.taskNum)
    (taken : next.heap = heap) : TaskWork pri dsp next := by
  obtain ⟨params, live, -⟩ := malloc_live _ _ _ given
  exact task_work_heap pri dsp next owned tasks handlers count (by rw [taken, params]) fun address alive => by
    rw [taken]
    exact (live address).mpr (.inl alive)

end Work

-- malloc refuses the list of buffers or the settings.
def ListRefused (message : AlgoConfigPar) (env : AlgoEnv) : Prop :=
  env.bufsBlock = none ∨ (message.settPtr ≠ 0 ∧ message.settLength ≠ 0 ∧ env.setBlock = none)

instance (message : AlgoConfigPar) (env : AlgoEnv) : Decidable (ListRefused message env) :=
  inferInstanceAs (Decidable (_ ∨ _ ∧ _ ∧ _))

-- How dsp_task_algo_config ends once there is a parameter block. The entry and
-- the parameter block that each way leaves decide what its status may be.
inductive LoadOutcome (dsp : Dsp) (pri param : Nat) (message : AlgoConfigPar) (env : AlgoEnv) (next : Dsp) : Prop where
  | noAlgo (failed : env.load = none)
      (entry : next.tasks pri = { dsp.tasks pri with algo := ⟨message.algoId, none, none⟩ })
  | gaveUp (process descNum : Nat) (loaded : env.load = some (process, descNum)) (hardware : (dsp.tasks pri).type.isHw = true)
      (some_bufs : descNum ≠ 0)
      (refused : ListRefused message env)
      (entry : next.tasks pri = { dsp.tasks pri with algo := ⟨message.algoId, none, some process⟩ })
  | noBufs (process : Nat) (loaded : env.load = some (process, 0)) (hardware : (dsp.tasks pri).type.isHw = true)
      (entry : next.tasks pri = { dsp.tasks pri with algo := ⟨message.algoId, some param, some process⟩ })
      (block : (next.heap.params param).bufferStructPtr = (dsp.heap.params param).bufferStructPtr)
  | taken (process descNum : Nat) (loaded : env.load = some (process, descNum))
      (entry : next.tasks pri = { dsp.tasks pri with
        algo := ⟨message.algoId, some param, some process⟩
        status := updatedStatus { dsp.tasks pri with algo := ⟨message.algoId, some param, some process⟩ } })
      (block : (dsp.tasks pri).type.isHw = true → descNum ≠ 0 ∧ (next.heap.params param).bufferStructPtr ≠ none)

theorem take_buffers_same (dsp : Dsp) (param : Nat) (message : AlgoConfigPar) (bufs : Nat → AlgoBuffer) :
    ∃ written, (takeBuffers dsp param message bufs).1 = { dsp with heap := { dsp.heap with bufs := written } } := by
  unfold takeBuffers
  dsimp only
  split
  · exact ⟨dsp.heap.bufs, rfl⟩
  · split
    · exact ⟨_, rfl⟩
    · exact ⟨dsp.heap.bufs, rfl⟩

section Load

variable (pri : Nat) (dsp next : Dsp) (owned : HeapOwned dsp) (param : Nat) (held : (dsp.tasks pri).algo.param = some param)

theorem drop_param_entry (blocks : List (Option Nat)) : (dropParam dsp pri param blocks).tasks pri =
    { dsp.tasks pri with algo := { (dsp.tasks pri).algo with param := none } } := by
  obtain ⟨same, -⟩ := free_in_same dsp (blocks ++ [some param])
  rw [drop_param_eq, modify_task_same, same]

@[simp] theorem write_param_tasks (change : AlgoParam → AlgoParam) : (writeParam dsp param change).tasks = dsp.tasks := rfl

@[simp] theorem write_param_same (change : AlgoParam → AlgoParam) :
    (writeParam dsp param change).heap.params param = change (dsp.heap.params param) := Function.update_self _ _ _

include owned held

theorem task_work_write_plain (change : AlgoParam → AlgoParam) (same : ∀ block, pointers (change block) = pointers block) :
    TaskWork pri dsp (writeParam dsp param change) :=
  task_work_write pri dsp owned param held dsp.heap none rfl change fun _ member => .inl (same _ ▸ member)

theorem take_settings_cases (message : AlgoConfigPar) (env : AlgoEnv) (taken : Bool)
    (done : takeSettings dsp pri param message env = some (next, taken)) : TaskWork pri dsp next ∧
      (taken = true ∧ next.tasks = dsp.tasks ∧
          (next.heap.params param).bufferNum = (dsp.heap.params param).bufferNum ∧
          (next.heap.params param).bufferStructPtr = (dsp.heap.params param).bufferStructPtr ∨
        taken = false ∧ (message.settPtr ≠ 0 ∧ message.settLength ≠ 0 ∧ env.setBlock = none) ∧
          next.tasks pri = { dsp.tasks pri with algo := { (dsp.tasks pri).algo with param := none } }) := by
  unfold takeSettings at done
  split at done
  · rename_i asked
    simp only [Option.bind_eq_bind, Option.bind_eq_some_iff] at done
    obtain ⟨heap, given, done⟩ := done
    have params := (malloc_live _ _ _ given).1
    have written := task_work_write pri dsp owned param held heap env.setBlock given
      (fun block => { block with setBufSize := message.settLength, setBufPtr := env.setBlock }) (fun _ member => by
        simp only [pointers, List.mem_append, Option.mem_toList] at member ⊢
        exact member.imp .inl id)
    have block := write_param_same { dsp with heap := heap } param
      fun block => { block with setBufSize := message.settLength, setBufPtr := env.setBlock }
    simp only [params] at block
    have tasks := write_param_tasks { dsp with heap := heap } param
      fun block => { block with setBufSize := message.settLength, setBufPtr := env.setBlock }
    generalize (writeParam { dsp with heap := heap } param
      fun block => { block with setBufSize := message.settLength, setBufPtr := env.setBlock }) = middle at done written block tasks
    simp only at tasks
    cases set : env.setBlock with
    | none =>
        simp only [set] at done block
        cases done
        refine ⟨task_work_trans pri dsp middle _ written (task_work_drop_param pri middle param (by rw [tasks, held]) _ ?_),
          .inr ⟨rfl, ⟨asked.1, asked.2, rfl⟩, ?_⟩⟩
        · intro pointer member address same
          rw [List.mem_singleton.mp member] at same
          simp [pointers, same]
        · rw [drop_param_entry, tasks]
    | some address =>
        simp only [set] at done block
        cases done
        refine ⟨task_work_trans pri dsp middle _ written (task_work_heap pri middle _ (task_work_owned pri dsp _ owned written)
          rfl rfl rfl rfl fun _ live => live), .inl ⟨rfl, tasks, ?_⟩⟩
        simp [writeSettings, block]
  · cases done
    exact ⟨task_work_malloc pri dsp _ owned none dsp.heap rfl rfl rfl rfl rfl, .inl ⟨rfl, rfl, rfl, rfl⟩⟩

theorem buffer_list_cases (message : AlgoConfigPar) (env : AlgoEnv) (descNum : Nat) (reply : Reply)
    (done : takeBufferList dsp pri param message env descNum = some (next, reply)) : TaskWork pri dsp next ∧
      (ListRefused message env ∧
          next.tasks pri = { dsp.tasks pri with algo := { (dsp.tasks pri).algo with param := none } } ∨
        next.tasks pri = { dsp.tasks pri with status := updatedStatus (dsp.tasks pri) } ∧
          (next.heap.params param).bufferStructPtr ≠ none) := by
  simp only [takeBufferList, Option.bind_eq_bind, Option.bind_eq_some_iff] at done
  obtain ⟨grown, given, done⟩ := done
  have listed := task_work_write pri dsp owned param held grown env.bufsBlock given
    (fun block => { block with bufferNum := descNum, bufferStructPtr := env.bufsBlock }) (fun _ member => by
      simp only [pointers, List.mem_append, Option.mem_toList] at member ⊢
      exact member.symm.imp .inr id)
  have content := write_param_same { dsp with heap := grown } param
    fun block => { block with bufferNum := descNum, bufferStructPtr := env.bufsBlock }
  have tasks := write_param_tasks { dsp with heap := grown } param
    fun block => { block with bufferNum := descNum, bufferStructPtr := env.bufsBlock }
  generalize (writeParam { dsp with heap := grown } param
    fun block => { block with bufferNum := descNum, bufferStructPtr := env.bufsBlock }) = list at done listed content tasks
  simp only at tasks
  have listOwned := task_work_owned pri dsp _ owned listed
  have listHeld : (list.tasks pri).algo.param = some param := by rw [tasks, held]
  cases block : env.bufsBlock with
  | none =>
      simp only [block] at done
      cases done
      refine ⟨task_work_trans pri dsp _ _ listed (task_work_drop_param pri list param listHeld [] fun _ member =>
        absurd member List.not_mem_nil), .inl ⟨.inl block, ?_⟩⟩
      rw [drop_param_entry, tasks]
  | some address =>
      simp only [block] at done content
      obtain ⟨⟨settled, took⟩, settings, done⟩ := Option.bind_eq_some_iff.mp done
      have cleared := task_work_heap pri list
        (writeBufs list address fun slot => if slot < descNum then zeroAlgoBuffer else list.heap.bufs address slot) listOwned
        rfl rfl rfl rfl fun _ live => live
      have clearedWork := task_work_trans pri dsp _ _ listed cleared
      obtain ⟨work, ways⟩ := take_settings_cases pri _ settled (task_work_owned pri dsp _ owned clearedWork) param listHeld message env
        took settings
      have toSettled := task_work_trans pri dsp _ _ clearedWork work
      rcases ways with ⟨rfl, settledTasks, number, bufs⟩ | ⟨rfl, reason, settledEntry⟩
      · simp only [Bool.true_eq_false, if_false] at done
        split at done
        · cases done
        · rename_i enough
          cases done
          obtain ⟨written, filled⟩ := take_buffers_same settled param message env.bufs
          have work_ : TaskWork pri dsp (takeBuffers settled param message env.bufs).1 :=
            task_work_trans pri dsp _ _ toSettled (by
              rw [filled]
              exact task_work_heap pri settled _ (task_work_owned pri dsp _ owned toSettled) rfl rfl rfl rfl fun _ live => live)
          refine ⟨task_work_trans pri dsp _ _ work_ (task_work_update pri _ (task_work_owned pri dsp _ owned work_)), .inr ⟨?_, ?_⟩⟩
          · rw [filled]
            simp [updateTaskStatus, settledTasks, writeBufs, tasks]
          · rw [filled]
            simp [updateTaskStatus, modifyTask, bufs, writeBufs, content]
      · simp only [if_true] at done
        cases done
        refine ⟨toSettled, .inl ⟨.inr reason, ?_⟩⟩
        rw [settledEntry]
        simp [writeBufs, tasks]

theorem load_outcome (message : AlgoConfigPar) (env : AlgoEnv) (reply : Reply)
    (done : dspTaskAlgoLoadConfig dsp pri param message env = some (next, reply)) :
    TaskWork pri dsp next ∧ LoadOutcome dsp pri param message env next := by
  unfold dspTaskAlgoLoadConfig at done
  cases loaded : env.load with
  | none =>
      simp only [loaded] at done
      cases done
      have set := task_work_set_algo pri dsp owned message.algoId none
      have dropped := task_work_drop_param pri (setAlgo dsp pri message.algoId none) param (by simp [setAlgo, held]) []
        (fun _ member => absurd member List.not_mem_nil)
      refine ⟨task_work_trans pri dsp _ _ set dropped, .noAlgo loaded ?_⟩
      rw [drop_param_entry]
      simp [setAlgo]
  | some result =>
      obtain ⟨process, descNum⟩ := result
      simp only [loaded] at done
      have set := task_work_set_algo pri dsp owned message.algoId (some process)
      have setOwned := task_work_owned pri dsp _ owned set
      have entry : (setAlgo dsp pri message.algoId (some process)).tasks pri =
          { dsp.tasks pri with algo := ⟨message.algoId, some param, some process⟩ } := by simp [setAlgo, held]
      have heap : (setAlgo dsp pri message.algoId (some process)).heap = dsp.heap := rfl
      generalize setAlgo dsp pri message.algoId (some process) = named at done set setOwned entry heap
      have described := task_work_write_plain pri named setOwned param (by rw [entry])
        (fun block => { block with bufDescNum := descNum }) fun _ => rfl
      have work := task_work_trans pri dsp _ _ set described
      have middleOwned := task_work_owned pri dsp _ owned work
      have block : ((writeParam named param fun block => { block with bufDescNum := descNum }).heap.params param).bufferStructPtr =
          (dsp.heap.params param).bufferStructPtr := by simp [heap]
      have middleEntry : (writeParam named param fun block => { block with bufDescNum := descNum }).tasks pri =
          { dsp.tasks pri with algo := ⟨message.algoId, some param, some process⟩ } := entry
      generalize (writeParam named param fun block => { block with bufDescNum := descNum }) = middle
        at done work middleOwned block middleEntry
      have kind : (middle.tasks pri).type = (dsp.tasks pri).type := by rw [middleEntry]
      rw [kind] at done
      split at done
      · rename_i software
        cases done
        refine ⟨task_work_trans pri dsp _ _ work (task_work_update pri middle middleOwned),
          .taken process descNum loaded ?_ fun hardware => absurd (software.symm.trans hardware) (by decide)⟩
        simp [updateTaskStatus, middleEntry]
      · rename_i hardware
        rw [Bool.not_eq_false] at hardware
        split at done
        · rename_i zero
          cases done
          exact ⟨work, .noBufs process (by rw [loaded, zero]) hardware middleEntry block⟩
        · rename_i some_bufs
          obtain ⟨more, ways⟩ := buffer_list_cases pri middle next middleOwned param (by rw [middleEntry]) message env descNum
            reply done
          rw [middleEntry] at ways
          refine ⟨task_work_trans pri dsp _ _ work more, ?_⟩
          rcases ways with ⟨short, last⟩ | ⟨last, bufs⟩
          · exact .gaveUp process descNum loaded hardware some_bufs short last
          · exact .taken process descNum loaded last fun _ => ⟨some_bufs, bufs⟩

end Load

inductive BeOutcome (dsp : Dsp) (pri : Nat) (next : Dsp) : Prop where
  | refused (work : TaskWork pri dsp next) (content : next.heap.params = dsp.heap.params)
      (frame : next.vectors = dsp.vectors) (same : next.tasks = dsp.tasks)
  | bound (middle : Dsp) (be : DspBeHandler) (valid : be.type ≠ .invalid) (work : TaskWork pri dsp middle)
      (entry : middle.tasks pri = { dsp.tasks pri with be := be }) (content : middle.heap.params = dsp.heap.params)
      (frame : middle.vectors = dsp.vectors ∨
        middle.vectors = Function.update dsp.vectors .postIsp ⟨.postIsp, 0⟩) (same : next = updateTaskStatus middle pri)

theorem be_outcome (dsp next : Dsp) (id pri : Nat) (found : dspSearchTaskById dsp id = some pri) (owned : HeapOwned dsp)
    (message : BeConfig) (reply : Reply) (done : dspTaskBeConfig dsp id message = some (next, reply)) :
    BeOutcome dsp pri next := by
  cases be_configured dsp id pri found next reply message done with
  | refused same =>
      rw [same]
      exact .refused (task_work_plain pri dsp dsp owned (fun _ _ => rfl) rfl rfl rfl rfl) rfl rfl rfl
  | rejected handler same =>
      rw [same]
      exact .refused (task_work_plain pri dsp _ owned (fun _ _ => rfl) rfl rfl rfl rfl) rfl rfl rfl
  | host config bufs place heap asked block free given same =>
      let started := swBeStart config (dsp.tasks pri).report.buf (dsp.tasks pri).report.bufSize
      have taken := task_work_malloc pri dsp { dsp with heap := heap, swBe := Function.update dsp.swBe place started }
        owned bufs heap given rfl rfl rfl rfl
      exact .bound _ ⟨.host, place, some .host⟩ (by simp)
        (task_work_trans pri dsp _ _ taken (task_work_entry pri _ (task_work_owned pri dsp _ owned taken) _ rfl))
        (modify_task_same _ _ _) (malloc_live _ _ _ given).1 (.inl rfl) same
  | postIsp config handler asked same =>
      let middle := modifyTask (registerDriver { dsp with postIsp := handler } .postIsp .postIsp) pri fun task =>
        { task with be := { task.be with type := .postIsp, ops := some .postIsp } }
      have entry : middle.tasks pri =
          { dsp.tasks pri with be := { (dsp.tasks pri).be with type := .postIsp, ops := some .postIsp } } :=
        modify_task_same _ _ _
      exact .bound middle _ (by simp) (task_work_plain pri dsp middle owned
        (fun other different => modify_task_other _ _ _ _ different) (by rw [entry]) rfl rfl rfl) entry rfl (.inr rfl) same

-- How csi_dsp_task_algo_load ends. A way that fails says nothing about the
-- state, because the entry keeps the pointer to a block it has given back.
inductive ReloadOutcome (dsp : Dsp) (pri : Nat) (algoId : Int) (env : AlgoEnv) (next : Dsp) : Prop where
  | noMemory (refused : env.paramBlock = none)
      (entry : next.tasks pri = { dsp.tasks pri with algo := { (dsp.tasks pri).algo with param := none } })
      (work : TaskWork pri dsp next)
  | failed (param : Nat) (given : env.paramBlock = some param)
      (reason : env.load = none ∨ ((dsp.tasks pri).type.isHw = true ∧ env.bufsBlock = none ∧
        ∃ process descNum, env.load = some (process, descNum) ∧ descNum ≠ 0))
  | loaded (param process descNum : Nat) (given : env.paramBlock = some param) (found : env.load = some (process, descNum))
      (entry : next.tasks pri = { dsp.tasks pri with algo := ⟨algoId, some param, some process⟩ })
      (block : (dsp.tasks pri).type.isHw = true → descNum ≠ 0 → (next.heap.params param).bufferStructPtr ≠ none)
      (work : TaskWork pri dsp next)

theorem task_work_described (dsp : Dsp) (pri : Nat) (owned : HeapOwned dsp) (heap full : Heap) (param : Nat) (library : Loader)
    (given : malloc dsp.heap (some param) = some heap) (brought : loadLibrary heap library = some full) (algoId : Int)
    (process descNum : Nat) : TaskWork pri dsp (describedTask dsp pri full param algoId process descNum) := by
  have work := task_work_take_param pri dsp owned heap full param library given brought
  have fresh := task_work_owned pri dsp _ owned work
  have set := task_work_trans pri dsp _ _ work (task_work_set_algo pri _ fresh algoId (some process))
  have setOwned := task_work_owned pri dsp _ owned set
  have held : ((setAlgo (takeParam dsp pri full param) pri algoId (some process)).tasks pri).algo.param = some param := by
    simp [setAlgo, takeParam, setParam]
  exact task_work_trans pri dsp _ _ set
    (task_work_write_plain pri _ setOwned param held (fun block => { block with bufDescNum := descNum }) fun _ => rfl)

theorem reload_outcome (dsp next : Dsp) (id pri : Nat) (found : dspSearchTaskById dsp id = some pri) (owned : HeapOwned dsp)
    (algoId : Int) (env : AlgoEnv) (reply : Reply) (done : csiDspTaskAlgoLoad dsp id algoId env = some (next, reply)) :
    ReloadOutcome dsp pri algoId env next := by
  cases load_way dsp id pri found next reply algoId env done with
  | starved asked same answer =>
      rw [same]
      exact .noMemory asked (modify_task_same _ _ _)
        (task_work_drop pri dsp [] (fun _ member => absurd member List.not_mem_nil) _ rfl)
  | unloaded heap full param asked given brought missing same answer => exact .failed param asked (.inl missing)
  | plain heap full param process descNum asked given brought loaded few same answer =>
      rw [same]
      refine .loaded param process descNum asked loaded (described_entry dsp pri full param algoId process descNum)
        (fun hardware some_bufs => ?_) (task_work_described dsp pri owned heap full param env.library given brought algoId process descNum)
      rcases few with software | zero
      · exact absurd (software.symm.trans hardware) (by decide)
      · exact absurd zero some_bufs
  | unlisted heap full grown param process descNum asked given brought loaded hardware many missing more same answer =>
      exact .failed param asked (.inr ⟨hardware, missing, process, descNum, loaded, many⟩)
  | listed heap full grown param process descNum bufs asked given brought loaded hardware many list more same answer =>
      have entry := described_entry dsp pri full param algoId process descNum
      have described := task_work_described dsp pri owned heap full param env.library given brought algoId process descNum
      have held := congrArg (fun task => task.algo.param) entry
      rw [same]
      refine .loaded param process descNum asked loaded entry (fun _ _ => ?_) (task_work_trans pri dsp _ _ described
        (task_work_write pri _ (task_work_owned pri dsp _ owned described) param held grown (some bufs) more _ fun _ member => ?_))
      · rw [listedTask, write_param_same]
        simp
      · simp only [pointers, List.mem_append, Option.mem_toList] at member ⊢
        exact member.symm.imp .inr fun same => same

end CsiDsp
