import CsiDsp.Base.Ledger
import CsiDsp.TaskNames

set_option autoImplicit false

namespace CsiDsp

open Ledger

-- sizeof(csi_dsp_algo_param_t) and sizeof(struct csi_dsp_buffer).
def algoParamSize : Nat := 60

def dspBufferSize : Nat := 120

-- The calls of malloc of csi_dsp_load_pilsl. csi_dsp_load_flo makes none.
def loaderUses : Loader → List (Use Nat)
  | .overlay _ | .split none _ _ _ => []
  | .split (some (codeBytes, dataBytes)) dataBlock codeBlock _ =>
      (dataBlock.toList.map fun block => .take block dataBytes) ++ codeBlock.toList.map fun block => .take block codeBytes

-- The calls of malloc and free and the accesses of dsp_task_algo_config to the
-- blocks of the heap, in their order, once there is a parameter block.
def extraBufUses (param bufs descNum : Nat) (set : Option Nat) (message : AlgoConfigPar) : List (Use Nat) :=
  if message.bufsPtr = 0 ∨ message.bufNum.toNat = 0 then [.touch param]
  else if CInt.u32 (message.bufNum.toNat + extraBufStartIndex : Nat) ≤ descNum then [.touch param, .touch bufs, .touch param]
  else .touch param :: gives (bufs :: set.toList ++ [param])

def settingsUses (param bufs descNum : Nat) (block : AlgoParam) (message : AlgoConfigPar) (env : AlgoEnv) : List (Use Nat) :=
  if message.settPtr ≠ 0 ∧ message.settLength ≠ 0 then
    match env.setBlock with
    | none => .touch param :: gives [bufs, param]
    | some set =>
        [.touch param, .take set message.settLength, .touch set] ++ extraBufUses param bufs descNum (some set) message
  else extraBufUses param bufs descNum block.setBufPtr message

def bufferListUses (param descNum : Nat) (block : AlgoParam) (message : AlgoConfigPar) (env : AlgoEnv) : List (Use Nat) :=
  match env.bufsBlock with
  | none => .touch param :: gives [param]
  | some bufs =>
      [.touch param, .take bufs (descNum * dspBufferSize), .touch bufs] ++ settingsUses param bufs descNum block message env

def loadConfigUses (hw : Bool) (param : Nat) (block : AlgoParam) (message : AlgoConfigPar) (env : AlgoEnv) : List (Use Nat) :=
  .touch param ::
    match env.load with
    | none => gives [param]
    | some (_, descNum) => if hw = false ∨ descNum = 0 then [.touch param] else bufferListUses param descNum block message env

def updateUses (param : Nat) (block : AlgoParam) (message : AlgoConfigPar) : List (Use Nat) :=
  (if message.settPtr = 0 ∨ message.settLength = 0 then []
    else .touch param ::
      if block.setBufSize = message.settLength then block.setBufPtr.toList.map .touch else []) ++
  (if message.bufsPtr = 0 ∨ message.bufNum.toNat = 0 then []
    else .touch param ::
      if message.bufNum.toNat ≤ CInt.u32 ((block.bufferNum : Int) - extraBufStartIndex) then block.bufferStructPtr.toList.map .touch
      else [])

def algoConfigUses (dsp : Dsp) (pri : Nat) (message : AlgoConfigPar) (env : AlgoEnv) : List (Use Nat) :=
  let task := dsp.tasks pri
  match task.algo.param with
  | none =>
      match env.paramBlock with
      | none => []
      | some param =>
          [.take param algoParamSize, .touch param] ++ loaderUses env.library ++
            loadConfigUses task.type.isHw param zeroParam message env
  | some param =>
      let block := dsp.heap.params param
      if task.algo.algoProcess ≠ none ∧ message.algoPtr = 0 ∧ message.algoId = -1 then updateUses param block message
      else loaderUses env.library ++ loadConfigUses task.type.isHw param block message env

def algoLoadUses (dsp : Dsp) (pri : Nat) (env : AlgoEnv) : List (Use Nat) :=
  match env.paramBlock with
  | none => []
  | some param =>
      [.take param algoParamSize, .touch param] ++ loaderUses env.library ++
        .touch param ::
          match env.load with
          | none => gives [param]
          | some (_, descNum) =>
              if (dsp.tasks pri).type.isHw = false ∨ descNum = 0 then [.touch param]
              else
                match env.bufsBlock with
                | none => .touch param :: gives [param]
                | some bufs => [.touch param, .take bufs (descNum * dspBufferSize), .touch param]

def taskFreeUses (dsp : Dsp) (pri : Nat) : List (Use Nat) :=
  match (dsp.tasks pri).algo.param with
  | none => []
  | some param =>
      if (dsp.tasks pri).type.isHw then .touch param :: gives (pointers (dsp.heap.params param) ++ [param]) else gives [param]

def commandUses (dsp : Dsp) : Command → List (Use Nat)
  | .taskFree id => (dspSearchTaskById dsp id).elim [] (taskFreeUses dsp)
  | .algoConfig id message env => (dspSearchTaskById dsp id).elim [] fun pri => algoConfigUses dsp pri message env
  | .algoLoad id _ env => (dspSearchTaskById dsp id).elim [] fun pri => algoLoadUses dsp pri env
  | _ => []

-- The blocks of the algorithms are the only ones that count here, so commands
-- that take other memory have no step.
def Command.isAlgo : Command → Bool
  | .taskAlloc _ _ | .taskFree _ | .algoConfig _ _ _ | .algoLoad _ _ _ => true
  | _ => false

-- The account of the heap is lost once a block has been used wrongly.
structure AlgoMemory where
  dsp : Dsp
  ledger : Option (Nat → Option Nat)

def algoMemoryStep (state : AlgoMemory) (command : Command) : Option AlgoMemory :=
  if command.isAlgo then
    (psCommonCommand state.dsp command).map fun result =>
      ⟨result.1, state.ledger.bind fun ledger => Runs.run use ledger (commandUses state.dsp command)⟩
  else none

def initAlgoMemory (cmd : XrpDspCmd) (payload : ReportItem) : AlgoMemory := ⟨initDsp cmd payload, some fun _ => none⟩

-- The blocks behind the algorithm of a task.
structure TaskBlocks (ledger : Nat → Option Nat) (params : Nat → AlgoParam) (task : DspTask) (param : Nat) : Prop where
  size : ledger param = some algoParamSize
  bufs : ∀ block, (params param).bufferStructPtr = some block → ledger block = some ((params param).bufferNum * dspBufferSize)
  set : ∀ block, (params param).setBufPtr = some block → ledger block = some (params param).setBufSize
  distinct : (param :: pointers (params param)).Nodup
  software : task.type.isHw = false → pointers (params param) = []

structure MemoryInv (dsp : Dsp) (ledger : Nat → Option Nat) : Prop where
  live : ∀ block, dsp.heap.live block = true ↔ ledger block ≠ none
  owned : HeapOwned dsp
  blocks : ∀ pri param, (dsp.tasks pri).algo.param = some param → TaskBlocks ledger dsp.heap.params (dsp.tasks pri) param

-- Blocks that stay in use keep what lies behind a task.
theorem task_blocks_kept (ledger final : Nat → Option Nat) (params : Nat → AlgoParam) (task : DspTask) (param : Nat)
    (sound : TaskBlocks ledger params task param) (kept : ∀ other, ledger other ≠ none → final other = ledger other) :
    TaskBlocks final params task param := by
  obtain ⟨size, bufs, set, distinct, software⟩ := sound
  refine ⟨by rw [kept param (by simp [size]), size], fun block pointed => ?_, fun block pointed => ?_, distinct, software⟩
  · rw [kept block (by simp [bufs block pointed])]
    exact bufs block pointed
  · rw [kept block (by simp [set block pointed])]
    exact set block pointed

-- The uses go through and end in a sound state.
def Reaches (ledger : Nat → Option Nat) (uses : List (Use Nat)) (next : Dsp) : Prop :=
  ∃ final, Runs.run use ledger uses = some final ∧ MemoryInv next final

section Reach

variable (dsp middle next : Dsp) (ledger : Nat → Option Nat) (inv : MemoryInv dsp ledger) (pri : Nat)

theorem reaches_then (first second : List (Use Nat)) (start : Reaches ledger first middle)
    (rest : ∀ final, MemoryInv middle final → Reaches final second next) : Reaches ledger (first ++ second) next := by
  obtain ⟨final, ran, held⟩ := start
  obtain ⟨last, ranLast, heldLast⟩ := rest final held
  exact ⟨last, by rw [Runs.run_append, ran]; exact ranLast, heldLast⟩

theorem reaches_touch (block : Nat) (live : ledger block ≠ none) (rest : List (Use Nat)) (last : Reaches ledger rest next) :
    Reaches ledger (.touch block :: rest) next := by
  obtain ⟨final, ran, held⟩ := last
  refine ⟨final, ?_, held⟩
  rw [Runs.run, use, if_neg live]
  exact ran

include inv

theorem memory_inv_work (final : Nat → Option Nat) (work : TaskWork pri dsp next)
    (live : ∀ block, next.heap.live block = true ↔ final block ≠ none)
    (kept : ∀ block, ledger block ≠ none → block ∉ ownBlocks dsp pri → final block = ledger block)
    (own : ∀ param, (next.tasks pri).algo.param = some param → TaskBlocks final next.heap.params (next.tasks pri) param) :
    MemoryInv next final := by
  refine ⟨live, task_work_owned pri dsp next inv.owned work, fun other param held => ?_⟩
  by_cases same : other = pri
  · subst same
    exact own param held
  · rw [work.tasks other same] at held ⊢
    obtain ⟨size, bufs, set, distinct, software⟩ := inv.blocks other param held
    have content := work.params other same param held
    have theirs : ∀ block, block ∈ param :: pointers (dsp.heap.params param) → final block = ledger block := by
      intro block member
      have mine : block ∈ ownBlocks dsp other := by simpa [ownBlocks, held] using member
      obtain ⟨alive, alone⟩ := inv.owned other block mine
      exact kept block ((inv.live block).mp alive) (alone pri (Ne.symm same))
    refine ⟨(theirs param List.mem_cons_self).trans size, ?_, ?_, by rw [content]; exact distinct, by rw [content]; exact software⟩
    · rw [content]
      intro block pointed
      rw [theirs block (by simp [pointers, pointed])]
      exact bufs block pointed
    · rw [content]
      intro block pointed
      rw [theirs block (by simp [pointers, pointed])]
      exact set block pointed

theorem memory_inv_entry (change : DspTask → DspTask) (param : (change (dsp.tasks pri)).algo.param = (dsp.tasks pri).algo.param)
    (kind : (change (dsp.tasks pri)).type.isHw = (dsp.tasks pri).type.isHw) : MemoryInv (modifyTask dsp pri change) ledger := by
  refine memory_inv_work dsp _ ledger inv pri ledger (task_work_entry pri dsp inv.owned change param) inv.live
    (fun _ _ _ => rfl) fun held same => ?_
  rw [modify_task_same] at same ⊢
  rw [param] at same
  obtain ⟨size, bufs, set, distinct, software⟩ := inv.blocks pri held same
  exact ⟨size, bufs, set, distinct, fun soft => software (kind ▸ soft)⟩

theorem memory_inv_content (tasks : next.tasks = dsp.tasks) (live : next.heap.live = dsp.heap.live)
    (params : next.heap.params = dsp.heap.params) : MemoryInv next ledger := by
  refine ⟨live ▸ inv.live, fun other block member => ?_, by rw [tasks, params]; exact inv.blocks⟩
  have own : ownBlocks next = ownBlocks dsp := by
    funext task
    simp only [ownBlocks]
    rw [tasks, params]
  rw [own] at member ⊢
  rw [live]
  exact inv.owned other block member

-- A block that no task owns is taken.
theorem reaches_block (block : Option Nat) (size : Nat) (heap : Heap) (given : malloc dsp.heap block = some heap) :
    Reaches ledger (block.toList.map fun address => .take address size) { dsp with heap := heap } := by
  obtain ⟨params, live, free⟩ := malloc_live _ _ _ given
  cases block with
  | none =>
      cases given
      exact ⟨ledger, rfl, inv⟩
  | some fresh =>
      have dead : ledger fresh = none := by
        by_contra alive
        have used := (inv.live fresh).mpr alive
        rw [free fresh rfl] at used
        cases used
      have kept (other : Nat) (alive : ledger other ≠ none) : Function.update ledger fresh (some size) other = ledger other :=
        Function.update_of_ne (fun same => alive (by rw [same, dead])) _ _
      refine ⟨Function.update ledger fresh (some size), by simp [Runs.run, use, dead],
        memory_inv_work dsp _ ledger inv 0 _ (task_work_malloc 0 dsp _ inv.owned _ heap given rfl rfl rfl rfl) (fun address => ?_)
          (fun other alive _ => kept other alive) fun param held => ?_⟩
      · rw [live address, inv.live address]
        by_cases same : address = fresh
        · simp [same]
        · simp [same, Ne.symm same]
      · have sound := task_blocks_kept ledger _ dsp.heap.params _ param (inv.blocks 0 param held) kept
        rwa [← params] at sound

theorem reaches_library (env : AlgoEnv) (brought : dspAlgoLoad dsp env = some next) : Reaches ledger (loaderUses env.library) next := by
  obtain ⟨full, loaded, same⟩ := Option.map_eq_some_iff.mp brought
  cases library : env.library with
  | overlay entry =>
      rw [library] at loaded
      cases loaded
      exact ⟨ledger, rfl, same ▸ inv⟩
  | split sizes dataBlock codeBlock entry =>
      rw [library] at loaded
      cases sizes with
      | none =>
          cases loaded
          exact ⟨ledger, rfl, same ▸ inv⟩
      | some bytes =>
          obtain ⟨data, first, second⟩ := Option.bind_eq_some_iff.mp loaded
          refine reaches_then { dsp with heap := data } next ledger _ _ (reaches_block dsp ledger inv dataBlock bytes.2 data first)
            fun final taken => ?_
          exact same ▸ reaches_block _ final taken codeBlock bytes.1 full second

theorem reaches_take_param (heap : Heap) (param : Nat) (given : malloc dsp.heap (some param) = some heap) :
    Reaches ledger [.take param algoParamSize] (takeParam dsp pri heap param) := by
  obtain ⟨params, live, free⟩ := malloc_live _ _ _ given
  have dead : ledger param = none := by
    by_contra alive
    have used := (inv.live param).mpr alive
    rw [free param rfl] at used
    cases used
  refine ⟨Function.update ledger param (some algoParamSize), by simp [Runs.run, use, dead],
    memory_inv_work dsp _ ledger inv pri _ (task_work_take_param pri dsp inv.owned heap heap param (.overlay none) given rfl)
      (fun block => ?_)
      (fun block alive _ => ?_) fun held same => ?_⟩
  · have grown : (takeParam dsp pri heap param).heap.live block = heap.live block := rfl
    rw [grown, live block, inv.live block]
    by_cases same : block = param
    · simp [same]
    · simp [same, Ne.symm same]
  · exact Function.update_of_ne (fun same => alive (by rw [same, dead])) _ _
  · have entry : ((takeParam dsp pri heap param).tasks pri).algo.param = some param := by simp [takeParam, setParam]
    have content : (takeParam dsp pri heap param).heap.params param = zeroParam := write_param_same _ _ _
    rw [entry] at same
    cases same
    refine ⟨Function.update_self _ _ _, ?_, ?_, ?_, ?_⟩ <;> rw [content] <;> simp [zeroParam, pointers]

-- A field of the parameter block is written, behind a malloc or not.
theorem reaches_write (param : Nat) (held : (dsp.tasks pri).algo.param = some param) (heap : Heap) (block : Option Nat) (size : Nat)
    (given : malloc dsp.heap block = some heap) (change : AlgoParam → AlgoParam)
    (within : ∀ address ∈ pointers (change (dsp.heap.params param)),
      address ∈ pointers (dsp.heap.params param) ∨ block = some address)
    (own : ∀ final : Nat → Option Nat, (∀ other, ledger other ≠ none → final other = ledger other) →
      (∀ address, block = some address → final address = some size ∧ ledger address = none) →
      TaskBlocks final (Function.update dsp.heap.params param (change (dsp.heap.params param))) (dsp.tasks pri) param) :
    Reaches ledger (block.toList.map fun address => .take address size) (writeParam { dsp with heap := heap } param change) := by
  obtain ⟨params, live, free⟩ := malloc_live _ _ _ given
  have dead : ∀ address, block = some address → ledger address = none := by
    intro address same
    by_contra alive
    have used := (inv.live address).mpr alive
    rw [free address same] at used
    cases used
  have work := task_work_write pri dsp inv.owned param held heap block given change within
  have last (final : Nat → Option Nat) (kept : ∀ other, ledger other ≠ none → final other = ledger other)
      (taken : ∀ address, final address ≠ none ↔ ledger address ≠ none ∨ block = some address)
      (fresh : ∀ address, block = some address → final address = some size) :
      MemoryInv (writeParam { dsp with heap := heap } param change) final := by
    refine memory_inv_work dsp _ ledger inv pri final work (fun address => ?_) (fun other alive _ => kept other alive)
      fun other same => ?_
    · rw [taken address, ← inv.live address]
      exact live address
    · have entry : (dsp.tasks pri).algo.param = some other := same
      rw [held] at entry
      cases entry
      have content : (writeParam { dsp with heap := heap } param change).heap.params =
          Function.update dsp.heap.params param (change (dsp.heap.params param)) := by rw [← params]; rfl
      rw [content]
      exact own final kept fun address same => ⟨fresh address same, dead address same⟩
  cases block with
  | none => exact ⟨ledger, rfl, last ledger (fun _ _ => rfl) (fun _ => by simp) fun _ same => (by cases same)⟩
  | some address =>
      refine ⟨Function.update ledger address (some size), by simp [Runs.run, use, dead address rfl], last _ ?_ ?_ ?_⟩
      · exact fun other alive => Function.update_of_ne (fun same => alive (by rw [same, dead address rfl])) _ _
      · intro other
        by_cases same : other = address
        · simp [same]
        · simp [same, Ne.symm same]
      · rintro other same
        cases same
        exact Function.update_self _ _ _

omit inv in
theorem free_in_live_iff (blocks : List (Option Nat)) (address : Nat) : (blocks.foldl freeInDsp dsp).heap.live address = true ↔
    address ∉ blocks.filterMap id ∧ dsp.heap.live address = true := by
  induction blocks generalizing dsp with
  | nil => simp
  | cons block rest ih =>
      rw [List.foldl_cons, ih]
      cases block with
      | none => simp [freeInDsp, freeBlock]
      | some freed =>
          by_cases same : address = freed
          · simp [freeInDsp, freeBlock, same]
          · simp [freeInDsp, freeBlock, same]

-- A task gives back blocks of its own, each once, and forgets them.
theorem reaches_drop (blocks : List (Option Nat)) (mine : ∀ address ∈ blocks.filterMap id, address ∈ ownBlocks dsp pri)
    (distinct : (blocks.filterMap id).Nodup) (change : DspTask → DspTask) (empty : (change (dsp.tasks pri)).algo.param = none) :
    Reaches ledger (gives (blocks.filterMap id)) (modifyTask (blocks.foldl freeInDsp dsp) pri change) := by
  have alive : ∀ address ∈ blocks.filterMap id, ledger address ≠ none := fun address member =>
    (inv.live address).mp (inv.owned pri address (mine address member)).1
  obtain ⟨final, ran, value⟩ := gives_distinct ledger _ alive distinct
  have work : TaskWork pri dsp (modifyTask (blocks.foldl freeInDsp dsp) pri change) :=
    task_work_drop pri dsp blocks (fun block member address same => mine address (by
      rw [List.mem_filterMap]
      exact ⟨block, member, same⟩)) change empty
  refine ⟨final, ran, memory_inv_work dsp _ ledger inv pri final work (fun address => ?_) (fun address _ outside => ?_)
    fun param held => ?_⟩
  · rw [value address]
    refine (free_in_live_iff dsp blocks address).trans ?_
    by_cases member : address ∈ blocks.filterMap id
    · rw [if_pos member]
      exact iff_of_false (fun both => both.1 member) fun alive => alive rfl
    · rw [if_neg member, ← inv.live address]
      exact and_iff_right member
  · rw [value address, if_neg fun member => outside (mine address member)]
  · rw [modify_task_same] at held
    have tasks : (blocks.foldl freeInDsp dsp).tasks = dsp.tasks := by rw [(free_in_same dsp blocks).1]
    rw [tasks, empty] at held
    cases held

theorem reaches_drop_param (param : Nat) (held : (dsp.tasks pri).algo.param = some param) (blocks : List (Option Nat))
    (within : (blocks.filterMap id).Sublist (pointers (dsp.heap.params param))) :
    Reaches ledger (gives (blocks.filterMap id ++ [param])) (dropParam dsp pri param blocks) := by
  have sound := inv.blocks pri param held
  have own : ownBlocks dsp pri = param :: pointers (dsp.heap.params param) := by simp [ownBlocks, held]
  have listed : (blocks ++ [some param]).filterMap id = blocks.filterMap id ++ [param] := by simp
  obtain ⟨apart, distinct⟩ := List.nodup_cons.mp sound.distinct
  rw [drop_param_eq, ← listed]
  refine reaches_drop dsp ledger inv pri _ (fun address member => ?_) ?_ _ rfl
  · rw [listed, List.mem_append] at member
    rw [own]
    rcases member with pointer | last
    · exact List.mem_cons_of_mem param (within.subset pointer)
    · exact List.mem_singleton.mp last ▸ List.mem_cons_self
  · rw [listed]
    refine (distinct.sublist within).append (List.nodup_singleton param) fun address pointer last => ?_
    exact apart (List.mem_singleton.mp last ▸ within.subset pointer)

end Reach

section Config

variable (dsp next : Dsp) (ledger final : Nat → Option Nat) (inv : MemoryInv dsp ledger) (pri param : Nat)
  (held : (dsp.tasks pri).algo.param = some param)

theorem distinct_blocks (block : AlgoParam) : (param :: pointers block).Nodup ↔
    (∀ address, block.bufferStructPtr = some address → address ≠ param) ∧
      ∀ address, block.setBufPtr = some address → address ≠ param ∧ block.bufferStructPtr ≠ some address := by
  rw [pointers]
  cases block.bufferStructPtr with
  | none => cases block.setBufPtr <;> simp [eq_comm]
  | some bufs =>
      cases block.setBufPtr with
      | none => simp [eq_comm]
      | some settings => simp [eq_comm, and_assoc]

-- A fresh buffer list or settings block next to the blocks that are there.
theorem task_blocks_list (params : Nat → AlgoParam) (task : DspTask) (sound : TaskBlocks ledger params task param)
    (hardware : task.type.isHw = true) (descNum : Nat) (bufs : Option Nat)
    (kept : ∀ other, ledger other ≠ none → final other = ledger other)
    (fresh : ∀ address, bufs = some address → final address = some (descNum * dspBufferSize) ∧ ledger address = none) :
    TaskBlocks final (Function.update params param { params param with bufferNum := descNum, bufferStructPtr := bufs }) task param := by
  obtain ⟨size, old, set, distinct, -⟩ := sound
  have apart : ∀ address other, bufs = some address → ledger other ≠ none → address ≠ other := by
    rintro address other same alive rfl
    exact alive (fresh address same).2
  have setLive : ∀ address, (params param).setBufPtr = some address → ledger address ≠ none := fun address same => by
    simp [set address same]
  refine ⟨?_, ?_, ?_, ?_, fun software => absurd (software.symm.trans hardware) (by decide)⟩
  · rw [kept param (by simp [size]), size]
  · rw [Function.update_self]
    exact fun address same => (fresh address same).1
  · rw [Function.update_self]
    intro address same
    rw [kept address (setLive address same)]
    exact set address same
  · rw [Function.update_self, distinct_blocks]
    refine ⟨fun address same => apart address param same (by simp [size]), fun address same => ⟨?_, fun taken => ?_⟩⟩
    · exact (((distinct_blocks param _).mp distinct).2 address same).1
    · exact apart address address taken (setLive address same) rfl

theorem task_blocks_settings (params : Nat → AlgoParam) (task : DspTask) (sound : TaskBlocks ledger params task param)
    (hardware : task.type.isHw = true) (length : Nat) (settings : Option Nat)
    (kept : ∀ other, ledger other ≠ none → final other = ledger other)
    (fresh : ∀ address, settings = some address → final address = some length ∧ ledger address = none) :
    TaskBlocks final (Function.update params param { params param with setBufSize := length, setBufPtr := settings }) task param := by
  obtain ⟨size, bufs, old, distinct, -⟩ := sound
  have apart : ∀ address other, settings = some address → ledger other ≠ none → address ≠ other := by
    rintro address other same alive rfl
    exact alive (fresh address same).2
  have bufsLive : ∀ address, (params param).bufferStructPtr = some address → ledger address ≠ none := fun address same => by
    simp [bufs address same]
  refine ⟨?_, ?_, ?_, ?_, fun software => absurd (software.symm.trans hardware) (by decide)⟩
  · rw [kept param (by simp [size]), size]
  · rw [Function.update_self]
    intro address same
    rw [kept address (bufsLive address same)]
    exact bufs address same
  · rw [Function.update_self]
    exact fun address same => (fresh address same).1
  · rw [Function.update_self, distinct_blocks]
    refine ⟨((distinct_blocks param _).mp distinct).1, fun address same => ⟨apart address param same (by simp [size]), fun taken => ?_⟩⟩
    exact apart address address same (bufsLive address taken) rfl

include inv held

theorem param_live : ledger param ≠ none := by
  simp [(inv.blocks pri param held).size]

theorem bufs_live (bufs : Nat) (pointed : (dsp.heap.params param).bufferStructPtr = some bufs) : ledger bufs ≠ none := by
  simp [(inv.blocks pri param held).bufs bufs pointed]

theorem settings_live (settings : Nat) (pointed : (dsp.heap.params param).setBufPtr = some settings) : ledger settings ≠ none := by
  simp [(inv.blocks pri param held).set settings pointed]

theorem memory_inv_desc (descNum : Nat) : MemoryInv (writeParam dsp param fun block => { block with bufDescNum := descNum }) ledger := by
  obtain ⟨final, ran, last⟩ := reaches_write dsp ledger inv pri param held dsp.heap none 0 rfl
    (fun block => { block with bufDescNum := descNum }) (fun _ member => .inl member) fun final kept _ => by
      obtain ⟨size, bufs, set, distinct, software⟩ := task_blocks_kept ledger final _ _ param (inv.blocks pri param held) kept
      refine ⟨size, ?_, ?_, ?_, ?_⟩ <;> rw [Function.update_self]
      exacts [bufs, set, distinct, software]
  cases ran
  exact last

theorem reaches_list (hardware : (dsp.tasks pri).type.isHw = true) (heap : Heap) (bufs : Option Nat) (descNum : Nat)
    (given : malloc dsp.heap bufs = some heap) :
    Reaches ledger (bufs.toList.map fun address => .take address (descNum * dspBufferSize))
      (writeParam { dsp with heap := heap } param fun block => { block with bufferNum := descNum, bufferStructPtr := bufs }) := by
  refine reaches_write dsp ledger inv pri param held heap bufs _ given _ (fun address member => ?_) fun final kept fresh =>
    task_blocks_list ledger final param _ _ (inv.blocks pri param held) hardware descNum bufs kept fresh
  simp only [pointers, List.mem_append, Option.mem_toList] at member ⊢
  exact member.symm.imp .inr fun same => same

theorem reaches_settings (hardware : (dsp.tasks pri).type.isHw = true) (heap : Heap) (settings : Option Nat) (length : Nat)
    (given : malloc dsp.heap settings = some heap) :
    Reaches ledger (settings.toList.map fun address => .take address length)
      (writeParam { dsp with heap := heap } param fun block => { block with setBufSize := length, setBufPtr := settings }) := by
  refine reaches_write dsp ledger inv pri param held heap settings _ given _ (fun address member => ?_) fun final kept fresh =>
    task_blocks_settings ledger final param _ _ (inv.blocks pri param held) hardware length settings kept fresh
  simp only [pointers, List.mem_append, Option.mem_toList] at member ⊢
  exact member.imp .inl fun same => same

end Config

section Commands

variable (dsp next : Dsp) (ledger : Nat → Option Nat) (inv : MemoryInv dsp ledger) (pri param : Nat)
  (held : (dsp.tasks pri).algo.param = some param) (message : AlgoConfigPar) (env : AlgoEnv) (reply : Reply)

include inv held

theorem reaches_extra (bufs : Nat) (pointed : (dsp.heap.params param).bufferStructPtr = some bufs)
    (done : (if (takeBuffers dsp param message env.bufs).2 = false then none
      else some (updateTaskStatus (takeBuffers dsp param message env.bufs).1 pri, .status .ok)) = some (next, reply)) :
    Reaches ledger (extraBufUses param bufs (dsp.heap.params param).bufferNum (dsp.heap.params param).setBufPtr message) next := by
  have live := param_live dsp ledger inv pri param held
  obtain ⟨written, filled⟩ := take_buffers_same dsp param message env.bufs
  have updated : MemoryInv (updateTaskStatus (takeBuffers dsp param message env.bufs).1 pri) ledger := by
    rw [filled]
    exact memory_inv_entry _ ledger (memory_inv_content dsp { dsp with heap := { dsp.heap with bufs := written } } ledger inv rfl rfl rfl)
      pri _ rfl rfl
  split at done
  · cases done
  · rename_i took
    cases done
    rw [extraBufUses]
    split
    · exact reaches_touch _ ledger param live [] ⟨ledger, rfl, updated⟩
    · rename_i asked
      have fits : CInt.u32 (message.bufNum.toNat + extraBufStartIndex : Nat) ≤ (dsp.heap.params param).bufferNum := by
        by_contra less
        exact took (by rw [takeBuffers, if_neg asked, if_neg less])
      rw [if_pos fits]
      exact reaches_touch _ ledger param live _ (reaches_touch _ ledger bufs (bufs_live dsp ledger inv pri param held bufs pointed) _
        (reaches_touch _ ledger param live [] ⟨ledger, rfl, updated⟩))

theorem reaches_settle (hardware : (dsp.tasks pri).type.isHw = true) (bufs : Nat)
    (pointed : (dsp.heap.params param).bufferStructPtr = some bufs) (settled : Dsp) (took : Bool)
    (settle : takeSettings dsp pri param message env = some (settled, took))
    (done : (if took = false then some (settled, .status .malloFail)
      else if (takeBuffers settled param message env.bufs).2 = false then none
      else some (updateTaskStatus (takeBuffers settled param message env.bufs).1 pri, .status .ok)) = some (next, reply)) :
    Reaches ledger (settingsUses param bufs (dsp.heap.params param).bufferNum (dsp.heap.params param) message env) next := by
  have live := param_live dsp ledger inv pri param held
  simp only [takeSettings] at settle
  rw [settingsUses]
  by_cases wanted : message.settPtr ≠ 0 ∧ message.settLength ≠ 0
  · rw [if_pos wanted] at settle ⊢
    obtain ⟨grown, more, settle⟩ := Option.bind_eq_some_iff.mp settle
    have stored := reaches_settings dsp ledger inv pri param held hardware grown env.setBlock message.settLength more
    have setContent := write_param_same { dsp with heap := grown } param
      fun block => { block with setBufSize := message.settLength, setBufPtr := env.setBlock }
    have setTasks := write_param_tasks { dsp with heap := grown } param
      fun block => { block with setBufSize := message.settLength, setBufPtr := env.setBlock }
    rw [show ({ dsp with heap := grown } : Dsp).heap.params = dsp.heap.params from (malloc_live _ _ _ more).1] at setContent
    generalize (writeParam { dsp with heap := grown } param
      fun block => { block with setBufSize := message.settLength, setBufPtr := env.setBlock }) = stocked
      at settle stored setContent setTasks
    have setHeld : (stocked.tasks pri).algo.param = some param := by rw [setTasks]; exact held
    have setPointed : (stocked.heap.params param).bufferStructPtr = some bufs := by rw [setContent]; exact pointed
    cases got : env.setBlock with
    | none =>
        rw [got] at settle stored
        obtain ⟨last, ran, setInv⟩ := stored
        cases ran
        cases settle
        cases done
        have dropped := reaches_drop_param stocked ledger setInv pri param setHeld [(stocked.heap.params param).bufferStructPtr] (by
          rw [pointers]
          cases (stocked.heap.params param).bufferStructPtr <;> simp)
        rw [setPointed] at dropped
        refine reaches_touch _ ledger param live _ ?_
        simpa [setPointed] using dropped
    | some block =>
        rw [got] at settle stored setContent
        cases settle
        refine reaches_touch _ ledger param live _ (reaches_then stocked next ledger [.take block message.settLength] _ stored
          fun last setInv => ?_)
        have setSettings : (stocked.heap.params param).setBufPtr = some block := by rw [setContent]
        have setNumber : (stocked.heap.params param).bufferNum = (dsp.heap.params param).bufferNum := by rw [setContent]
        refine reaches_touch _ last block (settings_live stocked last setInv pri param setHeld block setSettings) _ ?_
        have settledInv := memory_inv_content stocked (writeSettings stocked block fun offset =>
          if offset < message.settLength then env.settings offset else stocked.heap.settings block offset) last setInv rfl rfl rfl
        have ended := reaches_extra _ next last settledInv pri param setHeld message env reply bufs setPointed done
        rwa [show (writeSettings stocked block _).heap.params = stocked.heap.params from rfl, setNumber, setSettings] at ended
  · rw [if_neg wanted] at settle ⊢
    cases settle
    exact reaches_extra dsp next ledger inv pri param held message env reply bufs pointed done

theorem reaches_buffer_list (hardware : (dsp.tasks pri).type.isHw = true) (descNum : Nat)
    (done : takeBufferList dsp pri param message env descNum = some (next, reply)) :
    Reaches ledger (bufferListUses param descNum (dsp.heap.params param) message env) next := by
  have live := param_live dsp ledger inv pri param held
  obtain ⟨heap, given, done⟩ := Option.bind_eq_some_iff.mp done
  have listed := reaches_list dsp ledger inv pri param held hardware heap env.bufsBlock descNum given
  have content := write_param_same { dsp with heap := heap } param
    fun block => { block with bufferNum := descNum, bufferStructPtr := env.bufsBlock }
  have tasks := write_param_tasks { dsp with heap := heap } param
    fun block => { block with bufferNum := descNum, bufferStructPtr := env.bufsBlock }
  rw [show ({ dsp with heap := heap } : Dsp).heap.params = dsp.heap.params from (malloc_live _ _ _ given).1] at content
  generalize (writeParam { dsp with heap := heap } param
    fun block => { block with bufferNum := descNum, bufferStructPtr := env.bufsBlock }) = list at done listed content tasks
  have listHeld : (list.tasks pri).algo.param = some param := by rw [tasks]; exact held
  have listKind : (list.tasks pri).type.isHw = true := by rw [tasks]; exact hardware
  rw [bufferListUses]
  cases asked : env.bufsBlock with
  | none =>
      rw [asked] at done listed
      obtain ⟨final, ran, listInv⟩ := listed
      cases ran
      cases done
      exact reaches_touch _ ledger param live _ (reaches_drop_param list ledger listInv pri param listHeld [] (List.nil_sublist _))
  | some bufs =>
      rw [asked] at done listed content
      refine reaches_touch _ ledger param live _ (reaches_then list next ledger [.take bufs (descNum * dspBufferSize)] _ listed
        fun final listInv => ?_)
      have number : (list.heap.params param).bufferNum = descNum := by rw [content]
      have pointed : (list.heap.params param).bufferStructPtr = some bufs := by rw [content]
      have settings : (list.heap.params param).setBufPtr = (dsp.heap.params param).setBufPtr := by rw [content]
      refine reaches_touch _ final bufs (bufs_live list final listInv pri param listHeld bufs pointed) _ ?_
      obtain ⟨⟨settled, took⟩, settle, done⟩ := Option.bind_eq_some_iff.mp done
      have cleared := memory_inv_content list (writeBufs list bufs fun slot => if slot < descNum then zeroAlgoBuffer
        else list.heap.bufs bufs slot) final listInv rfl rfl rfl
      have ended := reaches_settle _ next final cleared pri param listHeld message env reply listKind bufs pointed settled took
        settle done
      rw [show (writeBufs list bufs _).heap.params = list.heap.params from rfl] at ended
      have same : settingsUses param bufs descNum (list.heap.params param) message env =
          settingsUses param bufs descNum (dsp.heap.params param) message env := by
        rw [settingsUses, settingsUses, settings]
      rwa [number, same] at ended

theorem reaches_load_config (done : dspTaskAlgoLoadConfig dsp pri param message env = some (next, reply)) :
    Reaches ledger (loadConfigUses (dsp.tasks pri).type.isHw param (dsp.heap.params param) message env) next := by
  have live := param_live dsp ledger inv pri param held
  rw [loadConfigUses]
  refine reaches_touch next ledger param live _ ?_
  simp only [dspTaskAlgoLoadConfig] at done
  cases loaded : env.load with
  | none =>
      simp only [loaded] at done
      cases done
      have named : MemoryInv (setAlgo dsp pri message.algoId none) ledger := memory_inv_entry dsp ledger inv pri _ rfl rfl
      exact reaches_drop_param _ ledger named pri param (by simp [setAlgo, held]) [] (List.nil_sublist _)
  | some result =>
      obtain ⟨process, descNum⟩ := result
      simp only [loaded] at done
      dsimp only
      have named : MemoryInv (setAlgo dsp pri message.algoId (some process)) ledger := memory_inv_entry dsp ledger inv pri _ rfl rfl
      have entry : ((setAlgo dsp pri message.algoId (some process)).tasks pri).algo.param = some param := by simp [setAlgo, held]
      have kind : ((setAlgo dsp pri message.algoId (some process)).tasks pri).type = (dsp.tasks pri).type := by simp [setAlgo]
      have described := memory_inv_desc _ ledger named pri param entry descNum
      have content := write_param_same (setAlgo dsp pri message.algoId (some process)) param
        fun block => { block with bufDescNum := descNum }
      have tasks := write_param_tasks (setAlgo dsp pri message.algoId (some process)) param
        fun block => { block with bufDescNum := descNum }
      rw [show (setAlgo dsp pri message.algoId (some process)).heap.params = dsp.heap.params from rfl] at content
      generalize (writeParam (setAlgo dsp pri message.algoId (some process)) param fun block => { block with bufDescNum := descNum }) =
        middle at done described content tasks
      have middleHeld : (middle.tasks pri).algo.param = some param := by rw [tasks, entry]
      have middleKind : (middle.tasks pri).type = (dsp.tasks pri).type := by rw [tasks, kind]
      have middleLive := param_live middle ledger described pri param middleHeld
      rw [middleKind] at done
      by_cases software : (dsp.tasks pri).type.isHw = false
      · rw [if_pos software] at done
        rw [if_pos (.inl software)]
        cases done
        exact reaches_touch _ ledger param middleLive [] ⟨ledger, rfl, memory_inv_entry middle ledger described pri _ rfl rfl⟩
      · rw [if_neg software] at done
        by_cases zero : descNum = 0
        · rw [if_pos zero] at done
          rw [if_pos (.inr zero)]
          cases done
          exact reaches_touch _ ledger param middleLive [] ⟨ledger, rfl, described⟩
        · rw [if_neg zero] at done
          rw [if_neg (not_or.mpr ⟨software, zero⟩)]
          have listed := reaches_buffer_list middle next ledger described pri param middleHeld message env reply
            (by rw [middleKind]; simpa using software) descNum done
          have same : bufferListUses param descNum (middle.heap.params param) message env =
              bufferListUses param descNum (dsp.heap.params param) message env := by
            rw [content, bufferListUses, bufferListUses]
            rfl
          rwa [same] at listed

-- One of the two updates touches the parameter block, and a block behind it.
theorem reaches_touched (asked fits : Prop) [Decidable asked] [Decidable fits] (block : Option Nat)
    (live : ∀ address, block = some address → ledger address ≠ none) :
    Reaches ledger (if asked then [] else .touch param :: if fits then block.toList.map .touch else []) dsp := by
  have same : Reaches ledger [] dsp := ⟨ledger, rfl, inv⟩
  by_cases wanted : asked
  · rw [if_pos wanted]
    exact same
  · rw [if_neg wanted]
    refine reaches_touch dsp ledger param (param_live dsp ledger inv pri param held) _ ?_
    by_cases fit : fits
    · rw [if_pos fit]
      cases block with
      | none => exact same
      | some address => exact reaches_touch dsp ledger address (live address rfl) [] same
    · rw [if_neg fit]
      exact same

theorem reaches_update : Reaches ledger (updateUses param (dsp.heap.params param) message) dsp :=
  reaches_then dsp dsp ledger _ _
    (reaches_touched dsp ledger inv pri param held _ _ _ fun address pointed =>
      settings_live dsp ledger inv pri param held address pointed)
    fun final last => reaches_touched dsp final last pri param held _ _ _ fun address pointed =>
      bufs_live dsp final last pri param held address pointed

end Commands

-- ALGO_LOAD does not fail once it has its parameter block: its failing exits
-- give the block back and leave the pointer to it in the task.
def LoadComplete (hw : Bool) (env : AlgoEnv) : Prop :=
  match env.paramBlock, env.load with
  | none, _ => True
  | some _, none => False
  | some _, some (_, descNum) => hw = true → descNum ≠ 0 → env.bufsBlock ≠ none

def KeepsMemory (state : AlgoMemory) : Command → Prop
  | .algoLoad id _ env =>
      match dspSearchTaskById state.dsp id with
      | none => True
      | some pri => LoadComplete (state.dsp.tasks pri).type.isHw env
  | _ => True

section Handlers

variable (dsp next : Dsp) (ledger : Nat → Option Nat) (inv : MemoryInv dsp ledger) (taskId pri : Nat)
  (found : dspSearchTaskById dsp taskId = some pri) (env : AlgoEnv) (reply : Reply)

include inv

-- A parameter block is taken and cleared, and then the library is loaded.
theorem reaches_loaded (heap full : Heap) (param : Nat) (given : malloc dsp.heap (some param) = some heap)
    (brought : loadLibrary heap env.library = some full) (uses : List (Use Nat))
    (rest : ∀ final, MemoryInv (takeParam dsp pri full param) final → Reaches final uses next) :
    Reaches ledger ([.take param algoParamSize, .touch param] ++ loaderUses env.library ++ uses) next := by
  refine reaches_then _ next ledger _ _ ?_ rest
  refine reaches_then (takeParam dsp pri heap param) _ ledger [.take param algoParamSize] _
    (reaches_take_param dsp ledger inv pri heap param given) fun final taken => ?_
  have entry : ((takeParam dsp pri heap param).tasks pri).algo.param = some param := by simp [takeParam, setParam]
  refine reaches_touch _ final param (param_live _ final taken pri param entry) _ (reaches_library _ _ final taken env ?_)
  rw [algo_load_take, brought]
  rfl

theorem reaches_described (heap full : Heap) (param : Nat) (algoId : Int) (process descNum : Nat)
    (given : malloc dsp.heap (some param) = some heap) (brought : loadLibrary heap env.library = some full) (uses : List (Use Nat))
    (rest : ∀ final, MemoryInv (describedTask dsp pri full param algoId process descNum) final → Reaches final uses next) :
    Reaches ledger ([.take param algoParamSize, .touch param] ++ loaderUses env.library ++ .touch param :: uses) next := by
  refine reaches_loaded dsp next ledger inv pri env heap full param given brought _ fun final taken => ?_
  have entry : ((takeParam dsp pri full param).tasks pri).algo.param = some param := by simp [takeParam, setParam]
  have named : MemoryInv (setAlgo (takeParam dsp pri full param) pri algoId (some process)) final :=
    memory_inv_entry _ final taken pri _ rfl rfl
  have described := memory_inv_desc _ final named pri param (by simp [setAlgo, entry]) descNum
  exact reaches_touch next final param (param_live _ final taken pri param entry) _ (rest final described)

include found

theorem reaches_algo_config (message : AlgoConfigPar) (done : dspTaskAlgoConfig dsp taskId message env = some (next, reply)) :
    Reaches ledger (algoConfigUses dsp pri message env) next := by
  rw [algoConfigUses]
  cases config_way dsp taskId pri found next reply message env done with
  | starved held asked same =>
      simp only [held, asked]
      exact ⟨ledger, rfl, same ▸ inv⟩
  | fresh heap full param held asked given brought loaded =>
      simp only [held, asked]
      refine reaches_loaded dsp next ledger inv pri env heap full param given brought _ fun final taken => ?_
      have entry : ((takeParam dsp pri full param).tasks pri).algo.param = some param := by simp [takeParam, setParam]
      have kind : ((takeParam dsp pri full param).tasks pri).type = (dsp.tasks pri).type := by simp [takeParam, setParam]
      have content : (takeParam dsp pri full param).heap.params param = zeroParam := write_param_same _ _ _
      have uses := reaches_load_config _ next final taken pri param entry message env reply loaded
      rwa [kind, content] at uses
  | updated param held update written =>
      simp only [held, if_pos update]
      obtain ⟨final, ran, touched⟩ := reaches_update dsp ledger inv pri param held message
      obtain ⟨settings, bufs, rfl⟩ := algo_update_same dsp next param message env reply written
      exact ⟨final, ran, memory_inv_content dsp _ final touched rfl rfl rfl⟩
  | again full param held other brought loaded =>
      simp only [held, if_neg other]
      obtain ⟨same, -, -⟩ := load_library_live dsp.heap full env.library brought
      refine reaches_then { dsp with heap := full } next ledger _ _ (reaches_library dsp _ ledger inv env (by rw [dspAlgoLoad, brought]; rfl))
        fun final taken => ?_
      have uses := reaches_load_config _ next final taken pri param held message env reply loaded
      rwa [show full.params = dsp.heap.params by rw [same]] at uses

theorem reaches_algo_load (algoId : Int) (complete : LoadComplete (dsp.tasks pri).type.isHw env)
    (done : csiDspTaskAlgoLoad dsp taskId algoId env = some (next, reply)) : Reaches ledger (algoLoadUses dsp pri env) next := by
  cases load_way dsp taskId pri found next reply algoId env done with
  | starved asked same answer =>
      simp only [algoLoadUses, asked]
      rw [same]
      exact reaches_drop dsp ledger inv pri [] (fun _ member => absurd member List.not_mem_nil) List.nodup_nil _ rfl
  | unloaded heap full param asked given brought missing same answer => simp [LoadComplete, asked, missing] at complete
  | plain heap full param process descNum asked given brought loaded few same answer =>
      have held : (next.tasks pri).algo.param = some param := by rw [same, described_entry]
      simp only [algoLoadUses, asked, loaded, if_pos few]
      refine reaches_described dsp next ledger inv pri env heap full param algoId process descNum given brought _ fun final described => ?_
      rw [← same] at described
      exact reaches_touch next final param (param_live next final described pri param held) [] ⟨final, rfl, described⟩
  | unlisted heap full grown param process descNum asked given brought loaded hardware many missing more same answer =>
      simp only [LoadComplete, asked, loaded] at complete
      exact absurd missing (complete hardware many)
  | listed heap full grown param process descNum bufs asked given brought loaded hardware many list more same answer =>
      have plenty : ¬ ((dsp.tasks pri).type.isHw = false ∨ descNum = 0) := by simp [hardware, many]
      have entry := described_entry dsp pri full param algoId process descNum
      have held := congrArg (fun task => task.algo.param) entry
      have kind : ((describedTask dsp pri full param algoId process descNum).tasks pri).type.isHw = true := by rw [entry, hardware]
      simp only [algoLoadUses, asked, loaded, if_neg plenty, list]
      refine reaches_described dsp next ledger inv pri env heap full param algoId process descNum given brought _ fun final described => ?_
      refine reaches_touch _ final param (param_live _ final described pri param held) _ ?_
      refine reaches_then _ _ final [.take bufs (descNum * dspBufferSize)] _
        (reaches_list _ final described pri param held kind grown (some bufs) descNum more) fun ended sound => ?_
      rw [same]
      exact reaches_touch _ ended param (param_live _ ended sound pri param held) [] ⟨ended, rfl, sound⟩

theorem reaches_task_free (done : psDestroyTask dsp taskId = (next, reply)) : Reaches ledger (taskFreeUses dsp pri) next := by
  have removed : MemoryInv (dspRemoveTaskFromScheduler dsp taskId) ledger := memory_inv_content dsp _ ledger inv rfl rfl rfl
  simp only [psDestroyTask, found, releaseTask, modify_modify] at done
  cases done
  rw [taskFreeUses, freeAlgoParam]
  cases held : (dsp.tasks pri).algo.param with
  | none =>
      have entry : ((dspRemoveTaskFromScheduler dsp taskId).tasks pri).algo.param = none := held
      rw [entry]
      exact reaches_drop _ ledger removed pri [] (fun _ member => absurd member List.not_mem_nil) List.nodup_nil _ rfl
  | some param =>
      have entry : ((dspRemoveTaskFromScheduler dsp taskId).tasks pri).algo.param = some param := held
      have own : ownBlocks (dspRemoveTaskFromScheduler dsp taskId) pri = param :: pointers (dsp.heap.params param) := by
        simp [ownBlocks, entry]
        rfl
      have sound := inv.blocks pri param held
      rw [entry]
      dsimp only
      cases hardware : (dsp.tasks pri).type.isHw with
      | false =>
          have kind : ((dspRemoveTaskFromScheduler dsp taskId).tasks pri).type.isHw = false := hardware
          rw [kind]
          refine reaches_drop _ ledger removed pri [some param] (fun address member => ?_) (List.nodup_singleton param) _ rfl
          rw [own]
          exact List.mem_cons.mpr (.inl (List.mem_singleton.mp member))
      | true =>
          have kind : ((dspRemoveTaskFromScheduler dsp taskId).tasks pri).type.isHw = true := hardware
          rw [kind]
          have blocks : [(dsp.heap.params param).bufferStructPtr, (dsp.heap.params param).setBufPtr, some param].filterMap id =
              pointers (dsp.heap.params param) ++ [param] := by
            rw [pointers]
            cases (dsp.heap.params param).bufferStructPtr <;> cases (dsp.heap.params param).setBufPtr <;> simp
          refine reaches_touch _ ledger param (param_live dsp ledger inv pri param held) _ ?_
          rw [← blocks]
          refine reaches_drop _ ledger removed pri [(dsp.heap.params param).bufferStructPtr,
            (dsp.heap.params param).setBufPtr, some param]
            (fun address member => ?_) ?_ _ rfl
          · rw [blocks, List.mem_append] at member
            rw [own]
            exact List.mem_cons.mpr (member.symm.imp List.mem_singleton.mp fun pointer => pointer)
          · rw [blocks]
            exact (List.perm_append_singleton _ _).nodup_iff.mpr sound.distinct

end Handlers

section Steps

variable (dsp next : Dsp) (ledger : Nat → Option Nat) (names : NamesFaithful dsp) (inv : MemoryInv dsp ledger)

theorem memory_inv_placed (pri : Nat) (mode : TaskMode) (place count : Nat) (inv : MemoryInv dsp ledger) :
    MemoryInv (placeTask dsp pri (allocatedTask mode (dsp.tasks pri)) place count) ledger := by
  obtain ⟨final, ran, held⟩ := reaches_drop dsp ledger inv pri [] (fun _ member => absurd member List.not_mem_nil) List.nodup_nil
    (fun _ => allocatedTask mode (dsp.tasks pri)) rfl
  cases ran
  exact memory_inv_content (modifyTask dsp pri fun _ => allocatedTask mode (dsp.tasks pri)) _ ledger held rfl rfl rfl

include names inv

theorem reaches_command (command : Command) (reply : Reply) (algo : command.isAlgo = true)
    (keeps : KeepsMemory ⟨dsp, some ledger⟩ command) (done : psCommonCommand dsp command = some (next, reply)) :
    Reaches ledger (commandUses dsp command) next := by
  have unknown (id : Nat) (asked : command.id = some id) (missing : dspSearchTaskById dsp id = none) : Reaches ledger [] next := by
    rw [unknown_task dsp next command id reply asked missing done]
    exact ⟨ledger, rfl, inv⟩
  cases command with
  | taskStart | taskStop | feConfig | beConfig | reportConfig | beAssginBuf => cases algo
  | taskAlloc mode registered =>
      cases create_outcome dsp next names mode registered reply (Option.some.inj done).symm with
      | refused failed same reason => exact ⟨ledger, rfl, same ▸ inv⟩
      | created kind pri place count asked inTable free sameClass known empty below grown bounded answered same =>
          exact ⟨ledger, rfl, same ▸ memory_inv_placed dsp ledger pri kind place count inv⟩
  | taskFree id =>
      rw [commandUses]
      cases found : dspSearchTaskById dsp id with
      | none => exact unknown id rfl found
      | some pri => exact reaches_task_free dsp next ledger inv id pri found reply (Option.some.inj done)
  | algoConfig id message env =>
      rw [commandUses]
      cases found : dspSearchTaskById dsp id with
      | none => exact unknown id rfl found
      | some pri => exact reaches_algo_config dsp next ledger inv id pri found env reply message done
  | algoLoad id algoId env =>
      rw [commandUses]
      cases found : dspSearchTaskById dsp id with
      | none => exact unknown id rfl found
      | some pri =>
          simp only [KeepsMemory, found] at keeps
          exact reaches_algo_load dsp next ledger inv id pri found env reply algoId keeps done

end Steps

def AlgoMemoryInv (state : AlgoMemory) : Prop :=
  NamesFaithful state.dsp ∧ ∃ ledger, state.ledger = some ledger ∧ MemoryInv state.dsp ledger

theorem algo_memory_step (state next : AlgoMemory) (command : Command) (inv : AlgoMemoryInv state)
    (keeps : KeepsMemory state command) (taken : algoMemoryStep state command = some next) : AlgoMemoryInv next := by
  obtain ⟨dsp, ledger⟩ := state
  obtain ⟨names, ledger, rfl, memory⟩ := inv
  rw [algoMemoryStep] at taken
  split at taken
  · rename_i algo
    obtain ⟨⟨result, reply⟩, done, rfl⟩ := Option.map_eq_some_iff.mp taken
    obtain ⟨final, ran, held⟩ := reaches_command dsp result ledger names memory command reply algo keeps done
    exact ⟨names_step dsp result command names (by rw [statusStep, done]; rfl), final, ran, held⟩
  · cases taken

theorem init_algo_memory (cmd : XrpDspCmd) (payload : ReportItem) : AlgoMemoryInv (initAlgoMemory cmd payload) := by
  have none_held : ∀ pri, ((initDsp cmd payload).tasks pri).algo.param = none := by
    intro pri
    simp only [initDsp, tableEntry]
    split
    · rfl
    · split <;> rfl
  refine ⟨init_names cmd payload, _, rfl, fun block => ?_, fun pri block member => ?_, fun pri param held => ?_⟩
  · simp [initAlgoMemory, initDsp]
  · simp [initAlgoMemory, ownBlocks, none_held] at member
  · rw [initAlgoMemory, none_held] at held
    cases held

-- The heap has been used correctly so far, and what the tasks name is theirs.
structure AlgoMemorySound (state : AlgoMemory) (ledger : Nat → Option Nat) : Prop where
  account : state.ledger = some ledger
  blocks : ∀ pri param, (state.dsp.tasks pri).algo.param = some param →
    TaskBlocks ledger state.dsp.heap.params (state.dsp.tasks pri) param
  alone : ∀ pri block, block ∈ ownBlocks state.dsp pri → ∀ other, other ≠ pri → block ∉ ownBlocks state.dsp other

theorem algo_memory_sound (cmd : XrpDspCmd) (payload : ReportItem) (finish : AlgoMemory) (commands : List Command)
    (keeps : Runs.Guarded algoMemoryStep KeepsMemory (initAlgoMemory cmd payload) commands)
    (ran : Runs.run algoMemoryStep (initAlgoMemory cmd payload) commands = some finish) :
    ∃ ledger, AlgoMemorySound finish ledger := by
  obtain ⟨-, ledger, account, inv⟩ := Runs.guarded_run_invariant algoMemoryStep KeepsMemory AlgoMemoryInv
    (fun state command next held guard taken => algo_memory_step state next command held guard taken) _ finish commands
    (init_algo_memory cmd payload) keeps ran
  exact ⟨ledger, account, inv.blocks, fun pri block member => (inv.owned pri block member).2⟩

-- Any other ALGO_LOAD leaves the task with a parameter block it has given back.
theorem incomplete_load_dangles (dsp next : Dsp) (ledger final : Nat → Option Nat) (taskId pri : Nat)
    (found : dspSearchTaskById dsp taskId = some pri) (algoId : Int) (env : AlgoEnv) (reply : Reply)
    (incomplete : ¬ LoadComplete (dsp.tasks pri).type.isHw env)
    (done : csiDspTaskAlgoLoad dsp taskId algoId env = some (next, reply))
    (ran : Runs.run use ledger (algoLoadUses dsp pri env) = some final) : ¬ AlgoMemorySound ⟨next, some final⟩ final := by
  have dangling (param : Nat) (held : (next.tasks pri).algo.param = some param) (freed : final param = none) :
      ¬ AlgoMemorySound ⟨next, some final⟩ final := by
    intro sound
    have size := (sound.blocks pri param held).size
    rw [freed] at size
    cases size
  cases load_way dsp taskId pri found next reply algoId env done with
  | starved asked same answer => exact absurd (by simp [LoadComplete, asked]) incomplete
  | unloaded heap full param asked given brought missing same answer =>
      refine dangling param (by simp [same, freeInDsp, setAlgo, takeParam, setParam]) ?_
      have last : algoLoadUses dsp pri env =
          ([.take param algoParamSize, .touch param] ++ loaderUses env.library ++ [.touch param]) ++ gives [param] := by
        simp [algoLoadUses, asked, missing]
      exact given_last ledger _ param final (last ▸ ran)
  | plain heap full param process descNum asked given brought loaded few same answer =>
      refine absurd ?_ incomplete
      simp only [LoadComplete, asked, loaded]
      intro hardware some_bufs
      rcases few with software | zero
      · exact absurd (software.symm.trans hardware) (by decide)
      · exact absurd zero some_bufs
  | unlisted heap full grown param process descNum asked given brought loaded hardware many missing more same answer =>
      have held := congrArg (fun task => task.algo.param) (described_entry dsp pri full param algoId process descNum)
      refine dangling param (by rw [same]; exact held) ?_
      have last : algoLoadUses dsp pri env =
          ([.take param algoParamSize, .touch param] ++ loaderUses env.library ++ [.touch param, .touch param]) ++ gives [param] := by
        simp [algoLoadUses, asked, loaded, hardware, many, missing]
      exact given_last ledger _ param final (last ▸ ran)
  | listed heap full grown param process descNum bufs asked given brought loaded hardware many list more same answer =>
      exact absurd (by simp [LoadComplete, asked, loaded, list]) incomplete

instance (hw : Bool) (env : AlgoEnv) : Decidable (LoadComplete hw env) :=
  match env with
  | ⟨none, _, _, _, _, _⟩ => .isTrue trivial
  | ⟨some _, library, bufs, _, _, _⟩ =>
      match answer : library.answer with
      | none => .isFalse (by simp [LoadComplete, AlgoEnv.load, answer])
      | some (_, descNum) =>
          decidable_of_iff (hw = true → descNum ≠ 0 → bufs ≠ none) (by simp [LoadComplete, AlgoEnv.load, answer])

instance (state : AlgoMemory) (command : Command) : Decidable (KeepsMemory state command) :=
  match command with
  | .algoLoad id _ env =>
      match found : dspSearchTaskById state.dsp id with
      | none => .isTrue (by simp only [KeepsMemory, found])
      | some pri => decidable_of_iff (LoadComplete (state.dsp.tasks pri).type.isHw env) (by simp only [KeepsMemory, found])
  | .taskAlloc _ _ | .taskFree _ | .taskStart _ | .taskStop _ | .feConfig _ _ | .beConfig _ _ | .algoConfig _ _ _
  | .reportConfig _ _ _ | .beAssginBuf _ _ => .isTrue trivial

-- A task is loaded twice, configured anew, given back and allocated again.
def reloadedTask : List Command :=
  [.taskAlloc (some .hwToHw) true, .algoLoad 2 5 (blocksEnv 200 (7, 2) (some 300)),
    .algoConfig 2 ⟨6, 0, 0x4000, 64, 0, 0⟩ { blocksEnv 500 (8, 3) (some 301) with setBlock := some 400 }, .taskFree 2,
    .taskAlloc (some .hwToSw) true, .algoConfig 2 ⟨6, 0, 0x4000, 64, 0, 0⟩ { blocksEnv 200 (7, 2) none with library := .overlay none }]

theorem algo_memory_sound_reloaded : ∃ ledger, AlgoMemorySound
    ((Runs.run algoMemoryStep (initAlgoMemory anyCmd anyReport) reloadedTask).get (by decide)) ledger :=
  algo_memory_sound anyCmd anyReport _ reloadedTask (by decide) (Option.some_get _).symm

theorem failed_load_freed_twice : ¬ ∀ cmd payload finish commands,
    Runs.run algoMemoryStep (initAlgoMemory cmd payload) commands = some finish → ∃ ledger, AlgoMemorySound finish ledger := by
  intro claim
  let commands : List Command := [.taskAlloc (some .hwToHw) true, .algoLoad 2 5 { blocksEnv 200 (7, 2) none with library := .overlay none },
    .taskFree 2]
  obtain ⟨ledger, sound⟩ := claim anyCmd anyReport
    ((Runs.run algoMemoryStep (initAlgoMemory anyCmd anyReport) commands).get (by decide)) commands (Option.some_get _).symm
  have lost : ((Runs.run algoMemoryStep (initAlgoMemory anyCmd anyReport) commands).get (by decide)).ledger.isNone = true := by decide
  rw [sound.account] at lost
  cases lost

end CsiDsp
