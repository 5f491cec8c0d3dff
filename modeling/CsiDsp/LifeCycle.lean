import CsiDsp.Base.Transcript
import CsiDsp.AlgoMemory
import CsiDsp.FailedCommands
import CsiDsp.SwTask

set_option autoImplicit false

namespace CsiDsp

open CInt

-- A task from its TASK_ALLOC to its TASK_FREE, with the commands the host sends
-- for it in between. memory is what realloc returns for the map of namespaces.
structure LifeCycle where
  mode : Option TaskMode
  memory : Option (Nat → XrpCmdNs)
  id : Nat
  commands : List Command
  own : ∀ command ∈ commands, command.id = some id ∧ command ≠ .taskFree id

abbrev HostEvent := Command × Option (Nat → XrpCmdNs)

def LifeCycle.alloc (life : LifeCycle) : HostEvent := (.taskAlloc life.mode true, life.memory)

def LifeCycle.work (life : LifeCycle) : List HostEvent := life.commands.map fun command => (command, none)

def LifeCycle.free (life : LifeCycle) : HostEvent := (.taskFree life.id, none)

def LifeCycle.events (life : LifeCycle) : List HostEvent := life.alloc :: (life.work ++ [life.free])

def lifeStep (state : NsDsp) (event : HostEvent) : Option (NsDsp × Reply) := nsCommand state event.2 event.1

def allocEntry (dsp : Dsp) (mode : Option TaskMode) : Option Nat :=
  mode.bind fun kind => if kind.isSw then getFreeSwTask dsp else getFreeHwTask dsp

-- Nothing that interrupts go through leads to the entry.
structure Forgotten (dsp : Dsp) (pri : Nat) : Prop where
  asleep : isReady dsp.ready pri = false
  vectors : ∀ irq, vectorLink (dsp.vectors irq) ≠ .node pri
  links : ∀ other < psMaxTaskType, taskLink dsp other ≠ .node pri

structure SameResources (pri : Nat) (before after : NsDsp) : Prop where
  slots : after.dsp.taskHandler = before.dsp.taskHandler
  entries : ∀ other, (after.dsp.tasks other).status = .free ↔ (before.dsp.tasks other).status = .free
  namespaces : ∀ entry, after.nsMap.Registered entry ↔ before.nsMap.Registered entry
  rings : ∀ ring, (after.dsp.swBe ring).status = bufStatusFree ↔ (before.dsp.swBe ring).status = bufStatusFree
  blocks : after.dsp.heap.live = before.dsp.heap.live
  forgotten : Forgotten after.dsp pri

def FeConfig.Rejected : FeConfig → Prop
  | .cpu | .illegal => True
  | .isp config => maxIsp < config.id.toNat ∨ GeometryRejected config
  | .vipre config => VipreRejected config

def AddsNone (ring : SwBeHandler) (config : SwBeConfigPar) : Prop :=
  ring.bufNum < i32 (ring.validBufNum + config.numBuf) ∨ i8 (ring.validBufNum + config.numBuf) = ring.validBufNum

-- ALGO_CONFIG only updates, or its library takes no blocks and it finds none
-- behind the parameter block that it would put others in the place of.
def ConfigKeepsBlocks (dsp : Dsp) (pri : Nat) (message : AlgoConfigPar) (env : AlgoEnv) : Prop :=
  match (dsp.tasks pri).algo.param with
  | none => env.paramBlock = none ∨ env.library.blocks = []
  | some param => ((dsp.tasks pri).algo.algoProcess ≠ none ∧ message.algoPtr = 0 ∧ message.algoId = -1) ∨
      env.library.blocks = [] ∧ (pointers (dsp.heap.params param) = [] ∨ env.load.map Prod.snd = some 0)

-- So does ALGO_LOAD, which always takes a parameter block.
def LoadKeepsBlocks (task : DspTask) (env : AlgoEnv) : Prop :=
  task.algo.param = none ∧ LoadComplete task.type.isHw env ∧ (env.paramBlock = none ∨ env.library.blocks = [])

-- A command that does not take what TASK_FREE will not give back, in the order
-- of the cases: a line still bound to the task, a line that other tasks share, a
-- line left for another one, a back end, blocks, and buffers of a back end that
-- is not the task's.
def KeepsResources (dsp : Dsp) (pri : Nat) : Command → Prop
  | .taskFree _ => vectorLink (dsp.vectors (dsp.tasks pri).irqNum) ≠ .node pri
  | .taskStart _ => (dsp.tasks pri).status = .ready →
      (dsp.vectors (dsp.tasks pri).irqNum).handler ≠ .trigger ∧ (dsp.vectors (dsp.tasks pri).irqNum).handler ≠ .null
  | .feConfig _ message => vectorLink (dsp.vectors (dsp.tasks pri).irqNum) = .node pri →
      message.line = some (dsp.tasks pri).irqNum ∨ message.Rejected
  | .beConfig _ (.host _ bufs) => freeSwBeId dsp.swBe = none ∨ bufs = none
  | .algoConfig _ message env => ConfigKeepsBlocks dsp pri message env
  | .algoLoad _ _ env => LoadKeepsBlocks (dsp.tasks pri) env
  | .beAssginBuf _ config => AddsNone (dsp.swBe (dsp.tasks pri).be.id) config
  | _ => True

def GivesBack (state : NsDsp) (event : HostEvent) : Prop :=
  match event.1 with
  | .taskAlloc mode _ => ∀ pri, allocEntry state.dsp mode = some pri → Forgotten state.dsp pri
  | command => ∀ pri, command.target state.dsp = some pri → KeepsResources state.dsp pri command

-- The blocks in use are the ones that were before, and the task's own.
structure OwnsExactly (base : Nat → Bool) (dsp : Dsp) (pri : Nat) : Prop where
  live : ∀ block, dsp.heap.live block = true ↔ base block = true ∨ block ∈ ownBlocks dsp pri
  fresh : ∀ block ∈ ownBlocks dsp pri, base block = false
  plain : (dsp.tasks pri).type.isHw = false → ∀ param, (dsp.tasks pri).algo.param = some param → pointers (dsp.heap.params param) = []

section Owns

variable (base : Nat → Bool) (dsp next : Dsp) (pri : Nat)

theorem owns_same (owns : OwnsExactly base dsp pri) (param : (next.tasks pri).algo.param = (dsp.tasks pri).algo.param)
    (kind : (next.tasks pri).type = (dsp.tasks pri).type) (live : next.heap.live = dsp.heap.live)
    (params : next.heap.params = dsp.heap.params) : OwnsExactly base next pri := by
  have own : ownBlocks next pri = ownBlocks dsp pri := by
    simp only [ownBlocks]
    rw [param, params]
  refine ⟨?_, ?_, ?_⟩
  · rw [own, live]
    exact owns.live
  · rw [own]
    exact owns.fresh
  · rw [param, kind, params]
    exact owns.plain

theorem owns_entry (change : DspTask → DspTask) (owns : OwnsExactly base dsp pri)
    (param : (change (dsp.tasks pri)).algo.param = (dsp.tasks pri).algo.param)
    (kind : (change (dsp.tasks pri)).type = (dsp.tasks pri).type) : OwnsExactly base (modifyTask dsp pri change) pri :=
  owns_same base dsp _ pri owns (by rw [modify_task_same, param]) (by rw [modify_task_same, kind]) rfl rfl

theorem owns_take_param (owns : OwnsExactly base dsp pri) (empty : (dsp.tasks pri).algo.param = none) (heap : Heap) (param : Nat)
    (given : malloc dsp.heap (some param) = some heap) : OwnsExactly base (takeParam dsp pri heap param) pri := by
  obtain ⟨-, live, free⟩ := malloc_live _ _ _ given
  have nothing : ownBlocks dsp pri = [] := by simp [ownBlocks, empty]
  have content : (takeParam dsp pri heap param).heap.params param = zeroParam := write_param_same _ _ _
  have entry : ((takeParam dsp pri heap param).tasks pri).algo.param = some param := by simp [takeParam, setParam]
  have own : ownBlocks (takeParam dsp pri heap param) pri = [param] := by
    simp only [ownBlocks, entry, content]
    rfl
  have before : ∀ block, dsp.heap.live block = true ↔ base block = true := by
    intro block
    rw [owns.live block, nothing]
    simp
  refine ⟨fun block => ?_, fun block member => ?_, fun _ held same => ?_⟩
  · have grown : (takeParam dsp pri heap param).heap.live block = heap.live block := rfl
    rw [grown, live, before, own, List.mem_singleton, Option.some.injEq]
    exact or_congr_right eq_comm
  · rw [own, List.mem_singleton] at member
    rw [member, Bool.eq_false_iff]
    intro held
    have alive := (before param).mpr held
    rw [free param rfl] at alive
    cases alive
  · rw [entry] at same
    cases same
    rw [content]
    rfl

-- A fresh block has been put behind the parameter block.
theorem owns_write (owns : OwnsExactly base dsp pri) (param : Nat) (held : (dsp.tasks pri).algo.param = some param) (heap : Heap)
    (block : Option Nat) (given : malloc dsp.heap block = some heap) (change : AlgoParam → AlgoParam)
    (behind : ∀ address, address ∈ pointers (change (dsp.heap.params param)) ↔
      address ∈ pointers (dsp.heap.params param) ∨ block = some address)
    (plain : (dsp.tasks pri).type.isHw = false → block = none) :
    OwnsExactly base (writeParam { dsp with heap := heap } param change) pri := by
  obtain ⟨params, live, free⟩ := malloc_live _ _ _ given
  have own : ∀ address, address ∈ ownBlocks (writeParam { dsp with heap := heap } param change) pri ↔
      address ∈ ownBlocks dsp pri ∨ block = some address := by
    intro address
    simp [ownBlocks, writeParam, held, params, behind, or_assoc]
  refine ⟨fun address => ?_, fun address member => ?_, fun software other same => ?_⟩
  · rw [own, ← or_assoc, ← owns.live]
    exact live address
  · rcases (own address).mp member with before | fresh
    · exact owns.fresh address before
    · rw [Bool.eq_false_iff]
      intro inBase
      have alive := (owns.live address).mpr (.inl inBase)
      rw [free address fresh] at alive
      cases alive
  · have entry : (dsp.tasks pri).algo.param = some other := same
    rw [held] at entry
    cases entry
    have empty := owns.plain software param held
    have content : (writeParam { dsp with heap := heap } param change).heap.params param = change (dsp.heap.params param) := by
      rw [write_param_same, params]
    rw [content, List.eq_nil_iff_forall_not_mem]
    intro address member
    rcases (behind address).mp member with before | fresh
    · rw [empty] at before
      cases before
    · rw [plain software] at fresh
      cases fresh

theorem owns_free (owns : OwnsExactly base dsp pri) (blocks : List (Option Nat))
    (all : ∀ address, address ∈ blocks.filterMap id ↔ address ∈ ownBlocks dsp pri) (block : Nat) :
    (blocks.foldl freeInDsp dsp).heap.live block = true ↔ base block = true := by
  rw [free_in_live_iff, owns.live, all]
  constructor
  · rintro ⟨outside, inBase | own⟩
    · exact inBase
    · exact absurd own outside
  · intro inBase
    refine ⟨fun own => ?_, .inl inBase⟩
    rw [owns.fresh block own] at inBase
    cases inBase

-- The parameter block and all behind it have been given back.
theorem owns_drop (owns : OwnsExactly base dsp pri) (param : Nat) (held : (dsp.tasks pri).algo.param = some param)
    (blocks : List (Option Nat)) (all : ∀ address, address ∈ blocks.filterMap id ↔ address ∈ pointers (dsp.heap.params param)) :
    OwnsExactly base (dropParam dsp pri param blocks) pri := by
  have listed : ∀ address, address ∈ (blocks ++ [some param]).filterMap id ↔ address ∈ ownBlocks dsp pri := by
    intro address
    simp [ownBlocks, held, ← all, or_comm]
  have given := owns_free base dsp pri owns _ listed
  have empty : ((dropParam dsp pri param blocks).tasks pri).algo.param = none := by
    rw [drop_param_eq, modify_task_same]
  have own : ownBlocks (dropParam dsp pri param blocks) pri = [] := by simp only [ownBlocks, empty]
  refine ⟨fun block => ?_, fun block member => ?_, fun _ other same => ?_⟩
  · have live : (dropParam dsp pri param blocks).heap.live block = ((blocks ++ [some param]).foldl freeInDsp dsp).heap.live block := by
      rw [drop_param_eq]
      rfl
    rw [live, given, own]
    simp
  · rw [own] at member
    cases member
  · rw [empty] at same
    cases same

end Owns

section Algo

variable (base : Nat → Bool) (dsp next : Dsp) (pri param : Nat) (owns : OwnsExactly base dsp pri)
  (held : (dsp.tasks pri).algo.param = some param) (message : AlgoConfigPar) (env : AlgoEnv) (reply : Reply)

include owns held

theorem owns_settings (hardware : (dsp.tasks pri).type.isHw = true) (noSettings : (dsp.heap.params param).setBufPtr = none)
    (took : Bool) (done : takeSettings dsp pri param message env = some (next, took)) : OwnsExactly base next pri ∧
      (took = true → (next.tasks pri).algo.param = some param) := by
  unfold takeSettings at done
  split at done
  · obtain ⟨heap, given, done⟩ := Option.bind_eq_some_iff.mp done
    have stored := owns_write base dsp pri owns param held heap env.setBlock given
      (fun block => { block with setBufSize := message.settLength, setBufPtr := env.setBlock })
      (fun address => by simp [pointers, noSettings]) fun software => absurd (software.symm.trans hardware) (by decide)
    have content := write_param_same { dsp with heap := heap } param
      fun block => { block with setBufSize := message.settLength, setBufPtr := env.setBlock }
    have tasks := write_param_tasks { dsp with heap := heap } param
      fun block => { block with setBufSize := message.settLength, setBufPtr := env.setBlock }
    generalize (writeParam { dsp with heap := heap } param
      fun block => { block with setBufSize := message.settLength, setBufPtr := env.setBlock }) = stocked at done stored content tasks
    have stockedHeld : (stocked.tasks pri).algo.param = some param := by rw [tasks, held]
    cases block : env.setBlock with
    | none =>
        rw [block] at done content
        cases done
        refine ⟨owns_drop base stocked pri stored param stockedHeld _ fun address => ?_, fun took => absurd took (by decide)⟩
        have none_ : (stocked.heap.params param).setBufPtr = none := by rw [content]
        simp [pointers, none_, eq_comm]
    | some address =>
        rw [block] at done
        cases done
        exact ⟨owns_same base stocked _ pri stored rfl rfl rfl rfl, fun _ => stockedHeld⟩
  · cases done
    exact ⟨owns, fun _ => held⟩

theorem owns_buffer_list (hardware : (dsp.tasks pri).type.isHw = true) (bare : pointers (dsp.heap.params param) = []) (descNum : Nat)
    (done : takeBufferList dsp pri param message env descNum = some (next, reply)) : OwnsExactly base next pri := by
  have nothing : (dsp.heap.params param).bufferStructPtr = none ∧ (dsp.heap.params param).setBufPtr = none := by
    simpa [pointers] using bare
  obtain ⟨heap, given, done⟩ := Option.bind_eq_some_iff.mp done
  have listed := owns_write base dsp pri owns param held heap env.bufsBlock given
    (fun block => { block with bufferNum := descNum, bufferStructPtr := env.bufsBlock })
    (fun address => by simp [pointers, nothing.1, nothing.2]) fun software => absurd (software.symm.trans hardware) (by decide)
  have content := write_param_same { dsp with heap := heap } param
    fun block => { block with bufferNum := descNum, bufferStructPtr := env.bufsBlock }
  have tasks := write_param_tasks { dsp with heap := heap } param
    fun block => { block with bufferNum := descNum, bufferStructPtr := env.bufsBlock }
  rw [show ({ dsp with heap := heap } : Dsp).heap.params = dsp.heap.params from (malloc_live _ _ _ given).1] at content
  generalize (writeParam { dsp with heap := heap } param
    fun block => { block with bufferNum := descNum, bufferStructPtr := env.bufsBlock }) = list at done listed content tasks
  have listHeld : (list.tasks pri).algo.param = some param := by rw [tasks]; exact held
  cases block : env.bufsBlock with
  | none =>
      rw [block] at done content
      cases done
      refine owns_drop base list pri listed param listHeld [] fun address => ?_
      simp [pointers, content, nothing.2]
  | some address =>
      rw [block] at done
      obtain ⟨⟨settled, took⟩, settings, done⟩ := Option.bind_eq_some_iff.mp done
      have cleared := owns_same base list (writeBufs list address fun slot =>
        if slot < descNum then zeroAlgoBuffer else list.heap.bufs address slot) pri listed rfl rfl rfl rfl
      have kept := (owns_settings base _ settled pri param cleared listHeld message env (by rw [← hardware, ← tasks]; rfl)
        ((congrArg AlgoParam.setBufPtr content).trans nothing.2) took settings).1
      cases took with
      | false =>
          cases done
          exact kept
      | true =>
          simp only [Bool.true_eq_false, if_false] at done
          split at done
          · cases done
          · cases done
            obtain ⟨written, filled⟩ := take_buffers_same settled param message env.bufs
            rw [filled]
            exact owns_entry base _ pri _ (owns_same base settled _ pri kept rfl rfl rfl rfl) rfl rfl

theorem owns_load_config (bare : pointers (dsp.heap.params param) = [] ∨ env.load.map Prod.snd = some 0)
    (done : dspTaskAlgoLoadConfig dsp pri param message env = some (next, reply)) : OwnsExactly base next pri := by
  unfold dspTaskAlgoLoadConfig at done
  cases loaded : env.load with
  | none =>
      simp only [loaded] at done
      cases done
      rw [loaded] at bare
      have empty := bare.resolve_right (by simp)
      have named : OwnsExactly base (setAlgo dsp pri message.algoId none) pri := owns_entry base dsp pri _ owns rfl rfl
      refine owns_drop base _ pri named param (by simp [setAlgo, held]) [] fun address => ?_
      have content : (setAlgo dsp pri message.algoId none).heap.params param = dsp.heap.params param := rfl
      simp [content, empty]
  | some result =>
      obtain ⟨process, descNum⟩ := result
      simp only [loaded] at done
      have named : OwnsExactly base (setAlgo dsp pri message.algoId (some process)) pri := owns_entry base dsp pri _ owns rfl rfl
      have entry : ((setAlgo dsp pri message.algoId (some process)).tasks pri).algo.param = some param := by simp [setAlgo, held]
      have described := owns_write base _ pri named param entry dsp.heap none rfl (fun block => { block with bufDescNum := descNum })
        (fun address => by simp [pointers]) fun _ => rfl
      have content := write_param_same (setAlgo dsp pri message.algoId (some process)) param
        fun block => { block with bufDescNum := descNum }
      have tasks := write_param_tasks (setAlgo dsp pri message.algoId (some process)) param
        fun block => { block with bufDescNum := descNum }
      change OwnsExactly base (writeParam (setAlgo dsp pri message.algoId (some process)) param fun block =>
        { block with bufDescNum := descNum }) pri at described
      generalize (writeParam (setAlgo dsp pri message.algoId (some process)) param fun block => { block with bufDescNum := descNum }) =
        middle at done described content tasks
      have middleHeld : (middle.tasks pri).algo.param = some param := by rw [tasks, entry]
      split at done
      · cases done
        exact owns_entry base middle pri _ described rfl rfl
      · rename_i hardware
        split at done
        · cases done
          exact described
        · rename_i some_bufs
          have empty : pointers (middle.heap.params param) = [] := by
            rw [content]
            refine bare.resolve_right fun zero => some_bufs ?_
            simpa [loaded] using zero
          exact owns_buffer_list base middle next pri param described middleHeld message env reply (by simpa using hardware) empty
            descNum done

end Algo

structure SameRing (ring other : SwBeHandler) : Prop where
  bufNum : other.bufNum = ring.bufNum
  headId : other.headId = ring.headId
  valid : other.validBufNum = ring.validBufNum
  free : other.status = bufStatusFree ↔ ring.status = bufStatusFree

-- At most the vector of its own line triggers the task, and TASK_STOP puts a
-- driver's handler back there.
structure BoundOnce (dsp : Dsp) (pri : Nat) : Prop where
  named : ∀ irq, vectorLink (dsp.vectors irq) = .node pri → irq = (dsp.tasks pri).irqNum
  restores : Running dsp pri → (dsp.tasks pri).intrHandler ≠ .trigger
  unlinked : taskLink dsp pri ≠ .node pri

-- What a command leaves alone that is sent between TASK_ALLOC and TASK_FREE.
structure LifeStep (pri : Nat) (dsp next : Dsp) : Prop where
  ready : next.ready = dsp.ready
  cmd : next.cmd = dsp.cmd
  rings : ∀ ring, SameRing (dsp.swBe ring) (next.swBe ring)
  backEnd : (next.tasks pri).be.id = (dsp.tasks pri).be.id
  bound : BoundOnce dsp pri → BoundOnce next pri
  owns : ∀ base, OwnsExactly base dsp pri → OwnsExactly base next pri

section Life

variable (pri : Nat) (dsp middle next : Dsp)

theorem ring_same (ring : SwBeHandler) : SameRing ring ring := ⟨rfl, rfl, rfl, .rfl⟩

theorem ring_trans (first second third : SwBeHandler) (one : SameRing first second) (two : SameRing second third) :
    SameRing first third :=
  ⟨two.bufNum.trans one.bufNum, two.headId.trans one.headId, two.valid.trans one.valid, two.free.trans one.free⟩

theorem life_trans (first : LifeStep pri dsp middle) (second : LifeStep pri middle next) : LifeStep pri dsp next :=
  ⟨second.ready.trans first.ready, second.cmd.trans first.cmd, fun ring => ring_trans _ _ _ (first.rings ring) (second.rings ring),
    second.backEnd.trans first.backEnd, fun bound => second.bound (first.bound bound),
    fun base owns => second.owns base (first.owns base owns)⟩

theorem bound_same (bound : BoundOnce dsp pri) (vectors : next.vectors = dsp.vectors)
    (irqNum : (next.tasks pri).irqNum = (dsp.tasks pri).irqNum)
    (vector : taskVector (next.tasks pri) = taskVector (dsp.tasks pri)) (running : Running next pri → Running dsp pri) :
    BoundOnce next pri := by
  have handler : (next.tasks pri).intrHandler = (dsp.tasks pri).intrHandler := congrArg Vector.handler vector
  refine ⟨?_, fun runs => ?_, ?_⟩
  · rw [vectors, irqNum]
    exact bound.named
  · rw [handler]
    exact bound.restores (running runs)
  · rw [taskLink, vector]
    exact bound.unlinked

theorem life_same (ready : next.ready = dsp.ready) (cmd : next.cmd = dsp.cmd) (rings : next.swBe = dsp.swBe)
    (tasks : next.tasks = dsp.tasks) (vectors : next.vectors = dsp.vectors) (heap : next.heap = dsp.heap) : LifeStep pri dsp next :=
  ⟨ready, cmd, fun ring => by rw [rings]; exact ring_same _, by rw [tasks],
    fun bound => bound_same pri dsp next bound vectors (by rw [tasks]) (by rw [tasks]) (by rw [Running, tasks]; exact id),
    fun base owns => owns_same base dsp next pri owns (by rw [tasks]) (by rw [tasks]) (by rw [heap]) (by rw [heap])⟩

theorem life_modify (change : DspTask → DspTask) (backEnd : (change (dsp.tasks pri)).be.id = (dsp.tasks pri).be.id)
    (irqNum : (change (dsp.tasks pri)).irqNum = (dsp.tasks pri).irqNum)
    (vector : taskVector (change (dsp.tasks pri)) = taskVector (dsp.tasks pri))
    (running : (change (dsp.tasks pri)).status = .runing → (dsp.tasks pri).status = .runing)
    (param : (change (dsp.tasks pri)).algo.param = (dsp.tasks pri).algo.param)
    (kind : (change (dsp.tasks pri)).type = (dsp.tasks pri).type) : LifeStep pri dsp (modifyTask dsp pri change) :=
  ⟨rfl, rfl, fun _ => ring_same _, by rw [modify_task_same, backEnd],
    fun bound => bound_same pri dsp _ bound rfl (by rw [modify_task_same, irqNum]) (by rw [modify_task_same, vector])
      (by rw [Running, modify_task_same]; exact running),
    fun base owns => owns_entry base dsp pri change owns param kind⟩

theorem life_update : LifeStep pri dsp (updateTaskStatus dsp pri) :=
  life_modify pri dsp _ rfl rfl rfl (updated_status_runing _).mp rfl rfl

theorem life_algo (work : AlgoEnd pri dsp next) (owns : ∀ base, OwnsExactly base dsp pri → OwnsExactly base next pri) :
    LifeStep pri dsp next := by
  have changed (last : Dsp) (before : AlgoWork pri dsp last) : last.ready = dsp.ready ∧ last.cmd = dsp.cmd ∧ last.swBe = dsp.swBe ∧
      last.vectors = dsp.vectors ∧ ∃ algo, last.tasks pri = { dsp.tasks pri with algo := algo } := by
    obtain ⟨algo, heap, rfl⟩ := before
    exact ⟨rfl, rfl, rfl, rfl, algo, modify_task_same dsp pri fun task => { task with algo := algo }⟩
  rcases work with work | ⟨last, work, rfl⟩
  · obtain ⟨ready, cmd, rings, vectors, algo, entry⟩ := changed next work
    exact ⟨ready, cmd, fun ring => by rw [rings]; exact ring_same _, by rw [entry],
      fun bound => bound_same pri dsp next bound vectors (by rw [entry]) (by rw [entry]; rfl) (by rw [Running, entry]; exact id), owns⟩
  · obtain ⟨ready, cmd, rings, vectors, algo, entry⟩ := changed last work
    have updated := life_update pri last
    refine ⟨updated.ready.trans ready, updated.cmd.trans cmd, fun ring => ?_, updated.backEnd.trans (by rw [entry]),
      fun bound => updated.bound ?_, owns⟩
    · have same := updated.rings ring
      rwa [rings] at same
    · exact bound_same pri dsp last bound vectors (by rw [entry]) (by rw [entry]; rfl) (by rw [Running, entry]; exact id)

theorem life_start (keeps : (dsp.tasks pri).status = .ready → (dsp.vectors (dsp.tasks pri).irqNum).handler ≠ .trigger ∧
    (dsp.vectors (dsp.tasks pri).irqNum).handler ≠ .null) (outcome : StartOutcome dsp pri next) : LifeStep pri dsp next := by
  cases outcome with
  | refused same => exact same ▸ life_same pri dsp dsp rfl rfl rfl rfl rfl rfl
  | noHandler isReady null same => exact absurd null (keeps isReady).2
  | started isReady present same =>
      subst same
      have driver := (keeps isReady).1
      have entry := started_task_same dsp pri
      have vectors : (startedTask dsp pri).vectors = Function.update dsp.vectors (dsp.tasks pri).irqNum ⟨.trigger, pri⟩ := rfl
      refine ⟨rfl, rfl, fun _ => ring_same _, by rw [entry], fun bound => ⟨fun irq linked => ?_, fun _ => ?_, ?_⟩,
        fun base owns => owns_same base dsp _ pri owns (by rw [entry]) (by rw [entry]) rfl rfl⟩
      · rw [entry]
        by_cases same : irq = (dsp.tasks pri).irqNum
        · exact same
        · rw [vectors, Function.update_of_ne same] at linked
          exact bound.named irq linked
      · rw [entry]
        exact driver
      · have last := vector_link_last (taskVector ((startedTask dsp pri).tasks pri)) (by rw [entry]; exact driver)
        rw [taskLink, last]
        exact fun linked => by cases linked

theorem life_stop (outcome : StopOutcome dsp pri next) : LifeStep pri dsp next := by
  cases outcome with
  | refused same => exact same ▸ life_same pri dsp dsp rfl rfl rfl rfl rfl rfl
  | stopped running same =>
      subst same
      have entry : (stoppedTask dsp pri).tasks pri = { dsp.tasks pri with status := .ready } := modify_task_same _ _ _
      have vectors : (stoppedTask dsp pri).vectors =
          Function.update dsp.vectors (dsp.tasks pri).irqNum ⟨(dsp.tasks pri).intrHandler, pri⟩ := rfl
      refine ⟨rfl, rfl, fun _ => ring_same _, by rw [entry], fun bound => ⟨fun irq linked => ?_, fun runs => ?_, ?_⟩,
        fun base owns => owns_same base dsp _ pri owns (by rw [entry]) (by rw [entry]) rfl rfl⟩
      · rw [entry]
        by_cases same : irq = (dsp.tasks pri).irqNum
        · exact same
        · rw [vectors, Function.update_of_ne same] at linked
          exact bound.named irq linked
      · rw [Running, entry] at runs
        cases runs
      · rw [taskLink, entry]
        exact bound.unlinked

-- A front end that is refused binds no line.
theorem fe_rejected (id : Nat) (found : dspSearchTaskById dsp id = some pri) (message : FeConfig) (reply : Reply)
    (rejected : message.Rejected) (done : dspTaskFeConfig dsp id message = some (next, reply)) :
    next = updateTaskStatus dsp pri ∨ ∃ isp vipre, next = { dsp with isp := isp, vipre := vipre } := by
  simp only [dspTaskFeConfig, found] at done
  cases message with
  | cpu =>
      cases done
      exact .inl rfl
  | illegal =>
      cases done
      exact .inr ⟨dsp.isp, dsp.vipre, rfl⟩
  | isp config =>
      obtain ⟨⟨last, accepted⟩, configured, settled⟩ := Option.bind_eq_some_iff.mp done
      rcases isp_config_reply pri dsp last accepted config configured with ⟨rfl, fine⟩ | ⟨rfl, -, rfl⟩ | ⟨rfl, -, -, rfl⟩
      · rcases rejected with high | refused
        · simp only [psIspConfigMessageHandler, ispInitialize, if_pos (show config.id.toNat > maxIsp from high)] at configured
          cases configured
        · exact absurd refused fine
      · cases settled
        exact .inr ⟨last.isp, last.vipre, rfl⟩
      · cases settled
        exact .inr ⟨_, dsp.vipre, rfl⟩
  | vipre config =>
      obtain ⟨⟨last, accepted⟩, configured, settled⟩ := Option.bind_eq_some_iff.mp done
      obtain ⟨⟨handler, ok⟩, made, configured⟩ := Option.bind_eq_some_iff.mp configured
      have refused : ok = false := by simpa [FeConfig.Rejected, VipreRejected, made] using rejected
      subst refused
      cases configured
      cases settled
      exact .inr ⟨dsp.isp, handler, rfl⟩

theorem life_drivers (isp : SispHandler) (vipre : SvipreHandler) : LifeStep pri dsp { dsp with isp := isp, vipre := vipre } :=
  life_same pri dsp _ rfl rfl rfl rfl rfl rfl

theorem life_fe (id : Nat) (found : dspSearchTaskById dsp id = some pri) (message : FeConfig) (reply : Reply)
    (keeps : vectorLink (dsp.vectors (dsp.tasks pri).irqNum) = .node pri →
      message.line = some (dsp.tasks pri).irqNum ∨ message.Rejected)
    (done : dspTaskFeConfig dsp id message = some (next, reply)) : LifeStep pri dsp next := by
  by_cases rejected : message.Rejected
  · rcases fe_rejected pri dsp next id found message reply rejected done with rfl | ⟨isp, vipre, rfl⟩
    · exact life_update pri dsp
    · exact life_drivers pri dsp isp vipre
  · cases fe_outcome dsp id pri found next reply message done with
    | refused isp vipre same => exact same ▸ life_drivers pri dsp isp vipre
    | cpu same => exact same ▸ life_update pri dsp
    | bound isp vipre high line fe check asked valid named known same =>
        subst same
        let registered := registerDriver { dsp with isp := isp, vipre := vipre, highPriTask := high } line (driverHandler line)
        have entry : (modifyTask registered pri fun task => boundTask task fe check line).tasks pri =
            boundTask (dsp.tasks pri) fe check line := modify_task_same _ _ _
        refine life_trans pri dsp (modifyTask registered pri fun task => boundTask task fe check line) _
          ⟨rfl, rfl, fun _ => ring_same _, by rw [entry]; rfl, fun bound => ⟨fun irq linked => ?_, fun runs => ?_, ?_⟩,
            fun base owns => owns_same base dsp _ pri owns (by rw [entry]; rfl) (by rw [entry]; rfl) rfl rfl⟩ (life_update pri _)
        · rw [entry]
          by_cases here : irq = line
          · exact here
          · have before : vectorLink (dsp.vectors irq) = .node pri := by
              rw [← linked]
              exact congrArg vectorLink (Function.update_of_ne here _ _).symm
            have own := bound.named irq before
            rcases keeps (own ▸ before) with same | refused
            · exact absurd (own.trans (Option.some.inj (same.symm.trans asked))) here
            · exact absurd refused rejected
        · rw [entry]
          rw [Running, entry] at runs
          exact bound.restores runs
        · rw [taskLink, entry]
          exact bound.unlinked

theorem host_refused (config : SwBeConfigPar) (bufs : Option Nat)
    (keeps : freeSwBeId dsp.swBe = none ∨ bufs = none) : psSwTaskOutConfigMessageHandler dsp pri config bufs = some (dsp, false) := by
  rw [psSwTaskOutConfigMessageHandler]
  split
  · rfl
  · rename_i place free
    have noBufs : bufs = none := keeps.resolve_left (by simp [free])
    subst noBufs
    rfl

-- The host takes no back end, and the post ISP leaves the number of the old one.
theorem life_be (id : Nat) (found : dspSearchTaskById dsp id = some pri) (message : BeConfig) (reply : Reply)
    (keeps : KeepsResources dsp pri (.beConfig id message)) (done : dspTaskBeConfig dsp id message = some (next, reply)) :
    LifeStep pri dsp next := by
  cases be_configured dsp id pri found next reply message done with
  | refused same =>
      rw [same]
      exact life_same pri dsp dsp rfl rfl rfl rfl rfl rfl
  | rejected handler same =>
      rw [same]
      exact life_same pri dsp _ rfl rfl rfl rfl rfl rfl
  | host config bufs place heap asked block free given same =>
      subst asked
      rcases keeps with full | none_
      · rw [full] at free
        cases free
      · exact absurd none_ block
  | postIsp config handler asked same =>
      rw [same]
      let registered := registerDriver { dsp with postIsp := handler } .postIsp .postIsp
      have taken : LifeStep pri dsp registered := by
        refine ⟨rfl, rfl, fun _ => ring_same _, rfl, fun bound => ⟨fun irq linked => ?_, bound.restores, bound.unlinked⟩,
          fun base owns => owns_same base dsp _ pri owns rfl rfl rfl rfl⟩
        by_cases here : irq = .postIsp
        · subst here
          have last := vector_link_last (registered.vectors .postIsp) (by simp [registered, registerDriver])
          rw [last] at linked
          cases linked
        · refine bound.named irq ?_
          rw [← linked]
          exact congrArg vectorLink (Function.update_of_ne here _ _).symm
      exact life_trans pri dsp registered _ taken (life_trans pri registered _ _
        (life_modify pri registered (fun task => { task with be := { task.be with type := .postIsp, ops := some .postIsp } })
          rfl rfl rfl (fun runs => runs) rfl rfl) (life_update pri _))

theorem life_report (id : Nat) (flag : ReportFlag) (size : Nat) (found : dspSearchTaskById dsp id = some pri) :
    LifeStep pri dsp (psRegisterReportToTask dsp id flag size).1 := by
  have unchanged := life_same pri dsp dsp rfl rfl rfl rfl rfl rfl
  have registered (report : DspTask → DspTaskReport) :
    LifeStep pri dsp (modifyTask dsp pri fun task => { task with report := report task }) :=
    life_modify pri dsp (fun task => { task with report := report task }) rfl rfl rfl (fun runs => runs) rfl rfl
  rcases report_configured dsp id pri found flag size with same | ⟨report, same⟩
  · rw [same]
    exact unchanged
  · rw [same]
    exact registered report

theorem assgin_ring (ring handler : SwBeHandler) (config : SwBeConfigPar) (assigned : Bool) (none_ : AddsNone ring config)
    (done : swBeAsginBuf ring config = some (handler, assigned)) : SameRing ring handler := by
  simp only [swBeAsginBuf] at done
  split at done
  · cases done
    exact ring_same ring
  · rename_i room
    split at done
    · cases done
    · split at done
      · cases done
      · cases done
        refine ⟨rfl, rfl, none_.resolve_left fun full => room full, ?_⟩
        dsimp only
        split
        · rename_i before
          rw [before.1]
          decide
        · exact .rfl

theorem life_assgin (id : Nat) (config : SwBeConfigPar) (reply : Reply) (found : dspSearchTaskById dsp id = some pri)
    (keeps : AddsNone (dsp.swBe (dsp.tasks pri).be.id) config)
    (done : dspBackendAssginBufHandler dsp id config = some (next, reply)) : LifeStep pri dsp next := by
  simp only [dspBackendAssginBufHandler, found, Option.ite_none_left_eq_some] at done
  obtain ⟨⟨handler, assigned⟩, given, same⟩ := Option.bind_eq_some_iff.mp done.2
  cases same
  have kept := assgin_ring _ handler config assigned keeps given
  refine ⟨rfl, rfl, fun ring => ?_, rfl, fun bound => bound_same pri dsp _ bound rfl rfl rfl fun runs => runs,
    fun base owns => owns_same base dsp _ pri owns rfl rfl rfl rfl⟩
  by_cases here : ring = (dsp.tasks pri).be.id
  · simp only [here, Function.update_self]
    exact kept
  · simp only [Function.update_of_ne here]
    exact ring_same _

theorem life_config (id : Nat) (message : AlgoConfigPar) (env : AlgoEnv) (reply : Reply)
    (found : dspSearchTaskById dsp id = some pri) (keeps : ConfigKeepsBlocks dsp pri message env)
    (done : dspTaskAlgoConfig dsp id message env = some (next, reply)) : LifeStep pri dsp next := by
  refine life_algo pri dsp next (config_work dsp next id pri reply message env found done).1 fun base owns => ?_
  rw [ConfigKeepsBlocks] at keeps
  cases config_way dsp id pri found next reply message env done with
  | starved held asked same => exact same ▸ owns
  | fresh heap full param held asked given brought loaded =>
      simp only [held] at keeps
      cases load_library_none heap full env.library (keeps.resolve_left (by simp [asked])) brought
      have entry : ((takeParam dsp pri heap param).tasks pri).algo.param = some param := by simp [takeParam, setParam]
      have content : (takeParam dsp pri heap param).heap.params param = zeroParam := write_param_same _ _ _
      exact owns_load_config base _ next pri param (owns_take_param base dsp pri owns held heap param given) entry message env reply
        (.inl (by rw [content]; rfl)) loaded
  | updated param held update written =>
      obtain ⟨settings, bufs, rfl⟩ := algo_update_same dsp next param message env reply written
      exact owns_same base dsp _ pri owns rfl rfl rfl rfl
  | again full param held other brought loaded =>
      simp only [held] at keeps
      obtain ⟨none_, bare⟩ := keeps.resolve_left other
      cases load_library_none dsp.heap full env.library none_ brought
      exact owns_load_config base dsp next pri param owns held message env reply bare loaded

theorem owns_described (base : Nat → Bool) (owns : OwnsExactly base dsp pri) (empty : (dsp.tasks pri).algo.param = none) (heap : Heap)
    (param : Nat) (given : malloc dsp.heap (some param) = some heap) (algoId : Int) (process descNum : Nat) :
    OwnsExactly base (describedTask dsp pri heap param algoId process descNum) pri ∧
      (describedTask dsp pri heap param algoId process descNum).heap.params param = { zeroParam with bufDescNum := descNum } := by
  have taken := owns_take_param base dsp pri owns empty heap param given
  have content : (takeParam dsp pri heap param).heap.params param = zeroParam := write_param_same _ _ _
  have named : OwnsExactly base (setAlgo (takeParam dsp pri heap param) pri algoId (some process)) pri :=
    owns_entry base _ pri _ taken rfl rfl
  have held : ((setAlgo (takeParam dsp pri heap param) pri algoId (some process)).tasks pri).algo.param = some param := by
    simp [setAlgo, takeParam, setParam]
  refine ⟨owns_write base _ pri named param held _ none rfl (fun block => { block with bufDescNum := descNum })
    (fun address => by simp [pointers]) fun _ => rfl, ?_⟩
  rw [describedTask, write_param_same, show (setAlgo (takeParam dsp pri heap param) pri algoId (some process)).heap.params param =
    zeroParam from content]

theorem life_load (id : Nat) (algoId : Int) (env : AlgoEnv) (reply : Reply) (found : dspSearchTaskById dsp id = some pri)
    (keeps : LoadKeepsBlocks (dsp.tasks pri) env) (done : csiDspTaskAlgoLoad dsp id algoId env = some (next, reply)) :
    LifeStep pri dsp next := by
  obtain ⟨empty, complete, none_⟩ := keeps
  refine life_algo pri dsp next (.inl (load_work dsp next id pri reply algoId env found done).1) fun base owns => ?_
  cases load_way dsp id pri found next reply algoId env done with
  | starved asked same answer =>
      rw [same]
      exact owns_entry base dsp pri _ owns empty.symm rfl
  | unloaded heap full param asked given brought missing same answer => simp [LoadComplete, asked, missing] at complete
  | plain heap full param process descNum asked given brought loaded few same answer =>
      cases load_library_none heap full env.library (none_.resolve_left (by simp [asked])) brought
      rw [same]
      exact (owns_described pri dsp base owns empty heap param given algoId process descNum).1
  | unlisted heap full grown param process descNum asked given brought loaded hardware many missing more same answer =>
      simp only [LoadComplete, asked, loaded] at complete
      exact absurd missing (complete hardware many)
  | listed heap full grown param process descNum bufs asked given brought loaded hardware many list more same answer =>
      cases load_library_none heap full env.library (none_.resolve_left (by simp [asked])) brought
      obtain ⟨described, bare⟩ := owns_described pri dsp base owns empty heap param given algoId process descNum
      have entry := described_entry dsp pri heap param algoId process descNum
      have held := congrArg (fun task => task.algo.param) entry
      rw [same]
      refine owns_write base _ pri described param held grown (some bufs) more
        (fun block => { block with bufferNum := descNum, bufferStructPtr := some bufs }) (fun address => ?_) fun software => ?_
      · rw [bare]
        simpa [pointers, zeroParam] using eq_comm
      · rw [entry, hardware] at software
        cases software

theorem life_command (command : Command) (id : Nat) (reply : Reply) (asked : command.id = some id)
    (found : dspSearchTaskById dsp id = some pri) (other : command ≠ .taskFree id) (keeps : KeepsResources dsp pri command)
    (done : psCommonCommand dsp command = some (next, reply)) : LifeStep pri dsp next := by
  cases command with
  | taskAlloc => cases asked
  | taskFree =>
      cases asked
      exact absurd rfl other
  | taskStart =>
      cases asked
      exact life_start pri dsp next keeps (start_outcome dsp _ pri found _ _ (Option.some.inj done))
  | taskStop =>
      cases asked
      exact life_stop pri dsp next (stop_outcome dsp _ pri found _ _ (Option.some.inj done))
  | feConfig _ message =>
      cases asked
      exact life_fe pri dsp next _ found message reply keeps done
  | beConfig _ message =>
      cases asked
      exact life_be pri dsp next _ found message reply keeps done
  | algoConfig _ message env =>
      cases asked
      exact life_config pri dsp next _ message env reply found keeps done
  | algoLoad _ algoId env =>
      cases asked
      exact life_load pri dsp next _ algoId env reply found keeps done
  | reportConfig _ flag size =>
      cases asked
      have kept := life_report pri dsp id flag size found
      rw [Option.some.inj done] at kept
      exact kept
  | beAssginBuf _ config =>
      cases asked
      exact life_assgin pri dsp next _ config reply found keeps done

end Life

end CsiDsp
