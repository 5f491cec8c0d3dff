import CsiDsp.ListWrites

set_option autoImplicit false

namespace CsiDsp

open Runs Transcript

-- What the replies to the commands of a task depend on.
structure SameEntry (task other : DspTask) : Prop where
  kind : other.type = task.type
  status : other.status = task.status
  fe : other.fe.type = task.fe.type
  be : other.be.type = task.be.type
  backEnd : other.be.id = task.be.id
  algo : other.algo = task.algo

structure SameCore (pri : Nat) (dsp other : Dsp) : Prop where
  entry : SameEntry (dsp.tasks pri) (other.tasks pri)
  live : other.heap.live = dsp.heap.live
  block : ∀ param, (dsp.tasks pri).algo.param = some param → other.heap.params param = dsp.heap.params param
  cmd : other.cmd = dsp.cmd
  rings : ∀ ring, SameRing (dsp.swBe ring) (other.swBe ring)

-- What a command does in one state, it does in the other, with the same reply.
def AnswersAlike (pri : Nat) {Answer : Type} (first second : Option (Dsp × Answer)) : Prop :=
  ∀ next answer, first = some (next, answer) → ∃ other, second = some (other, answer) ∧ SameCore pri next other

theorem writes_alike (task again : DspTask) (same : SameEntry task again) (command : Command) :
    commandWrites again command = commandWrites task command := by
  funext list slot
  cases command <;> simp only [commandWrites, same.algo, same.kind]

section Core

variable (pri : Nat) (dsp other : Dsp) (core : SameCore pri dsp other)

theorem updated_status_alike (task again : DspTask) (same : SameEntry task again) : updatedStatus again = updatedStatus task := by
  simp only [updatedStatus, same.kind, same.status, same.fe, same.be, same.algo]

theorem alike_some {Answer : Type} (answer : Answer) (core : SameCore pri dsp other) :
    AnswersAlike pri (some (dsp, answer)) (some (other, answer)) := by
  intro next given done
  cases done
  exact ⟨other, rfl, core⟩

theorem alike_bind {Answer Reply : Type} (first second : Option (Dsp × Answer)) (rest : Dsp × Answer → Option (Dsp × Reply))
    (alike : AnswersAlike pri first second)
    (later : ∀ dsp other answer, SameCore pri dsp other → AnswersAlike pri (rest (dsp, answer)) (rest (other, answer))) :
    AnswersAlike pri (first.bind rest) (second.bind rest) := by
  intro next reply done
  obtain ⟨⟨middle, answer⟩, start, done⟩ := Option.bind_eq_some_iff.mp done
  obtain ⟨again, same, core⟩ := alike middle answer start
  rw [same]
  exact later middle again answer core next reply done

include core

theorem core_modify (change : DspTask → DspTask) (again : DspTask → DspTask)
    (entry : SameEntry (change (dsp.tasks pri)) (again (other.tasks pri)))
    (param : (change (dsp.tasks pri)).algo.param = none ∨ (change (dsp.tasks pri)).algo.param = (dsp.tasks pri).algo.param) :
    SameCore pri (modifyTask dsp pri change) (modifyTask other pri again) := by
  refine ⟨by rw [modify_task_same, modify_task_same]; exact entry, core.live, fun held same => ?_, core.cmd, core.rings⟩
  rw [modify_task_same] at same
  rcases param with empty | kept
  · rw [empty] at same
    cases same
  · exact core.block held (kept ▸ same)

theorem core_update : SameCore pri (updateTaskStatus dsp pri) (updateTaskStatus other pri) := by
  obtain ⟨kind, status, fe, be, backEnd, algo⟩ := core.entry
  exact core_modify pri dsp other core _ _ ⟨kind, updated_status_alike _ _ core.entry, fe, be, backEnd, algo⟩ (.inr rfl)

theorem core_set_algo (algoId : Int) (process : Option Nat) :
    SameCore pri (setAlgo dsp pri algoId process) (setAlgo other pri algoId process) := by
  obtain ⟨kind, status, fe, be, backEnd, algo⟩ := core.entry
  exact core_modify pri dsp other core _ _ ⟨kind, status, fe, be, backEnd, by dsimp only; rw [algo]⟩ (.inr rfl)

theorem core_forget : SameCore pri (setParam dsp pri none) (setParam other pri none) := by
  obtain ⟨kind, status, fe, be, backEnd, algo⟩ := core.entry
  exact core_modify pri dsp other core _ _ ⟨kind, status, fe, be, backEnd, by dsimp only; rw [algo]⟩ (.inl rfl)

theorem core_link (irq line : Irq) (old driver : Handler) :
    SameCore pri (linkOldHandler dsp pri irq old) (linkOldHandler other pri line driver) := by
  obtain ⟨kind, status, fe, be, backEnd, algo⟩ := core.entry
  exact core_modify pri dsp other core
    (fun task => { task with intrArg := if old = .trigger then dspGetLatestHwTask dsp pri irq else -1, intrHandler := old })
    (fun task => { task with intrArg := if driver = .trigger then dspGetLatestHwTask other pri line else -1, intrHandler := driver })
    ⟨kind, status, fe, be, backEnd, algo⟩ (.inr rfl)

theorem core_status (status : TaskStatus) : SameCore pri (modifyTask dsp pri fun task => { task with status := status })
    (modifyTask other pri fun task => { task with status := status }) := by
  obtain ⟨kind, -, fe, be, backEnd, algo⟩ := core.entry
  exact core_modify pri dsp other core _ _ ⟨kind, rfl, fe, be, backEnd, algo⟩ (.inr rfl)

-- Which handlers the vectors hold and which lines are enabled does not count.
theorem core_lines (vectors again : Irq → Vector) (enabled lines : Irq → Bool) :
    SameCore pri { dsp with vectors := vectors, enabled := enabled } { other with vectors := again, enabled := lines } :=
  ⟨core.entry, core.live, core.block, core.cmd, core.rings⟩

theorem core_malloc (block : Option Nat) (heap : Heap) (given : malloc dsp.heap block = some heap) :
    ∃ grown, malloc other.heap block = some grown ∧ SameCore pri { dsp with heap := heap } { other with heap := grown } := by
  have same := core.live
  cases block with
  | none =>
      cases given
      exact ⟨other.heap, rfl, core⟩
  | some address =>
      simp only [malloc] at given ⊢
      split at given
      · cases given
      · rename_i free
        cases given
        refine ⟨{ other.heap with live := Function.update other.heap.live address true }, ?_, core.entry, ?_, core.block,
          core.cmd, core.rings⟩
        · rw [same, if_neg free]
        · dsimp only
          rw [same]

-- What the settings and the lists hold does not count.
theorem core_content (settings again : Nat → Nat → UInt8) (bufs lists : Nat → Nat → AlgoBuffer) :
    SameCore pri { dsp with heap := { dsp.heap with settings := settings, bufs := bufs } }
      { other with heap := { other.heap with settings := again, bufs := lists } } :=
  ⟨core.entry, core.live, core.block, core.cmd, core.rings⟩

theorem core_algo_load (env : AlgoEnv) (next : Dsp) (brought : dspAlgoLoad dsp env = some next) :
    ∃ again, dspAlgoLoad other env = some again ∧ SameCore pri next again := by
  obtain ⟨full, loaded, same⟩ := Option.map_eq_some_iff.mp brought
  cases same
  rw [dspAlgoLoad]
  cases library : env.library with
  | overlay entry =>
      rw [library] at loaded
      cases loaded
      exact ⟨other, rfl, core⟩
  | split sizes dataBlock codeBlock entry =>
      rw [library] at loaded
      cases sizes with
      | none =>
          cases loaded
          exact ⟨other, rfl, core⟩
      | some bytes =>
          obtain ⟨data, first, second⟩ := Option.bind_eq_some_iff.mp loaded
          obtain ⟨grown, more, taken⟩ := core_malloc pri dsp other core dataBlock data first
          obtain ⟨last, rest, both⟩ := core_malloc pri { dsp with heap := data } { other with heap := grown } taken codeBlock full second
          exact ⟨{ other with heap := last }, by simp [loadLibrary, more, show malloc grown codeBlock = some last from rest], both⟩

theorem core_write (param : Nat) (held : (dsp.tasks pri).algo.param = some param) (change : AlgoParam → AlgoParam) :
    SameCore pri (writeParam dsp param change) (writeParam other param change) := by
  refine ⟨core.entry, core.live, fun block same => ?_, core.cmd, core.rings⟩
  have here : (dsp.tasks pri).algo.param = some block := same
  rw [held] at here
  cases here
  rw [write_param_same, write_param_same, core.block param held]

theorem core_take_param (block heap : Heap) (param : Nat)
    (live : block.live = heap.live) : SameCore pri (takeParam dsp pri heap param) (takeParam other pri block param) := by
  obtain ⟨kind, status, fe, be, backEnd, algo⟩ := core.entry
  refine ⟨?_, live, fun held same => ?_, core.cmd, core.rings⟩
  · simp only [takeParam, setParam, write_param_tasks, modify_task_same]
    exact ⟨kind, status, fe, be, backEnd, by dsimp only; rw [algo]⟩
  · simp only [takeParam, setParam, write_param_tasks, modify_task_same, Option.some.injEq] at same
    subst same
    have one : (takeParam dsp pri heap param).heap.params param = zeroParam := write_param_same _ _ _
    have two : (takeParam other pri block param).heap.params param = zeroParam := write_param_same _ _ _
    rw [one, two]

theorem core_free (blocks : List (Option Nat)) : SameCore pri (blocks.foldl freeInDsp dsp) (blocks.foldl freeInDsp other) := by
  induction blocks generalizing dsp other with
  | nil => exact core
  | cons block rest ih =>
      refine ih (freeInDsp dsp block) (freeInDsp other block) ?_
      cases block with
      | none => exact core
      | some address =>
          refine ⟨core.entry, ?_, core.block, core.cmd, core.rings⟩
          simp only [freeInDsp, freeBlock, core.live]

theorem core_drop (param : Nat) (blocks : List (Option Nat)) :
    SameCore pri (dropParam dsp pri param blocks) (dropParam other pri param blocks) :=
  core_forget pri _ _ (core_free pri _ _ (core_free pri dsp other core blocks) [some param])

end Core

section AlgoAlike

variable (pri : Nat) (dsp other : Dsp) (core : SameCore pri dsp other) (param : Nat)
  (held : (dsp.tasks pri).algo.param = some param) (message : AlgoConfigPar) (env : AlgoEnv)

include core held

theorem settings_alike (settled : Dsp) (took : Bool) (done : takeSettings dsp pri param message env = some (settled, took)) :
    ∃ again, takeSettings other pri param message env = some (again, took) ∧ SameCore pri settled again ∧
      (took = true → (settled.tasks pri).algo.param = some param) := by
  unfold takeSettings at done ⊢
  split at done
  · rename_i asked
    obtain ⟨heap, given, done⟩ := Option.bind_eq_some_iff.mp done
    obtain ⟨grown, more, stocked⟩ := core_malloc pri dsp other core env.setBlock heap given
    have stored := core_write pri { dsp with heap := heap } { other with heap := grown } stocked param held
      fun block => { block with setBufSize := message.settLength, setBufPtr := env.setBlock }
    have tasks := write_param_tasks { dsp with heap := heap } param
      fun block => { block with setBufSize := message.settLength, setBufPtr := env.setBlock }
    rw [if_pos asked, more]
    dsimp only [Option.bind_eq_bind, Option.bind_some] at done ⊢
    generalize (writeParam { dsp with heap := heap } param
      fun block => { block with setBufSize := message.settLength, setBufPtr := env.setBlock }) = one at done stored tasks
    generalize (writeParam { other with heap := grown } param
      fun block => { block with setBufSize := message.settLength, setBufPtr := env.setBlock }) = two at stored ⊢
    have oneHeld : (one.tasks pri).algo.param = some param := by rw [tasks]; exact held
    cases block : env.setBlock with
    | none =>
        rw [block] at done
        cases done
        rw [stored.block param oneHeld]
        exact ⟨_, rfl, core_drop pri one two stored param _, fun took => absurd took (by decide)⟩
    | some address =>
        rw [block] at done
        cases done
        exact ⟨_, rfl, core_content pri one two stored _ _ one.heap.bufs two.heap.bufs, fun _ => oneHeld⟩
  · rename_i unasked
    cases done
    rw [if_neg unasked]
    exact ⟨other, rfl, core, fun _ => held⟩

theorem buffers_alike (bufs : Nat → AlgoBuffer) : (takeBuffers other param message bufs).2 = (takeBuffers dsp param message bufs).2 ∧
    SameCore pri (takeBuffers dsp param message bufs).1 (takeBuffers other param message bufs).1 := by
  obtain ⟨one, first⟩ := take_buffers_same dsp param message bufs
  obtain ⟨two, second⟩ := take_buffers_same other param message bufs
  refine ⟨?_, ?_⟩
  · simp only [takeBuffers, core.block param held]
    split
    · rfl
    · split <;> rfl
  · rw [first, second]
    exact core_content pri dsp other core dsp.heap.settings other.heap.settings one two

theorem buffer_list_alike (descNum : Nat) : AnswersAlike pri (takeBufferList dsp pri param message env descNum)
    (takeBufferList other pri param message env descNum) := by
  intro next reply done
  obtain ⟨heap, given, done⟩ := Option.bind_eq_some_iff.mp done
  obtain ⟨grown, more, taken⟩ := core_malloc pri dsp other core env.bufsBlock heap given
  have stored := core_write pri { dsp with heap := heap } { other with heap := grown } taken param held
    fun block => { block with bufferNum := descNum, bufferStructPtr := env.bufsBlock }
  have tasks := write_param_tasks { dsp with heap := heap } param
    fun block => { block with bufferNum := descNum, bufferStructPtr := env.bufsBlock }
  simp only [takeBufferList, more, Option.bind_eq_bind, Option.bind_some]
  generalize (writeParam { dsp with heap := heap } param
    fun block => { block with bufferNum := descNum, bufferStructPtr := env.bufsBlock }) = one at done stored tasks
  generalize (writeParam { other with heap := grown } param
    fun block => { block with bufferNum := descNum, bufferStructPtr := env.bufsBlock }) = two at stored ⊢
  have oneHeld : (one.tasks pri).algo.param = some param := by rw [tasks]; exact held
  cases block : env.bufsBlock with
  | none =>
      rw [block] at done
      cases done
      exact ⟨_, rfl, core_drop pri one two stored param []⟩
  | some address =>
      rw [block] at done
      obtain ⟨⟨settled, took⟩, settings, done⟩ := Option.bind_eq_some_iff.mp done
      have cleared : SameCore pri (writeBufs one address fun slot => if slot < descNum then zeroAlgoBuffer else one.heap.bufs address slot)
          (writeBufs two address fun slot => if slot < descNum then zeroAlgoBuffer else two.heap.bufs address slot) :=
        core_content pri one two stored one.heap.settings two.heap.settings _ _
      obtain ⟨again, same, kept, still⟩ := settings_alike pri _ _ cleared param oneHeld message env settled took settings
      dsimp only
      rw [same]
      cases took with
      | false =>
          cases done
          exact ⟨again, rfl, kept⟩
      | true =>
          obtain ⟨fits, filled⟩ := buffers_alike pri settled again kept param (still rfl) message env.bufs
          simp only [Bool.true_eq_false, if_false, Option.bind_some] at done ⊢
          rw [fits]
          split at done
          · cases done
          · rename_i few
            cases done
            rw [if_neg few]
            exact ⟨_, rfl, core_update pri _ _ filled⟩

theorem load_config_alike : AnswersAlike pri (dspTaskAlgoLoadConfig dsp pri param message env)
    (dspTaskAlgoLoadConfig other pri param message env) := by
  intro next reply done
  unfold dspTaskAlgoLoadConfig at done ⊢
  cases loaded : env.load with
  | none =>
      simp only [loaded] at done
      cases done
      exact ⟨_, rfl, core_drop pri _ _ (core_set_algo pri dsp other core message.algoId none) param []⟩
  | some result =>
      obtain ⟨process, descNum⟩ := result
      simp only [loaded] at done
      have named := core_set_algo pri dsp other core message.algoId (some process)
      have entry : ((setAlgo dsp pri message.algoId (some process)).tasks pri).algo.param = some param := by simp [setAlgo, held]
      have described := core_write pri _ _ named param entry fun block => { block with bufDescNum := descNum }
      have tasks := write_param_tasks (setAlgo dsp pri message.algoId (some process)) param
        fun block => { block with bufDescNum := descNum }
      dsimp only
      generalize (writeParam (setAlgo dsp pri message.algoId (some process)) param fun block => { block with bufDescNum := descNum }) =
        one at done described tasks
      generalize (writeParam (setAlgo other pri message.algoId (some process)) param fun block => { block with bufDescNum := descNum }) =
        two at described ⊢
      rw [described.entry.kind]
      split at done
      · rename_i software
        cases done
        rw [if_pos software]
        exact ⟨_, rfl, core_update pri one two described⟩
      · rename_i hardware
        rw [if_neg hardware]
        split at done
        · rename_i zero
          cases done
          rw [if_pos zero]
          exact ⟨two, rfl, described⟩
        · rename_i some_bufs
          rw [if_neg some_bufs]
          exact buffer_list_alike pri one two described param (by rw [tasks, entry]) message env descNum next reply done

end AlgoAlike

theorem assgin_ring_alike (ring again handler : SwBeHandler) (config : SwBeConfigPar) (assigned : Bool) (same : SameRing ring again)
    (none_ : AddsNone ring config) (alike : AddsNone again config) (done : swBeAsginBuf ring config = some (handler, assigned)) :
    ∃ result, swBeAsginBuf again config = some (result, assigned) ∧ SameRing handler result := by
  have kept := assgin_ring ring handler config assigned none_ done
  have back : SameRing handler ring := ⟨kept.bufNum.symm, kept.headId.symm, kept.valid.symm, kept.free.symm⟩
  have answered : ∃ result, swBeAsginBuf again config = some (result, assigned) := by
    simp only [swBeAsginBuf, same.bufNum, same.headId, same.valid] at done ⊢
    split at done
    · rename_i full
      cases done
      exact ⟨again, if_pos full⟩
    · rename_i room
      rw [if_neg room]
      split at done
      · cases done
      · rename_i listed
        rw [if_neg listed]
        split at done
        · cases done
        · rename_i inside
          cases done
          rw [if_neg inside]
          exact ⟨_, rfl⟩
  obtain ⟨result, given⟩ := answered
  exact ⟨result, given, ring_trans _ _ _ back (ring_trans _ _ _ same (assgin_ring again result config assigned alike given))⟩

theorem settings_update_alike (block : AlgoParam) (message : AlgoConfigPar) (settings : Nat → UInt8) (dsp other : Dsp) :
    (updateSettings other block message settings).2 = (updateSettings dsp block message settings).2 := by
  simp only [updateSettings, dspTaskAlgoSettingUpdate]
  split
  · rfl
  · split <;> rfl

theorem taken_alike (number : UInt32) (old other : Nat → AlgoBuffer) (message : AlgoConfigPar) (bufs : Nat → AlgoBuffer)
    (ids : ∀ slot, (other slot).bufId = (old slot).bufId) :
    (dspTaskAlgoBufUpdate number other message bufs).2 = (dspTaskAlgoBufUpdate number old message bufs).2 := by
  rw [Bool.eq_iff_iff, buf_update_taken, buf_update_taken]
  simp only [UpdateTaken, ids]

-- An update is answered by the ids in the list of the task.
theorem update_alike (pri : Nat) (dsp other next : Dsp) (core : SameCore pri dsp other) (param : Nat)
    (held : (dsp.tasks pri).algo.param = some param)
    (ids : ∀ list slot, taskList dsp pri = some list → listId other.heap list slot = listId dsp.heap list slot)
    (message : AlgoConfigPar) (env : AlgoEnv) (reply : Reply) (done : dspTaskAlgoUpdate dsp param message env = some (next, reply)) :
    ∃ again, dspTaskAlgoUpdate other param message env = some (again, reply) ∧ SameCore pri next again := by
  have settled := settings_update_alike (dsp.heap.params param) message env.settings dsp other
  have answered : ∃ again, dspTaskAlgoUpdate other param message env = some (again, reply) := by
    obtain ⟨updated, taken, rfl⟩ := algo_update_parts dsp next param message env reply done
    simp only [dspTaskAlgoUpdate, core.block param held]
    rw [← settled]
    have kept : ∃ again, updateBufs (updateSettings other (dsp.heap.params param) message env.settings).1 (dsp.heap.params param)
        message env.bufs = some (again, updated) := by
      cases list : (dsp.heap.params param).bufferStructPtr with
      | none =>
          simp only [updateBufs, list] at taken ⊢
          split at taken
          · rename_i unasked
            cases taken
            exact ⟨_, if_pos unasked⟩
          · rename_i asked
            rw [if_neg asked]
            split at taken
            · rename_i many
              cases taken
              exact ⟨_, if_pos many⟩
            · cases taken
      | some place =>
          simp only [updateBufs, list] at taken ⊢
          cases taken
          refine ⟨_, congrArg some (Prod.ext rfl (taken_alike _ _ _ message env.bufs fun slot => ?_))⟩
          exact ids place slot (by rw [taskList, held]; exact list)
    obtain ⟨again, same⟩ := kept
    exact ⟨again, by rw [same]; rfl⟩
  obtain ⟨again, same⟩ := answered
  obtain ⟨settings, bufs, rfl⟩ := algo_update_same dsp next param message env reply done
  obtain ⟨settings_, bufs_, rfl⟩ := algo_update_same other again param message env reply same
  exact ⟨_, same, core_content pri dsp other core settings settings_ bufs bufs_⟩

section CommandsAlike

variable (pri : Nat) (dsp other : Dsp) (core : SameCore pri dsp other) (id : Nat) (found : dspSearchTaskById dsp id = some pri)
  (again : dspSearchTaskById other id = some pri)

include core found again

theorem config_alike (ids : ∀ list slot, taskList dsp pri = some list → listId other.heap list slot = listId dsp.heap list slot)
    (message : AlgoConfigPar) (env : AlgoEnv) :
    AnswersAlike pri (dspTaskAlgoConfig dsp id message env) (dspTaskAlgoConfig other id message env) := by
  intro next reply done
  simp only [dspTaskAlgoConfig, found, again, core.entry.algo] at done ⊢
  cases held : (dsp.tasks pri).algo.param with
  | none =>
      simp only [held] at done ⊢
      obtain ⟨heap, given, done⟩ := Option.bind_eq_some_iff.mp done
      obtain ⟨grown, more, taken⟩ := core_malloc pri dsp other core env.paramBlock heap given
      simp only [more, Option.bind_eq_bind, Option.bind_some]
      cases asked : env.paramBlock with
      | none =>
          rw [asked] at done
          cases done
          exact ⟨other, rfl, core⟩
      | some param =>
          rw [asked] at done
          obtain ⟨brought, loaded, done⟩ := Option.bind_eq_some_iff.mp done
          have started := core_take_param pri dsp other core grown heap param taken.live
          obtain ⟨same, library, kept⟩ := core_algo_load pri _ _ started env brought loaded
          have entry : (brought.tasks pri).algo.param = some param := by
            obtain ⟨full, -, rfl⟩ := Option.map_eq_some_iff.mp loaded
            simp [takeParam, setParam]
          simp only [library, Option.bind_some]
          exact load_config_alike pri brought same kept param entry message env next reply done
  | some param =>
      simp only [held] at done ⊢
      split at done
      · rename_i update
        rw [if_pos update]
        exact update_alike pri dsp other next core param held ids message env reply done
      · rename_i fresh
        rw [if_neg fresh]
        obtain ⟨brought, loaded, done⟩ := Option.bind_eq_some_iff.mp done
        obtain ⟨same, library, kept⟩ := core_algo_load pri dsp other core env brought loaded
        have entry : (brought.tasks pri).algo.param = some param := by
          obtain ⟨full, -, rfl⟩ := Option.map_eq_some_iff.mp loaded
          exact held
        simp only [library, Option.bind_eq_bind, Option.bind_some]
        exact load_config_alike pri brought same kept param entry message env next reply done

theorem load_alike (algoId : Int) (env : AlgoEnv) :
    AnswersAlike pri (csiDspTaskAlgoLoad dsp id algoId env) (csiDspTaskAlgoLoad other id algoId env) := by
  intro next reply done
  simp only [csiDspTaskAlgoLoad, found, again] at done ⊢
  obtain ⟨heap, given, done⟩ := Option.bind_eq_some_iff.mp done
  obtain ⟨grown, more, taken⟩ := core_malloc pri dsp other core env.paramBlock heap given
  simp only [more, Option.bind_eq_bind, Option.bind_some]
  cases asked : env.paramBlock with
  | none =>
      rw [asked] at done
      cases done
      exact ⟨_, rfl, core_forget pri dsp other core⟩
  | some param =>
      simp only [asked] at done
      obtain ⟨one, loaded, done⟩ := Option.bind_eq_some_iff.mp done
      obtain ⟨two, library, started⟩ :=
        core_algo_load pri _ _ (core_take_param pri dsp other core grown heap param taken.live) env one loaded
      have held : (one.tasks pri).algo.param = some param := by
        obtain ⟨full, -, rfl⟩ := Option.map_eq_some_iff.mp loaded
        simp [takeParam, setParam]
      simp only [library, Option.bind_some]
      cases answer : env.load with
      | none =>
          simp only [answer] at done
          cases done
          simp only [started.entry.algo]
          exact ⟨_, rfl, core_free pri _ _ (core_set_algo pri one two started _ none) [some param]⟩
      | some result =>
          obtain ⟨process, descNum⟩ := result
          simp only [answer] at done
          have named := core_set_algo pri one two started algoId (some process)
          have entry : ((setAlgo one pri algoId (some process)).tasks pri).algo.param = some param := by simp [setAlgo, held]
          have described := core_write pri _ _ named param entry fun block => { block with bufDescNum := descNum }
          have tasks := write_param_tasks (setAlgo one pri algoId (some process)) param fun block => { block with bufDescNum := descNum }
          dsimp only
          generalize (writeParam (setAlgo one pri algoId (some process)) param fun block => { block with bufDescNum := descNum }) =
            first at done described tasks
          generalize (writeParam (setAlgo two pri algoId (some process)) param fun block => { block with bufDescNum := descNum }) =
            second at described ⊢
          rw [described.entry.kind]
          split at done
          · rename_i plain
            cases done
            rw [if_pos plain]
            exact ⟨second, rfl, described⟩
          · rename_i listed
            rw [if_neg listed]
            obtain ⟨grownList, given, done⟩ := Option.bind_eq_some_iff.mp done
            obtain ⟨more, stocked, bought⟩ := core_malloc pri first second described env.bufsBlock grownList given
            simp only [stocked, Option.bind_some]
            have stored := core_write pri _ _ bought param (by rw [← entry, ← tasks]) fun block =>
              { block with bufferNum := descNum, bufferStructPtr := env.bufsBlock }
            split at done
            · rename_i refused
              cases done
              rw [if_pos refused]
              exact ⟨_, rfl, core_free pri _ _ stored [some param]⟩
            · rename_i given
              cases done
              rw [if_neg given]
              exact ⟨_, rfl, stored⟩

theorem start_alike (keeps : KeepsResources dsp pri (.taskStart id)) (same : KeepsResources other pri (.taskStart id)) :
    AnswersAlike pri (some (dspTaskStart dsp id)) (some (dspTaskStart other id)) := by
  have status := core.entry.status
  simp only [dspTaskStart, found, again]
  cases before : (dsp.tasks pri).status with
  | free | idel | runing | invalid =>
      simp only [status, before]
      exact alike_some pri dsp other _ core
  | ready =>
      have present := (keeps before).2
      have here := (same (status.trans before)).2
      simp only [status, before, psTaskInterruptRegister, if_neg present, if_neg here, if_true]
      exact alike_some pri _ _ _ (core_status pri _ _ (core_lines pri _ _ (core_link pri _ _ (core_lines pri dsp other core _ _ _ _)
        _ _ _ _) _ _ _ _) .runing)

theorem stop_alike : AnswersAlike pri (some (dspTaskStop dsp id)) (some (dspTaskStop other id)) := by
  have status := core.entry.status
  simp only [dspTaskStop, found, again]
  cases before : (dsp.tasks pri).status with
  | free | idel | ready | invalid =>
      simp only [status, before]
      exact alike_some pri dsp other _ core
  | runing =>
      simp only [status, before]
      exact alike_some pri _ _ _ (core_status pri _ _ (core_lines pri dsp other core _ _ _ _) .ready)

omit found again in
theorem isp_alike (config : SispConfigPar) :
    AnswersAlike pri (psIspConfigMessageHandler dsp pri config) (psIspConfigMessageHandler other pri config) := by
  simp only [psIspConfigMessageHandler, ispInitialize]
  by_cases high : config.id.toNat > maxIsp
  · simp only [if_pos high]
    exact alike_some pri dsp other _ core
  · simp only [if_neg high, Bool.true_eq_false, if_false]
    cases configured : ispHandlerConfig (zeroHandler config.id.toNat) config with
    | none => exact fun _ _ done => by cases done
    | some result =>
        obtain ⟨handler, ret⟩ := result
        simp only [Option.bind_eq_bind, Option.bind_some]
        by_cases ok : ret ≠ .ok
        · rw [if_pos ok, if_pos ok]
          exact alike_some pri _ _ _ ⟨core.entry, core.live, core.block, core.cmd, core.rings⟩
        · rw [if_neg ok, if_neg ok]
          obtain ⟨kind, status, fe, be, backEnd, algo⟩ := core.entry
          exact alike_some pri _ _ _ (core_modify pri (registerDriver { dsp with isp := handler } _ .isp)
            (registerDriver { other with isp := handler } _ .isp) ⟨core.entry, core.live, core.block, core.cmd, core.rings⟩ _ _
            ⟨kind, status, rfl, be, backEnd, algo⟩ (.inr rfl))

omit found again in
theorem vipre_alike (config : VipreConfigPar) :
    AnswersAlike pri (psVipreConfigMessageHandler dsp pri config) (psVipreConfigMessageHandler other pri config) := by
  simp only [psVipreConfigMessageHandler]
  cases configured : vipreConfigure config with
  | none => exact fun _ _ done => by cases done
  | some result =>
      obtain ⟨handler, ok⟩ := result
      simp only [Option.bind_eq_bind, Option.bind_some]
      cases ok with
      | false => exact alike_some pri _ _ _ ⟨core.entry, core.live, core.block, core.cmd, core.rings⟩
      | true =>
          obtain ⟨kind, status, fe, be, backEnd, algo⟩ := core.entry
          exact alike_some pri _ _ _ (core_modify pri (registerDriver { dsp with vipre := handler } _ .vipre)
            (registerDriver { other with vipre := handler } _ .vipre) ⟨core.entry, core.live, core.block, core.cmd, core.rings⟩ _ _
            ⟨kind, status, rfl, be, backEnd, algo⟩ (.inr rfl))

omit found again in
theorem post_isp_alike (config : SispConfigPar) :
    AnswersAlike pri (psPostIspConfigMessageHandler dsp pri config) (psPostIspConfigMessageHandler other pri config) := by
  simp only [psPostIspConfigMessageHandler, postIspInitialize]
  by_cases high : config.id.toNat > maxPostIsp
  · simp only [if_pos high, ne_eq, reduceCtorEq, not_false_eq_true, if_true]
    exact alike_some pri dsp other _ core
  · simp only [if_neg high, ne_eq, not_true_eq_false, if_false]
    cases configured : postIspHandlerConfig (zeroHandler config.id.toNat) config with
    | none => exact fun _ _ done => by cases done
    | some result =>
        obtain ⟨handler, ret⟩ := result
        simp only [Option.bind_eq_bind, Option.bind_some]
        by_cases ok : ¬ ret = .ok
        · rw [if_pos ok, if_pos ok]
          exact alike_some pri _ _ _ ⟨core.entry, core.live, core.block, core.cmd, core.rings⟩
        · rw [if_neg ok, if_neg ok]
          obtain ⟨kind, status, fe, be, backEnd, algo⟩ := core.entry
          exact alike_some pri _ _ _ (core_modify pri (registerDriver { dsp with postIsp := handler } .postIsp .postIsp)
            (registerDriver { other with postIsp := handler } .postIsp .postIsp)
            ⟨core.entry, core.live, core.block, core.cmd, core.rings⟩ _ _ ⟨kind, status, fe, rfl, backEnd, algo⟩ (.inr rfl))

omit found again in
theorem core_bind (line : Irq) : SameCore pri (bindIrq dsp pri line) (bindIrq other pri line) := by
  obtain ⟨kind, status, fe, be, backEnd, algo⟩ := core.entry
  exact core_modify pri dsp other core _ _ ⟨kind, status, fe, be, backEnd, algo⟩ (.inr rfl)

omit found again in
theorem core_choose : SameCore pri (chooseEmptyCheck dsp pri) (chooseEmptyCheck other pri) := by
  obtain ⟨kind, status, fe, be, backEnd, algo⟩ := core.entry
  exact core_modify pri { dsp with highPriTask := dspSearchHigherPrioTask dsp pri }
    { other with highPriTask := dspSearchHigherPrioTask other pri } ⟨core.entry, core.live, core.block, core.cmd, core.rings⟩
    (fun task => { task with emptyCheck := if dspSearchHigherPrioTask dsp pri ≥ 0 then some .vipre else none })
    (fun task => { task with emptyCheck := if dspSearchHigherPrioTask other pri ≥ 0 then some .vipre else none })
    ⟨kind, status, fe, be, backEnd, algo⟩ (.inr rfl)

theorem fe_alike (message : FeConfig) : AnswersAlike pri (dspTaskFeConfig dsp id message) (dspTaskFeConfig other id message) := by
  simp only [dspTaskFeConfig, found, again]
  cases message with
  | cpu => exact alike_some pri _ _ _ (core_update pri dsp other core)
  | illegal => exact alike_some pri dsp other _ core
  | isp config =>
      refine alike_bind pri _ _ _ (isp_alike pri dsp other core config) fun last same accepted kept => ?_
      cases accepted with
      | false => exact alike_some pri last same _ kept
      | true => exact alike_some pri _ _ _ (core_update pri _ _ (core_bind pri last same kept _))
  | vipre config =>
      refine alike_bind pri _ _ _ (vipre_alike pri dsp other core config) fun last same accepted kept => ?_
      cases accepted with
      | false => exact alike_some pri last same _ kept
      | true => exact alike_some pri _ _ _ (core_update pri _ _ (core_choose pri _ _ (core_bind pri last same kept _)))

theorem be_alike (message : BeConfig) (keeps : KeepsResources dsp pri (.beConfig id message))
    (same : KeepsResources other pri (.beConfig id message)) :
    AnswersAlike pri (dspTaskBeConfig dsp id message) (dspTaskBeConfig other id message) := by
  simp only [dspTaskBeConfig, found, again]
  cases message with
  | illegal => exact alike_some pri dsp other _ core
  | postIsp config =>
      refine alike_bind pri _ _ _ (post_isp_alike pri dsp other core config) fun last same accepted kept => ?_
      cases accepted with
      | false => exact alike_some pri last same _ kept
      | true => exact alike_some pri _ _ _ (core_update pri last same kept)
  | host config bufs =>
      dsimp only
      rw [host_refused pri dsp config bufs keeps, host_refused pri other config bufs same]
      exact alike_some pri dsp other _ core

theorem report_alike (flag : ReportFlag) (size : Nat) :
    AnswersAlike pri (some (psRegisterReportToTask dsp id flag size)) (some (psRegisterReportToTask other id flag size)) := by
  obtain ⟨kind, status, fe, be, backEnd, algo⟩ := core.entry
  have registered (report given : DspTask → DspTaskReport) (reply : Reply) :
      AnswersAlike pri (some (modifyTask dsp pri fun task => { task with report := report task }, reply))
        (some (modifyTask other pri fun task => { task with report := given task }, reply)) :=
    alike_some pri _ _ _ (core_modify pri dsp other core _ _ ⟨kind, status, fe, be, backEnd, algo⟩ (.inr rfl))
  simp only [psRegisterReportToTask, found, again, core.cmd]
  cases flag with
  | other => exact alike_some pri dsp other _ core
  | release => exact registered (fun task => { task.report with reportId := noReport }) (fun task => { task.report with reportId := noReport }) _
  | setup =>
      cases xrpGetReportBuffer dsp.cmd with
      | none => exact alike_some pri dsp other _ core
      | some buffer =>
          obtain ⟨address, limit⟩ := buffer
          by_cases small : limit < size
          · simp only [if_pos small]
            exact registered (fun task => { task.report with buf := some address, bufSize := limit })
              (fun task => { task.report with buf := some address, bufSize := limit }) _
          · simp only [if_neg small]
            exact registered (fun _ => ⟨BitVec.ofNat 32 id, some address, size⟩) (fun _ => ⟨BitVec.ofNat 32 id, some address, size⟩) _

theorem assgin_alike (config : SwBeConfigPar) (keeps : KeepsResources dsp pri (.beAssginBuf id config))
    (same : KeepsResources other pri (.beAssginBuf id config)) :
    AnswersAlike pri (dspBackendAssginBufHandler dsp id config) (dspBackendAssginBufHandler other id config) := by
  intro next reply done
  have place := core.entry.backEnd
  simp only [dspBackendAssginBufHandler, found, again, place] at done ⊢
  rw [Option.ite_none_left_eq_some] at done
  rw [if_neg done.1]
  obtain ⟨⟨handler, assigned⟩, given, settled⟩ := Option.bind_eq_some_iff.mp done.2
  cases settled
  generalize here : (dsp.tasks pri).be.id = ring at *
  have rings := core.rings ring
  obtain ⟨result, given, numbers⟩ := assgin_ring_alike (dsp.swBe ring) (other.swBe ring) handler config assigned rings
    (by rw [KeepsResources, here] at keeps; exact keeps) (by rw [KeepsResources, place] at same; exact same) given
  simp only [given, Option.bind_eq_bind, Option.bind_some]
  refine ⟨_, rfl, ⟨core.entry, core.live, core.block, core.cmd, fun spot => ?_⟩⟩
  by_cases equal : spot = ring
  · simp only [equal, Function.update_self]
    exact numbers
  · simp only [Function.update_of_ne equal]
    exact core.rings spot

theorem command_alike (command : Command) (asked : command.id = some id) (notFree : command ≠ .taskFree id)
    (keeps : KeepsResources dsp pri command) (same : KeepsResources other pri command)
    (ids : ∀ list slot, taskList dsp pri = some list → listId other.heap list slot = listId dsp.heap list slot) :
    AnswersAlike pri (psCommonCommand dsp command) (psCommonCommand other command) := by
  cases command with
  | taskAlloc => cases asked
  | taskFree =>
      cases asked
      exact absurd rfl notFree
  | taskStart =>
      cases asked
      exact start_alike pri dsp other core _ found again keeps same
  | taskStop =>
      cases asked
      exact stop_alike pri dsp other core _ found again
  | feConfig _ message =>
      cases asked
      exact fe_alike pri dsp other core _ found again message
  | beConfig _ message =>
      cases asked
      exact be_alike pri dsp other core _ found again message keeps same
  | algoConfig _ message env =>
      cases asked
      exact config_alike pri dsp other core _ found again ids message env
  | algoLoad _ algoId env =>
      cases asked
      exact load_alike pri dsp other core _ found again algoId env
  | reportConfig _ flag size =>
      cases asked
      exact report_alike pri dsp other core id found again flag size
  | beAssginBuf _ config =>
      cases asked
      exact assgin_alike pri dsp other core _ found again config keeps same

end CommandsAlike

end CsiDsp
