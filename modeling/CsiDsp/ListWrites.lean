import CsiDsp.LifeCycle

set_option autoImplicit false

namespace CsiDsp

open CInt

-- The ids in the lists of buffers: what an update of a list is answered depends
-- on them, and a list that ALGO_LOAD brings still holds what lay there before.
def listId (heap : Heap) (address slot : Nat) : UInt8 := (heap.bufs address slot).bufId

def taskList (dsp : Dsp) (pri : Nat) : Option Nat :=
  (dsp.tasks pri).algo.param.bind fun param => (dsp.heap.params param).bufferStructPtr

-- The ids that taking a list writes.
def listWrites (message : AlgoConfigPar) (env : AlgoEnv) (descNum address slot : Nat) : Option UInt8 :=
  if env.bufsBlock ≠ some address then none
  else if ¬ ListRefused message env ∧ message.bufsPtr ≠ 0 ∧ message.bufNum.toNat ≠ 0 ∧ extraBufStartIndex ≤ slot ∧
      slot < extraBufStartIndex + message.bufNum.toNat then
    some (env.bufs (slot - extraBufStartIndex)).bufId
  else if slot < descNum then some 0
  else none

def configWrites (hw : Bool) (message : AlgoConfigPar) (env : AlgoEnv) (address slot : Nat) : Option UInt8 :=
  match env.load with
  | none => none
  | some (_, descNum) => if hw = true ∧ descNum ≠ 0 then listWrites message env descNum address slot else none

-- What a command for the task writes to the ids, wherever it is sent.
def commandWrites (task : DspTask) : Command → Nat → Nat → Option UInt8
  | .algoConfig _ message env, address, slot =>
      match task.algo.param with
      | none => if env.paramBlock = none then none else configWrites task.type.isHw message env address slot
      | some _ =>
          if task.algo.algoProcess ≠ none ∧ message.algoPtr = 0 ∧ message.algoId = -1 then none
          else configWrites task.type.isHw message env address slot
  | _, _, _ => none

theorem malloc_bufs (heap grown : Heap) (block : Option Nat) (given : malloc heap block = some grown) : grown.bufs = heap.bufs := by
  rw [malloc_same heap grown block given]

theorem library_bufs (heap full : Heap) (library : Loader) (brought : loadLibrary heap library = some full) : full.bufs = heap.bufs := by
  rw [(load_library_live heap full library brought).1]

theorem modify_task_algo (dsp : Dsp) (pri : Nat) (change : DspTask → DspTask)
    (same : (change (dsp.tasks pri)).algo = (dsp.tasks pri).algo) :
    ((modifyTask dsp pri change).tasks pri).algo = (dsp.tasks pri).algo := by
  rw [modify_task_same, same]

section Writes

variable (dsp next : Dsp) (pri param : Nat) (message : AlgoConfigPar) (env : AlgoEnv) (reply : Reply)

theorem drop_param_bufs (blocks : List (Option Nat)) : (dropParam dsp pri param blocks).heap.bufs = dsp.heap.bufs := by
  have same : (dropParam dsp pri param blocks).heap = ((blocks ++ [some param]).foldl freeInDsp dsp).heap := by
    rw [drop_param_eq]
    rfl
  rw [same, free_in_contents]

theorem settings_bufs (took : Bool) (done : takeSettings dsp pri param message env = some (next, took)) :
    next.heap.bufs = dsp.heap.bufs ∧
      (took = true ∧ ¬ (message.settPtr ≠ 0 ∧ message.settLength ≠ 0 ∧ env.setBlock = none) ∧
          (next.heap.params param).bufferStructPtr = (dsp.heap.params param).bufferStructPtr ∨
        took = false ∧ message.settPtr ≠ 0 ∧ message.settLength ≠ 0 ∧ env.setBlock = none) := by
  unfold takeSettings at done
  split at done
  · rename_i asked
    obtain ⟨heap, given, rest⟩ := Option.bind_eq_some_iff.mp done
    have same := malloc_same _ _ _ given
    have bufs : heap.bufs = dsp.heap.bufs := by rw [same]
    have params : heap.params = dsp.heap.params := by rw [same]
    cases block : env.setBlock with
    | none =>
        rw [block] at rest
        cases rest
        exact ⟨(drop_param_bufs _ pri param _).trans bufs, .inr ⟨rfl, asked.1, asked.2, rfl⟩⟩
    | some address =>
        rw [block] at rest
        cases rest
        refine ⟨bufs, .inl ⟨rfl, fun refused => (by cases refused.2.2), ?_⟩⟩
        simp [writeSettings, params]
  · rename_i plain
    cases done
    exact ⟨rfl, .inl ⟨rfl, fun refused => plain ⟨refused.1, refused.2.1⟩, rfl⟩⟩

theorem buffers_ids (bufs : Nat → AlgoBuffer) (took : (takeBuffers dsp param message bufs).2 = true) (address slot : Nat)
    (pointed : (dsp.heap.params param).bufferStructPtr = some address) (other : Nat) :
    listId (takeBuffers dsp param message bufs).1.heap other slot =
      if other = address ∧ message.bufsPtr ≠ 0 ∧ message.bufNum.toNat ≠ 0 ∧ extraBufStartIndex ≤ slot ∧
        slot < extraBufStartIndex + message.bufNum.toNat then (bufs (slot - extraBufStartIndex)).bufId
      else listId dsp.heap other slot := by
  unfold takeBuffers at took ⊢
  dsimp only at took ⊢
  split
  · rename_i unasked
    rw [if_neg fun both => unasked.elim both.2.1 both.2.2.1]
  · rename_i asked
    rw [if_neg asked] at took
    obtain ⟨pointer, number⟩ := not_or.mp asked
    split
    · rw [pointed, Option.getD_some]
      by_cases same : other = address
      · subst same
        simp only [listId, writeBufs, Function.update_self, true_and]
        by_cases inside : extraBufStartIndex ≤ slot ∧ slot < extraBufStartIndex + message.bufNum.toNat
        · rw [if_pos inside, if_pos ⟨pointer, number, inside⟩]
        · rw [if_neg inside, if_neg fun both => inside both.2.2]
      · simp [listId, writeBufs, same]
    · rename_i less
      rw [if_neg less] at took
      cases took

theorem buffer_list_ids (descNum : Nat) (done : takeBufferList dsp pri param message env descNum = some (next, reply))
    (address slot : Nat) :
    listId next.heap address slot = (listWrites message env descNum address slot).getD (listId dsp.heap address slot) := by
  obtain ⟨heap, given, rest⟩ := Option.bind_eq_some_iff.mp done
  have bufs := malloc_bufs _ _ _ given
  have content := write_param_same { dsp with heap := heap } param
    fun block => { block with bufferNum := descNum, bufferStructPtr := env.bufsBlock }
  have same : (writeParam { dsp with heap := heap } param
      fun block => { block with bufferNum := descNum, bufferStructPtr := env.bufsBlock }).heap.bufs = dsp.heap.bufs := bufs
  generalize (writeParam { dsp with heap := heap } param
    fun block => { block with bufferNum := descNum, bufferStructPtr := env.bufsBlock }) = list at rest content same
  cases block : env.bufsBlock with
  | none =>
      rw [block] at rest
      cases rest
      simp only [listWrites, block, listId, drop_param_bufs, same]
      rfl
  | some place =>
      rw [block] at rest content
      obtain ⟨⟨settled, took⟩, settings, rest⟩ := Option.bind_eq_some_iff.mp rest
      obtain ⟨kept, ways⟩ := settings_bufs _ settled pri param message env took settings
      have cleared : listId settled.heap address slot =
          if address = place ∧ slot < descNum then 0 else listId dsp.heap address slot := by
        rw [listId, kept]
        by_cases there : address = place
        · subst there
          simp only [writeBufs, Function.update_self, true_and]
          split
          · rfl
          · rw [same]
            rfl
        · rw [if_neg fun both => there both.1, listId, ← same]
          simp only [writeBufs, Function.update_of_ne there]
      rcases ways with ⟨rfl, granted, pointed⟩ | ⟨rfl, refused⟩
      · simp only [Bool.true_eq_false, if_false] at rest
        split at rest
        · cases rest
        · rename_i fits
          cases rest
          have ids := buffers_ids settled param message env.bufs (by simpa using fits) place slot
            (pointed.trans (congrArg AlgoParam.bufferStructPtr content)) address
          have accepted : ¬ ListRefused message env := by
            rintro (missing | refused)
            · rw [block] at missing
              cases missing
            · exact granted refused
          refine ids.trans ?_
          rw [cleared, listWrites, block]
          by_cases there : address = place
          · subst there
            simp only [ne_eq, not_true_eq_false, if_false, true_and, accepted, not_false_eq_true]
            split
            · rfl
            · split <;> rfl
          · rw [if_neg fun both => there both.1, if_neg fun both => there both.1,
              if_pos fun both => there (Option.some.inj both).symm]
            rfl
      · cases rest
        rw [cleared, listWrites, block, if_neg (fun both : ¬ ListRefused message env ∧ _ => both.1 (.inr refused))]
        by_cases there : address = place
        · subst there
          simp only [ne_eq, not_true_eq_false, if_false, true_and]
          split <;> rfl
        · rw [if_neg fun both => there both.1, if_pos fun both => there (Option.some.inj both).symm]
          rfl

theorem load_config_ids (done : dspTaskAlgoLoadConfig dsp pri param message env = some (next, reply)) (address slot : Nat) :
    listId next.heap address slot =
      (configWrites (dsp.tasks pri).type.isHw message env address slot).getD (listId dsp.heap address slot) := by
  unfold dspTaskAlgoLoadConfig at done
  rw [configWrites]
  cases loaded : env.load with
  | none =>
      simp only [loaded] at done
      cases done
      exact congrArg (fun bufs => (bufs address slot).bufId) (drop_param_bufs (setAlgo dsp pri message.algoId none) pri param [])
  | some result =>
      obtain ⟨process, descNum⟩ := result
      simp only [loaded] at done
      dsimp only
      have kind : ((writeParam (setAlgo dsp pri message.algoId (some process)) param fun block =>
          { block with bufDescNum := descNum }).tasks pri).type = (dsp.tasks pri).type := by simp [setAlgo]
      have bufs : (writeParam (setAlgo dsp pri message.algoId (some process)) param fun block =>
          { block with bufDescNum := descNum }).heap.bufs = dsp.heap.bufs := rfl
      generalize (writeParam (setAlgo dsp pri message.algoId (some process)) param fun block =>
        { block with bufDescNum := descNum }) = middle at done kind bufs
      rw [kind] at done
      split at done
      · rename_i software
        cases done
        rw [if_neg fun both => absurd (software.symm.trans both.1) (by decide)]
        exact congrArg (fun bufs => (bufs address slot).bufId) bufs
      · rename_i hardware
        split at done
        · rename_i zero
          cases done
          rw [if_neg fun both => both.2 zero]
          exact congrArg (fun bufs => (bufs address slot).bufId) bufs
        · rename_i some_bufs
          rw [if_pos ⟨by simpa using hardware, some_bufs⟩, buffer_list_ids middle next pri param message env reply descNum done]
          rw [listId, listId, bufs]

theorem update_ids (done : dspTaskAlgoUpdate dsp param message env = some (next, reply)) (address slot : Nat) :
    listId next.heap address slot = listId dsp.heap address slot := by
  obtain ⟨updated, taken, -⟩ := algo_update_parts dsp next param message env reply done
  generalize here : (updateSettings dsp (dsp.heap.params param) message env.settings).1 = settled at taken
  have bufs : settled.heap.bufs = dsp.heap.bufs := by
    rw [← here]
    rfl
  rw [show listId dsp.heap address slot = listId settled.heap address slot by rw [listId, listId, bufs]]
  cases list : (dsp.heap.params param).bufferStructPtr with
  | none =>
      simp only [updateBufs, list] at taken
      split at taken
      · cases taken
        rfl
      · split at taken <;> cases taken
        rfl
  | some place =>
      simp only [updateBufs, list] at taken
      cases taken
      by_cases there : address = place
      · subst there
        simp only [listId, writeBufs, Function.update_self, dspTaskAlgoBufUpdate]
        split
        · rfl
        · split
          · rfl
          · exact update_buffers_ids _ _ slot
      · simp [listId, writeBufs, there]

variable (id : Nat) (found : dspSearchTaskById dsp id = some pri)

include found

-- The other commands for a task leave its algorithm and the lists alone.
theorem plain_command (command : Command) (asked : command.id = some id) (plain : command.isAlgo = false)
    (done : psCommonCommand dsp command = some (next, reply)) :
    next.heap.bufs = dsp.heap.bufs ∧ next.heap.params = dsp.heap.params ∧ (next.tasks pri).algo = (dsp.tasks pri).algo := by
  cases command with
  | taskAlloc | taskFree | algoConfig | algoLoad => cases plain
  | taskStart =>
      cases asked
      cases start_outcome dsp _ pri found _ _ (Option.some.inj done) with
      | refused same => exact same ▸ ⟨rfl, rfl, rfl⟩
      | noHandler isReady null same => exact same ▸ ⟨rfl, rfl, rfl⟩
      | started isReady present same =>
          subst same
          exact ⟨rfl, rfl, by rw [started_task_same]⟩
  | taskStop =>
      cases asked
      cases stop_outcome dsp _ pri found _ _ (Option.some.inj done) with
      | refused same => exact same ▸ ⟨rfl, rfl, rfl⟩
      | stopped running same =>
          subst same
          exact ⟨rfl, rfl, modify_task_algo (psTaskInterruptDisable dsp pri (dsp.tasks pri).irqNum) pri _ rfl⟩
  | feConfig _ message =>
      cases asked
      cases fe_outcome dsp _ pri found next reply message done with
      | refused isp vipre same => exact same ▸ ⟨rfl, rfl, rfl⟩
      | cpu same =>
          subst same
          exact ⟨rfl, rfl, modify_task_algo dsp pri _ rfl⟩
      | bound isp vipre high line fe check asked valid named known same =>
          subst same
          refine ⟨rfl, rfl, ?_⟩
          simp only [updateTaskStatus, modify_task_same]
          rfl
  | beConfig _ message =>
      cases asked
      cases be_configured dsp _ pri found next reply message done with
      | refused same => exact same ▸ ⟨rfl, rfl, rfl⟩
      | rejected handler same => exact same ▸ ⟨rfl, rfl, rfl⟩
      | host config bufs place heap asked block free given same =>
          subst same
          refine ⟨malloc_bufs _ _ _ given, (malloc_live _ _ _ given).1, ?_⟩
          simp only [updateTaskStatus, modify_task_same]
      | postIsp config handler asked same =>
          subst same
          refine ⟨rfl, rfl, ?_⟩
          simp only [updateTaskStatus, modify_task_same]
          rfl
  | reportConfig _ flag size =>
      cases asked
      have answered := congrArg Prod.fst (Option.some.inj done)
      rcases report_configured dsp id pri found flag size with same | ⟨report, same⟩
      · rw [← show _ = next from answered, same]
        exact ⟨rfl, rfl, rfl⟩
      · rw [← show _ = next from answered, same]
        exact ⟨rfl, rfl, modify_task_algo dsp pri _ rfl⟩
  | beAssginBuf _ config =>
      cases asked
      simp only [psCommonCommand, dspBackendAssginBufHandler, found, Option.ite_none_left_eq_some] at done
      obtain ⟨⟨handler, assigned⟩, given, same⟩ := Option.bind_eq_some_iff.mp done.2
      cases same
      exact ⟨rfl, rfl, rfl⟩

theorem config_ids (done : dspTaskAlgoConfig dsp id message env = some (next, reply)) (address slot : Nat) :
    listId next.heap address slot =
      (commandWrites (dsp.tasks pri) (.algoConfig id message env) address slot).getD (listId dsp.heap address slot) := by
  rw [commandWrites]
  cases config_way dsp id pri found next reply message env done with
  | starved held asked same =>
      simp only [held, asked]
      rw [same]
      rfl
  | fresh heap full param held asked given brought loaded =>
      have kind : ((takeParam dsp pri full param).tasks pri).type = (dsp.tasks pri).type := by simp [takeParam, setParam]
      have bufs : (takeParam dsp pri full param).heap.bufs = dsp.heap.bufs :=
        (library_bufs heap full env.library brought).trans (malloc_bufs dsp.heap heap _ given)
      simp only [held, asked, reduceCtorEq, if_false]
      rw [load_config_ids _ next pri param message env reply loaded, kind, listId, listId, bufs]
  | updated param held update written =>
      simp only [held, if_pos update]
      exact update_ids dsp next param message env reply written address slot
  | again full param held other brought loaded =>
      simp only [held, if_neg other]
      rw [load_config_ids _ next pri param message env reply loaded, listId, listId, library_bufs dsp.heap full env.library brought]

theorem load_bufs (algoId : Int) (done : csiDspTaskAlgoLoad dsp id algoId env = some (next, reply)) :
    next.heap.bufs = dsp.heap.bufs := by
  have started (heap full : Heap) (param : Nat) (given : malloc dsp.heap (some param) = some heap)
      (brought : loadLibrary heap env.library = some full) : full.bufs = dsp.heap.bufs :=
    (library_bufs heap full env.library brought).trans (malloc_bufs dsp.heap heap _ given)
  cases load_way dsp id pri found next reply algoId env done with
  | starved asked same answer =>
      rw [same]
      rfl
  | unloaded heap full param asked given brought missing same answer =>
      rw [same]
      exact started heap full param given brought
  | plain heap full param process descNum asked given brought loaded few same answer =>
      rw [same]
      exact started heap full param given brought
  | unlisted heap full grown param process descNum asked given brought loaded hardware many missing more same answer =>
      rw [same]
      exact (malloc_bufs _ grown _ more).trans (started heap full param given brought)
  | listed heap full grown param process descNum bufs asked given brought loaded hardware many list more same answer =>
      rw [same]
      exact (malloc_bufs _ grown _ more).trans (started heap full param given brought)

-- Every command for the task overwrites the ids that commandWrites names, and no others.
theorem command_ids (command : Command) (asked : command.id = some id) (notFree : command ≠ .taskFree id)
    (done : psCommonCommand dsp command = some (next, reply)) (address slot : Nat) :
    listId next.heap address slot = (commandWrites (dsp.tasks pri) command address slot).getD (listId dsp.heap address slot) := by
  have plain (other : command.isAlgo = false) (none_ : commandWrites (dsp.tasks pri) command address slot = none) :
      listId next.heap address slot = (commandWrites (dsp.tasks pri) command address slot).getD (listId dsp.heap address slot) := by
    rw [none_, listId, (plain_command dsp next pri reply id found command asked other done).1]
    rfl
  cases command with
  | taskAlloc => cases asked
  | taskFree =>
      cases asked
      exact absurd rfl notFree
  | algoConfig _ message env =>
      cases asked
      exact config_ids dsp next pri message env reply _ found done address slot
  | algoLoad _ algoId env =>
      cases asked
      rw [listId, load_bufs dsp next pri env reply _ found algoId done]
      rfl
  | taskStart | taskStop | feConfig | beConfig | reportConfig | beAssginBuf => exact plain rfl rfl

-- A task that has a list keeps it, and nothing more is written to the ids.
theorem list_stays (command : Command) (asked : command.id = some id) (notFree : command ≠ .taskFree id)
    (keeps : KeepsResources dsp pri command) (done : psCommonCommand dsp command = some (next, reply)) (list : Nat)
    (listed : taskList dsp pri = some list) :
    taskList next pri = some list ∧ ∀ address slot, commandWrites (dsp.tasks pri) command address slot = none := by
  have plain (other : command.isAlgo = false) : taskList next pri = some list := by
    obtain ⟨-, params, algo⟩ := plain_command dsp next pri reply id found command asked other done
    rw [taskList, params, algo]
    exact listed
  obtain ⟨param, held, pointed⟩ := Option.bind_eq_some_iff.mp listed
  cases command with
  | taskAlloc => cases asked
  | taskFree =>
      cases asked
      exact absurd rfl notFree
  | algoLoad _ algoId env =>
      have empty := held.symm.trans keeps.1
      cases empty
  | algoConfig _ message env =>
      cases asked
      have keeps_ : ConfigKeepsBlocks dsp pri message env := keeps
      simp only [ConfigKeepsBlocks, held] at keeps_
      cases config_way dsp _ pri found next reply message env done with
      | starved empty => exact absurd (held.symm.trans empty) (by simp)
      | fresh heap full other empty => exact absurd (held.symm.trans empty) (by simp)
      | updated other same update written =>
          obtain ⟨settings, bufs, rfl⟩ := algo_update_same dsp next other message env reply written
          exact ⟨listed, fun address slot => by simp only [commandWrites, held, if_pos update]⟩
      | again full other same fresh brought loaded =>
          cases held.symm.trans same
          obtain ⟨-, bare⟩ := keeps_.resolve_left fresh
          have zero : env.load.map Prod.snd = some 0 := bare.resolve_left fun empty => by simp [pointers, pointed] at empty
          obtain ⟨⟨process, descNum⟩, known, named⟩ := Option.map_eq_some_iff.mp zero
          cases show descNum = 0 from named
          refine ⟨?_, fun address slot => by simp [commandWrites, held, fresh, configWrites, known]⟩
          have params := congrArg Heap.params (load_library_live dsp.heap full env.library brought).1
          have block : (full.params param).bufferStructPtr = some list := by
            rw [show full.params = dsp.heap.params from params]
            exact pointed
          simp only [dspTaskAlgoLoadConfig, known] at loaded
          split at loaded
          · cases loaded
            simp [taskList, updateTaskStatus, setAlgo, modifyTask, held, writeParam, block]
          · cases loaded
            simp [taskList, setAlgo, modifyTask, held, writeParam, block]
  | taskStart | taskStop | feConfig | beConfig | reportConfig | beAssginBuf => exact ⟨plain rfl, fun _ _ => rfl⟩

end Writes

end CsiDsp
