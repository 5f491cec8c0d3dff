import CsiDsp.LifeRepeat

set_option autoImplicit false

namespace CsiDsp

open Runs Transcript

-- The place dsp_add_task_to_scheduler takes, and the length of the list then.
def nextPlace (dsp : Dsp) : Option (Nat × Nat) :=
  if dsp.taskNum ≥ psMaxTaskType then
    ((List.range dsp.taskNum).find? fun place => dsp.taskHandler place == none).map fun place => (place, dsp.taskNum)
  else some (dsp.taskNum, dsp.taskNum + 1)

section Places

variable (dsp other : Dsp) (pri : Nat)

theorem add_next_place : dspAddTaskToScheduler dsp pri = (nextPlace dsp).map fun next =>
    ({ dsp with taskHandler := Function.update dsp.taskHandler next.1 (some pri), taskNum := next.2 }, next.1) := by
  rw [dspAddTaskToScheduler, nextPlace]
  split
  · cases (List.range dsp.taskNum).find? fun place => dsp.taskHandler place == none <;> rfl
  · rfl

-- The place that TASK_FREE empties is the next one again.
theorem next_place_again (place count : Nat) (bounded : dsp.taskNum ≤ psMaxTaskType) (next : nextPlace dsp = some (place, count))
    (handlers : other.taskHandler = dsp.taskHandler) (left : other.taskNum = if count = place + 1 then count - 1 else count) :
    nextPlace other = some (place, count) := by
  unfold nextPlace at next
  split at next
  · rename_i full
    have number : dsp.taskNum = 16 := Nat.le_antisymm bounded full
    obtain ⟨spot, found, same⟩ := Option.map_eq_some_iff.mp next
    cases same
    rw [number] at left
    by_cases last : 16 = place + 1
    · rw [if_pos last] at left
      rw [nextPlace, left, number, if_neg (by decide), show place = 15 by omega]
    · rw [if_neg last] at left
      rw [nextPlace, left, handlers, ← number, found, if_pos full]
      rfl
  · rename_i room
    cases next
    rw [if_pos rfl] at left
    rw [nextPlace, left, Nat.add_sub_cancel, if_neg room]

theorem next_place_exists (names : NamesFaithful dsp) (inTable : pri < psMaxTaskType) (free : (dsp.tasks pri).status = .free) :
    ∃ place count, nextPlace dsp = some (place, count) ∧ dsp.taskHandler place = none ∧ place < count ∧ dsp.taskNum ≤ count ∧
      count ≤ psMaxTaskType := by
  obtain ⟨place, count, added, room⟩ := add_takes_place dsp pri names inTable (free_unlisted dsp pri names free)
  rw [add_next_place] at added
  obtain ⟨⟨spot, grown⟩, next, same⟩ := Option.map_eq_some_iff.mp added
  have spots : spot = place := congrArg Prod.snd same
  have counts : grown = count := congrArg (fun result => Dsp.taskNum result.1) same
  exact ⟨place, count, by rw [next, spots, counts], room⟩

theorem alloc_entry_found (kind : TaskMode) (found : allocEntry dsp (some kind) = some pri) :
    pri < psMaxTaskType ∧ kind.sameClass (dsp.tasks pri) ∧ (dsp.tasks pri).status = .free := by
  simp only [allocEntry, Option.bind_some] at found
  split at found
  · rename_i software
    obtain ⟨inTable, owned, free⟩ := free_task_found dsp pri _ found
    exact ⟨inTable, (same_class_sw kind software _).mpr owned, free⟩
  · rename_i hardware
    obtain ⟨inTable, owned, free⟩ := free_task_found dsp pri _ found
    exact ⟨inTable, (same_class_hw kind hardware _).mpr owned, free⟩

theorem create_at (kind : TaskMode) (place count : Nat) (found : allocEntry dsp (some kind) = some pri)
    (next : nextPlace dsp = some (place, count)) :
    psCreateTask dsp (some kind) true = (placeTask dsp pri (allocatedTask kind (dsp.tasks pri)) place count, .created place) := by
  have added (tasks : Nat → DspTask) : dspAddTaskToScheduler { dsp with tasks := tasks } pri =
      some ({ dsp with tasks := tasks, taskHandler := Function.update dsp.taskHandler place (some pri), taskNum := count }, place) := by
    rw [add_with_tasks, add_next_place, next]
    rfl
  simp only [allocEntry, Option.bind_some] at found
  by_cases software : kind.isSw = true
  · rw [if_pos software] at found
    simp only [psCreateTask, software, found, if_true, enterTask, modifyTask, added, placeTask, allocatedTask]
  · rw [if_neg software] at found
    simp only [psCreateTask, if_neg software, found, enterTask, modifyTask, added, placeTask, allocatedTask, Function.update_self,
      Function.update_idem]

-- The entry that TASK_ALLOC takes depends on which entries are FREE only.
theorem alloc_entry_alike (mode : Option TaskMode) (names : NamesFaithful dsp) (again : NamesFaithful other)
    (free : ∀ entry, (other.tasks entry).status = .free ↔ (dsp.tasks entry).status = .free) :
    allocEntry other mode = allocEntry dsp mode := by
  have status (entry : Nat) : ((other.tasks entry).status == .free) = ((dsp.tasks entry).status == .free) := by
    rw [Bool.eq_iff_iff, beq_iff_eq, beq_iff_eq]
    exact free entry
  have sw : getFreeSwTask other = getFreeSwTask dsp := by
    simp only [getFreeSwTask, getFreeTask, (again.classes _).2, (names.classes _).2, status]
  have hw : getFreeHwTask other = getFreeHwTask dsp := by
    simp only [getFreeHwTask, getFreeTask, (again.classes _).1, (names.classes _).1, status]
  simp only [allocEntry, sw, hw]

end Places

def FreeAlgo (holds : DspAlgoHandler → Prop) (dsp : Dsp) : Prop := ∀ pri, (dsp.tasks pri).status = .free → holds (dsp.tasks pri).algo

-- A FREE entry names no algorithm.
def FreeBare (dsp : Dsp) : Prop := ∀ pri, (dsp.tasks pri).status = .free → (dsp.tasks pri).algo.algoProcess = none

section FreeAlgo

variable (holds : DspAlgoHandler → Prop) (cleared : holds ⟨-1, none, none⟩)

include cleared

theorem free_algo_command (dsp next : Dsp) (command : Command) (reply : Reply) (names : NamesFaithful dsp) (bare : FreeAlgo holds dsp)
    (done : psCommonCommand dsp command = some (next, reply)) : FreeAlgo holds next := by
  have named (id : Nat) (asked : command.id = some id) (notFree : command ≠ .taskFree id) : FreeAlgo holds next := by
    cases found : dspSearchTaskById dsp id with
    | none =>
        rw [unknown_task dsp next command id reply asked found done]
        exact bare
    | some pri =>
        have places := places_command dsp next command id pri reply asked found notFree done
        have used := (names.slots.placed id pri (search_listed dsp id pri found)).2.2
        intro other free
        by_cases same : other = pri
        · subst same
          exact absurd (places.free.mp free) used
        · rw [places.others other same] at free ⊢
          exact bare other free
  cases command with
  | taskAlloc mode registered =>
      cases create_outcome dsp next names mode registered reply (Option.some.inj done).symm with
      | refused failed same => exact same ▸ bare
      | created kind pri place count wanted inTable free sameClass known empty below grown bounded answered same =>
          subst same
          intro other unused
          by_cases here : other = pri
          · subst here
            simp only [placeTask, Function.update_self, allocatedTask] at unused
            exact absurd unused (entered_used kind _)
          · simp only [placeTask, Function.update_of_ne here] at unused ⊢
            exact bare other unused
  | taskFree id =>
      cases found : dspSearchTaskById dsp id with
      | none =>
          rw [unknown_task dsp next _ id reply rfl found done]
          exact bare
      | some pri =>
          have outcome := destroy_outcome dsp next pri id found reply (Option.some.inj done).symm
          intro other free
          by_cases same : other = pri
          · rw [same, outcome.entry]
            exact cleared
          · rw [outcome.others other same] at free ⊢
            exact bare other free
  | taskStart | taskStop | feConfig | beConfig | algoConfig | algoLoad | reportConfig | beAssginBuf =>
      exact named _ rfl fun same => by cases same

theorem free_algo_step (state next : Firmware) (event : ServedEvent) (inv : ServedInv state) (bare : FreeAlgo holds state.ns.dsp)
    (taken : servedStep state event = some next) : FreeAlgo holds next.ns.dsp := by
  have kept (tasks : next.ns.dsp.tasks = state.ns.dsp.tasks) : FreeAlgo holds next.ns.dsp := by
    rw [FreeAlgo, tasks]
    exact bare
  cases served_taken state next event taken with
  | loop event sched moved => exact kept (loop_frame_tasks _ _ (loop_step_frame ⟨state.ns.dsp, state.pc⟩ sched event moved))
  | command command memory ns reply answered =>
      obtain ⟨given, done, -⟩ := ns_command_common state.ns ns memory command reply answered
      exact free_algo_command holds cleared state.ns.dsp ns.dsp given reply inv.routing.names bare done
  | heapWrite cells => exact bare
  | request scratch algo id request pri dsp reply done =>
      exact kept (sw_task_places scratch algo state.ns.dsp dsp _ request reply done).2

omit cleared in
theorem init_free_algo (cmd : XrpDspCmd) (payload : ReportItem) (unset : holds ⟨0, none, none⟩) :
    FreeAlgo holds (initDsp cmd payload) := by
  intro pri free
  simp only [initDsp, tableEntry] at free ⊢
  split
  · exact unset
  · split <;> exact unset

theorem served_run_free (unset : holds ⟨0, none, none⟩) (cmd : XrpDspCmd) (payload : ReportItem) (cells : Nat → XrpCmdNs)
    (finish : Firmware)
    (events : List ServedEvent) (ran : run servedStep (firstBoot cmd payload cells) events = some finish) :
    ServedInv finish ∧ FreeAlgo holds finish.ns.dsp :=
  run_invariant servedStep (fun state => ServedInv state ∧ FreeAlgo holds state.ns.dsp)
    (fun state event next held taken => ⟨served_step_inv state next event held.1 taken,
      free_algo_step holds cleared state next event held.1 held.2 taken⟩)
    _ finish events ⟨⟨init_ns_inv cmd payload cells, init_back_ends cmd payload⟩, init_free_algo holds cmd payload unset⟩ ran

end FreeAlgo

theorem served_run_bare (cmd : XrpDspCmd) (payload : ReportItem) (cells : Nat → XrpCmdNs) (finish : Firmware)
    (events : List ServedEvent) (ran : run servedStep (firstBoot cmd payload cells) events = some finish) :
    ServedInv finish ∧ FreeBare finish.ns.dsp :=
  served_run_free (fun algo => algo.algoProcess = none) rfl rfl cmd payload cells finish events ran

-- A state of a task's life, with what its commands have left as TASK_ALLOC made it.
structure Living (pri : Nat) (entered state : NsDsp) : Prop where
  inv : NsInv state
  places : KeepsPlaces pri entered.dsp state.dsp
  life : LifeStep pri entered.dsp state.dsp
  nsid : state.nsid = entered.nsid
  nsMap : state.nsMap = entered.nsMap

def enteredNs (state : NsDsp) (kind : TaskMode) (pri place count : Nat) (map : XrpCmdNsMap) : NsDsp :=
  ⟨placeTask state.dsp pri (allocatedTask kind (state.dsp.tasks pri)) place count,
    Function.update state.nsid pri (allocteNsId pri), map⟩

-- The map of namespaces after TASK_ALLOC.
def RegisteredFor (state : NsDsp) (kind : TaskMode) (pri : Nat) (memory : Option (Nat → XrpCmdNs)) (map : XrpCmdNsMap) : Prop :=
  if kind.isSw then xrpRegisterNamespace state.nsMap (swTaskEntry pri) memory = (map, true) else map = state.nsMap

section Alloc

variable (state next : NsDsp) (memory : Option (Nat → XrpCmdNs)) (id pri : Nat)

theorem ns_create_at (kind : TaskMode) (count : Nat) (map : XrpCmdNsMap) (found : allocEntry state.dsp (some kind) = some pri)
    (place : nextPlace state.dsp = some (id, count)) (registered : RegisteredFor state kind pri memory map) :
    nsCreateTask state (some kind) memory = (enteredNs state kind pri id count map, .created id) := by
  have created := create_at state.dsp pri kind id count found place
  simp only [allocEntry, Option.bind_some] at found
  rw [RegisteredFor] at registered
  rw [nsCreateTask.eq_def]
  by_cases software : kind.isSw = true
  · rw [if_pos software] at found registered
    simp only [software, if_true, found, registered, created]
    rfl
  · rw [if_neg software] at found registered
    simp only [if_neg software, found, registered, created]
    rfl

theorem ns_created (names : NamesFaithful state.dsp) (mode : Option TaskMode)
    (done : nsCreateTask state mode memory = (next, .created id)) :
    ∃ kind pri count map, mode = some kind ∧ allocEntry state.dsp mode = some pri ∧ nextPlace state.dsp = some (id, count) ∧
      state.dsp.taskHandler id = none ∧ RegisteredFor state kind pri memory map ∧ next = enteredNs state kind pri id count map := by
  cases mode with
  | none => cases done
  | some kind =>
      have settle (pri : Nat) (map : XrpCmdNsMap) (found : allocEntry state.dsp (some kind) = some pri)
          (registered : RegisteredFor state kind pri memory map) : ∃ kind' pri count map, some kind = some kind' ∧
            allocEntry state.dsp (some kind) = some pri ∧ nextPlace state.dsp = some (id, count) ∧
            state.dsp.taskHandler id = none ∧ RegisteredFor state kind' pri memory map ∧
              next = enteredNs state kind' pri id count map := by
        obtain ⟨inTable, -, free⟩ := alloc_entry_found state.dsp pri kind found
        obtain ⟨place, count, here, empty, -⟩ := next_place_exists state.dsp pri names inTable free
        rw [ns_create_at state memory place pri kind count map found here registered] at done
        cases done
        exact ⟨kind, pri, count, map, rfl, found, here, empty, registered, rfl⟩
      by_cases software : kind.isSw = true
      · cases found : getFreeSwTask state.dsp with
        | none =>
            simp only [nsCreateTask, software, if_true, found, psCreateTask] at done
            cases done
        | some pri =>
            rcases made : xrpRegisterNamespace state.nsMap (swTaskEntry pri) memory with ⟨map, ok⟩
            cases ok with
            | false =>
                simp only [nsCreateTask, software, if_true, found, psCreateTask, made] at done
                cases done
            | true =>
                exact settle pri map (by simp only [allocEntry, Option.bind_some, software, if_true, found])
                  (by rw [RegisteredFor, if_pos software, made])
      · cases found : getFreeHwTask state.dsp with
        | none =>
            simp only [nsCreateTask, if_neg software, found, psCreateTask] at done
            cases done
        | some pri =>
            exact settle pri state.nsMap (by simp only [allocEntry, Option.bind_some, if_neg software, found])
              (by rw [RegisteredFor, if_neg software])

end Alloc

section Work

variable (pri id : Nat) (entered state next : NsDsp) (reply : Reply) (event : HostEvent)

def OwnCommand (id : Nat) (event : HostEvent) : Prop := event.1.id = some id ∧ event.1 ≠ .taskFree id

theorem own_command (own : OwnCommand id event) (done : lifeStep state event = some (next, reply)) :
    ∃ dsp, psCommonCommand state.dsp event.1 = some (dsp, reply) ∧ next = { state with dsp := dsp } := by
  obtain ⟨command, memory⟩ := event
  obtain ⟨asked, notFree⟩ := own
  cases command with
  | taskAlloc => cases asked
  | taskFree =>
      cases asked
      exact absurd rfl notFree
  | taskStart | taskStop | feConfig | beConfig | algoConfig | algoLoad | reportConfig | beAssginBuf =>
      simp only [lifeStep, nsCommand, Option.map_eq_some_iff] at done
      obtain ⟨⟨dsp, answer⟩, given, same⟩ := done
      cases same
      exact ⟨dsp, given, rfl⟩

theorem own_answer (dsp : Dsp) (own : OwnCommand id event) (answered : psCommonCommand state.dsp event.1 = some (dsp, reply)) :
    lifeStep state event = some ({ state with dsp := dsp }, reply) := by
  obtain ⟨command, memory⟩ := event
  obtain ⟨asked, notFree⟩ := own
  cases command with
  | taskAlloc => cases asked
  | taskFree =>
      cases asked
      exact absurd rfl notFree
  | taskStart | taskStop | feConfig | beConfig | algoConfig | algoLoad | reportConfig | beAssginBuf =>
      simp only [lifeStep, nsCommand, answered]
      rfl

theorem own_gives_back (own : OwnCommand id event) (found : dspSearchTaskById state.dsp id = some pri) (gives : GivesBack state event) :
    KeepsResources state.dsp pri event.1 := by
  obtain ⟨command, memory⟩ := event
  obtain ⟨asked, notFree⟩ := own
  cases command with
  | taskAlloc => cases asked
  | taskFree | taskStart | taskStop | feConfig | beConfig | algoConfig | algoLoad | reportConfig | beAssginBuf =>
      exact gives pri (by rw [Command.target, asked]; exact found)

theorem living_found (living : Living pri entered state) (listed : entered.dsp.taskHandler id = some pri) :
    dspSearchTaskById state.dsp id = some pri := by
  rw [search_place state.dsp living.inv.names, living.places.handlers, listed]

theorem living_step (living : Living pri entered state) (listed : entered.dsp.taskHandler id = some pri) (own : OwnCommand id event)
    (gives : GivesBack state event) (done : lifeStep state event = some (next, reply)) : Living pri entered next := by
  have found := living_found pri id entered state living listed
  obtain ⟨dsp, answered, same⟩ := own_command id state next reply event own done
  have places := places_command state.dsp dsp event.1 id pri reply own.1 found own.2 answered
  have life := life_command pri state.dsp dsp event.1 id reply own.1 found own.2 (own_gives_back pri id state event own found gives) answered
  subst same
  exact ⟨kept_owners_inv state living.inv pri dsp places, places_trans pri _ _ _ living.places places,
    life_trans pri _ _ _ living.life life, living.nsid, living.nsMap⟩

theorem living_run (events : List HostEvent) (inv : NsInv entered) (listed : entered.dsp.taskHandler id = some pri)
    (guarded : Guarded (silent lifeStep) GivesBack entered events) (own : ∀ event ∈ events, OwnCommand id event)
    (replies : List Reply) (done : transcript lifeStep entered events = some (state, replies)) : Living pri entered state := by
  refine guarded_run_invariant (silent lifeStep) (fun state event => GivesBack state event ∧ OwnCommand id event) (Living pri entered)
    (fun state event next living guard taken => ?_) entered state events
    ⟨inv, places_same pri _ _ rfl rfl rfl, life_same pri _ _ rfl rfl rfl rfl rfl rfl, rfl, rfl⟩
    (guarded_and (silent lifeStep) GivesBack (OwnCommand id) entered events guarded own)
    (transcript_run lifeStep entered state events replies done)
  obtain ⟨⟨result, reply⟩, given, rfl⟩ := Option.map_eq_some_iff.mp taken
  exact living_step pri id entered state result reply event living listed guard.2 guard.1 given

end Work

-- TASK_FREE gives back the blocks of the task, and leaves the rest alone.
structure FreedBlocks (base : Nat → Bool) (dsp next : Dsp) : Prop where
  live : ∀ block, next.heap.live block = true ↔ base block = true
  ready : next.ready = dsp.ready
  vectors : next.vectors = dsp.vectors
  rings : next.swBe = dsp.swBe
  cmd : next.cmd = dsp.cmd

theorem destroy_freed (base : Nat → Bool) (dsp next : Dsp) (id pri : Nat) (reply : Reply) (found : dspSearchTaskById dsp id = some pri)
    (owns : OwnsExactly base dsp pri) (done : psDestroyTask dsp id = (next, reply)) : FreedBlocks base dsp next := by
  simp only [psDestroyTask, found, releaseTask, modify_modify] at done
  cases done
  have removed : OwnsExactly base (dspRemoveTaskFromScheduler dsp id) pri := owns_same base dsp _ pri owns rfl rfl rfl rfl
  have freed (blocks : List (Option Nat)) (change : DspTask → DspTask)
      (all : ∀ address, address ∈ blocks.filterMap (fun block => block) ↔ address ∈ ownBlocks (dspRemoveTaskFromScheduler dsp id) pri) :
      FreedBlocks base dsp (modifyTask (blocks.foldl freeInDsp (dspRemoveTaskFromScheduler dsp id)) pri change) := by
    have same := (free_in_same (dspRemoveTaskFromScheduler dsp id) blocks).1
    refine ⟨owns_free base _ pri removed blocks all, ?_, ?_, ?_, ?_⟩ <;> rw [same] <;> rfl
  rw [freeAlgoParam]
  cases held : ((dspRemoveTaskFromScheduler dsp id).tasks pri).algo.param with
  | none => exact freed [] _ fun address => by simp [ownBlocks, held]
  | some param =>
      cases hardware : ((dspRemoveTaskFromScheduler dsp id).tasks pri).type.isHw with
      | false =>
          refine freed [some param] _ fun address => ?_
          simp [ownBlocks, held, removed.plain hardware param held]
      | true =>
          refine freed [((dspRemoveTaskFromScheduler dsp id).heap.params param).bufferStructPtr,
            ((dspRemoveTaskFromScheduler dsp id).heap.params param).setBufPtr, some param] _ fun address => ?_
          simp [ownBlocks, held, pointers, eq_comm, or_left_comm, or_comm]

-- What is again as it was before TASK_ALLOC.
structure Returned (pri : Nat) (before after : NsDsp) : Prop where
  inv : NsInv after
  slots : after.dsp.taskHandler = before.dsp.taskHandler
  place : nextPlace after.dsp = nextPlace before.dsp
  others : ∀ other, other ≠ pri → after.dsp.tasks other = before.dsp.tasks other
  free : (after.dsp.tasks pri).status = .free
  bare : (after.dsp.tasks pri).algo.algoProcess = none
  backEnd : (after.dsp.tasks pri).be.id = (before.dsp.tasks pri).be.id
  registered : ∀ entry, after.nsMap.Registered entry ↔ before.nsMap.Registered entry
  count : after.nsMap.nCmdNs = before.nsMap.nCmdNs
  room : before.nsMap.sizeCmdNs ≤ after.nsMap.sizeCmdNs
  rings : ∀ ring, SameRing (before.dsp.swBe ring) (after.dsp.swBe ring)
  cmd : after.dsp.cmd = before.dsp.cmd
  live : after.dsp.heap.live = before.dsp.heap.live

-- TASK_FREE writes nothing into the blocks.
theorem destroy_bufs (state : NsDsp) (id : Nat) : (nsDestroyTask state id).1.dsp.heap.bufs = state.dsp.heap.bufs := by
  rw [nsDestroyTask, psDestroyTask]
  cases dspSearchTaskById state.dsp id with
  | none => rfl
  | some pri =>
      obtain ⟨blocks, same, -⟩ := free_algo_param_blocks pri (dspRemoveTaskFromScheduler state.dsp id)
      have freed : (blocks.foldl freeInDsp (dspRemoveTaskFromScheduler state.dsp id)).heap.bufs = state.dsp.heap.bufs := by
        rw [free_in_contents]
        rfl
      dsimp only
      rw [same]
      exact freed

-- Two lives of the same task, as far as its commands can tell them apart. Each
-- id has been overwritten alike in both, or in neither.
structure AlikeLives (pri : Nat) (entered again state other : NsDsp) : Prop where
  first : Living pri entered state
  second : Living pri again other
  core : SameCore pri state.dsp other.dsp
  ids : ∀ list slot, listId other.dsp.heap list slot = listId state.dsp.heap list slot ∨
    (listId other.dsp.heap list slot = listId again.dsp.heap list slot ∧
      listId state.dsp.heap list slot = listId entered.dsp.heap list slot)

-- The ids that one life has left behind, where it has written any.
def IdsLeft (before after state : NsDsp) : Prop := ∀ list slot,
  listId state.dsp.heap list slot = listId before.dsp.heap list slot ∨
    listId state.dsp.heap list slot = listId after.dsp.heap list slot

-- From when a task has its list, the ids stay as they are to the end of its life.
theorem listed_run (pri id : Nat) (entered state last : NsDsp) (events : List HostEvent) (replies : List Reply) (list : Nat)
    (listed : entered.dsp.taskHandler id = some pri) (living : Living pri entered state) (has : taskList state.dsp pri = some list)
    (guarded : Guarded (silent lifeStep) (fun state event => GivesBack state event ∧ OwnCommand id event) state events)
    (done : transcript lifeStep state events = some (last, replies)) (place slot : Nat) :
    listId last.dsp.heap place slot = listId state.dsp.heap place slot := by
  have reached := guarded_run_invariant (silent lifeStep) (fun state event => GivesBack state event ∧ OwnCommand id event)
    (fun now => Living pri entered now ∧ taskList now.dsp pri = some list ∧
      listId now.dsp.heap place slot = listId state.dsp.heap place slot)
    (fun now event next held guard taken => by
      obtain ⟨alive, stays, same⟩ := held
      obtain ⟨gives, own⟩ := guard
      obtain ⟨⟨result, reply⟩, given, rfl⟩ := Option.map_eq_some_iff.mp taken
      have found := living_found pri id entered now alive listed
      have keeps := own_gives_back pri id now event own found gives
      obtain ⟨dsp, answered, rfl⟩ := own_command id now result reply event own given
      obtain ⟨again, none_⟩ := list_stays now.dsp dsp pri reply id found event.1 own.1 own.2 keeps answered list stays
      have ids := command_ids now.dsp dsp pri reply id found event.1 own.1 own.2 answered place slot
      rw [none_] at ids
      exact ⟨living_step pri id entered now _ reply event alive listed own gives given, again, ids.trans same⟩)
    state last events ⟨living, has, rfl⟩ guarded (transcript_run lifeStep state last events replies done)
  exact reached.2.2

theorem alike_lives_step (pri id : Nat) (entered again last state other next : NsDsp) (event : HostEvent) (rest : List HostEvent)
    (replies : List Reply) (reply : Reply) (firstListed : entered.dsp.taskHandler id = some pri)
    (secondListed : again.dsp.taskHandler id = some pri) (left : IdsLeft entered last again)
    (lives : AlikeLives pri entered again state other)
    (gives : Guarded (silent lifeStep) (fun state event => GivesBack state event ∧ OwnCommand id event) state (event :: rest))
    (same : GivesBack other event ∧ OwnCommand id event) (done : transcript lifeStep state (event :: rest) = some (last, replies))
    (taken : lifeStep state event = some (next, reply)) :
    ∃ result, lifeStep other event = some (result, reply) ∧ AlikeLives pri entered again next result := by
  have target := living_found pri id entered state lives.first firstListed
  have found := living_found pri id again other lives.second secondListed
  obtain ⟨here, own⟩ := gives.1
  have kept := own_gives_back pri id state event own target here
  have keeps := own_gives_back pri id other event own found same.1
  obtain ⟨dsp, answered, rfl⟩ := own_command id state next reply event own taken
  -- A list that the task has now is not written to any more, so the first life
  -- has left its ids behind as they are.
  have ids (list slot : Nat) (has : taskList state.dsp pri = some list) :
      listId other.dsp.heap list slot = listId state.dsp.heap list slot := by
    rcases lives.ids list slot with equal | ⟨second, first⟩
    · exact equal
    · rcases left list slot with untouched | behind
      · exact second.trans (untouched.trans first.symm)
      · exact second.trans (behind.trans
          (listed_run pri id entered state last _ replies list firstListed lives.first has gives done list slot))
  obtain ⟨result, repeated, core⟩ :=
    command_alike pri state.dsp other.dsp lives.core id target found event.1 own.1 own.2 kept keeps ids dsp reply answered
  have step : lifeStep other event = some ({ other with dsp := result }, reply) := own_answer id other reply event result own repeated
  refine ⟨_, step, living_step pri id entered state _ reply event lives.first firstListed own here taken,
    living_step pri id again other _ reply event lives.second secondListed own same.1 step, core, fun list slot => ?_⟩
  have one := command_ids state.dsp dsp pri reply id target event.1 own.1 own.2 answered list slot
  have two := command_ids other.dsp result pri reply id found event.1 own.1 own.2 repeated list slot
  rw [writes_alike _ _ lives.core.entry] at two
  cases written : commandWrites (state.dsp.tasks pri) event.1 list slot with
  | some value =>
      rw [written] at one two
      exact .inl (two.trans one.symm)
  | none =>
      rw [written] at one two
      exact (lives.ids list slot).imp (fun equal => two.trans (equal.trans one.symm)) fun both =>
        ⟨two.trans both.1, one.trans both.2⟩

section Cycle

variable (pri : Nat) (before middle after : NsDsp) (life : LifeCycle)

theorem returned_trans (first : Returned pri before middle) (second : Returned pri middle after) : Returned pri before after :=
  ⟨second.inv, second.slots.trans first.slots, second.place.trans first.place,
    fun other different => (second.others other different).trans (first.others other different), second.free, second.bare,
    second.backEnd.trans first.backEnd, fun entry => (second.registered entry).trans (first.registered entry),
    second.count.trans first.count, Nat.le_trans first.room second.room,
    fun ring => ring_trans _ _ _ (first.rings ring) (second.rings ring), second.cmd.trans first.cmd, second.live.trans first.live⟩

theorem same_resources (free : (before.dsp.tasks pri).status = .free) (returned : Returned pri before after)
    (forgotten : Forgotten after.dsp pri) : SameResources pri before after := by
  refine ⟨returned.slots, fun other => ?_, returned.registered, fun ring => (returned.rings ring).free, returned.live, forgotten⟩
  by_cases same : other = pri
  · rw [same]
    exact iff_of_true returned.free free
  · rw [returned.others other same]

theorem life_split (replies : List Reply) : transcript lifeStep before life.events = some (after, replies) ↔
    ∃ entered first middle between last, lifeStep before life.alloc = some (entered, first) ∧
      transcript lifeStep entered life.work = some (middle, between) ∧ lifeStep middle life.free = some (after, last) ∧
      replies = first :: (between ++ [last]) := by
  rw [LifeCycle.events, transcript_cons]
  constructor
  · rintro ⟨entered, first, others, alloc, rest, rfl⟩
    obtain ⟨middle, between, tail, work, free, rfl⟩ := (transcript_append lifeStep entered after _ _ others).mp rest
    obtain ⟨next, last, none_, freed, done, rfl⟩ := (transcript_cons lifeStep middle after _ _ tail).mp free
    cases done
    exact ⟨entered, first, middle, between, last, alloc, work, freed, rfl⟩
  · rintro ⟨entered, first, middle, between, last, alloc, work, free, rfl⟩
    refine ⟨entered, first, between ++ [last], alloc, (transcript_append lifeStep entered after _ _ _).mpr
      ⟨middle, between, [last], work, (transcript_cons lifeStep middle after _ _ _).mpr ⟨after, last, [], free, rfl, rfl⟩, rfl⟩, rfl⟩

theorem guarded_life (entered : NsDsp) (first : Reply) (between : List Reply)
    (guarded : Guarded (silent lifeStep) GivesBack before life.events) (alloc : lifeStep before life.alloc = some (entered, first))
    (work : transcript lifeStep entered life.work = some (middle, between)) :
    GivesBack before life.alloc ∧ Guarded (silent lifeStep) GivesBack entered life.work ∧ GivesBack middle life.free := by
  have later := guarded.2 entered (by rw [silent, alloc]; rfl)
  obtain ⟨during, last⟩ := (guarded_append (silent lifeStep) GivesBack entered life.work [life.free]).mp later
  exact ⟨guarded.1, during, (last middle (transcript_run lifeStep entered middle life.work between work)).1⟩

theorem life_own : ∀ event ∈ life.work, OwnCommand life.id event := by
  intro event member
  obtain ⟨command, listed, rfl⟩ := List.mem_map.mp member
  exact life.own command listed

-- The new task, before the host has sent a command for it.
theorem entered_bound (kind : TaskMode) (place count : Nat) (map : XrpCmdNsMap) (forgotten : Forgotten before.dsp pri) :
    BoundOnce (enteredNs before kind pri place count map).dsp pri := by
  have entry : (enteredNs before kind pri place count map).dsp.tasks pri = allocatedTask kind (before.dsp.tasks pri) :=
    Function.update_self _ _ _
  have vector : taskVector (allocatedTask kind (before.dsp.tasks pri)) = taskVector (before.dsp.tasks pri) := by
    rw [allocatedTask]
    split <;> rfl
  refine ⟨fun irq linked => absurd linked (forgotten.vectors irq), fun runs => ?_, ?_⟩
  · rw [Running, entry, allocatedTask, enteredTask] at runs
    dsimp only at runs
    split at runs <;> cases runs
  · by_cases inTable : pri < psMaxTaskType
    · rw [taskLink, entry, vector]
      exact forgotten.links pri inTable
    · exact fun linked => inTable (vector_link_in_table _ pri linked)

theorem entered_owns (kind : TaskMode) (place count : Nat) (map : XrpCmdNsMap) :
    OwnsExactly before.dsp.heap.live (enteredNs before kind pri place count map).dsp pri := by
  have entry : (enteredNs before kind pri place count map).dsp.tasks pri = allocatedTask kind (before.dsp.tasks pri) :=
    Function.update_self _ _ _
  have empty : ((enteredNs before kind pri place count map).dsp.tasks pri).algo.param = none := by
    rw [entry]
    rfl
  have own : ownBlocks (enteredNs before kind pri place count map).dsp pri = [] := by simp only [ownBlocks, empty]
  refine ⟨fun block => ?_, fun block member => ?_, fun _ param held => ?_⟩
  · rw [own]
    exact ⟨.inl, fun either => either.resolve_right List.not_mem_nil⟩
  · rw [own] at member
    cases member
  · rw [empty] at held
    cases held

-- The namespaces behind TASK_FREE are those from before the task came.
theorem freed_names (kind : TaskMode) (place count : Nat) (map : XrpCmdNsMap) (memory : Option (Nat → XrpCmdNs)) (last : Reply)
    (inv : NsInv before) (registered : RegisteredFor before kind pri memory map)
    (living : Living pri (enteredNs before kind pri place count map) middle) (found : dspSearchTaskById middle.dsp place = some pri)
    (done : nsDestroyTask middle place = (after, last)) :
    (∀ other, after.nsMap.Registered other ↔ before.nsMap.Registered other) ∧ after.nsMap.nCmdNs = before.nsMap.nCmdNs ∧
      before.nsMap.sizeCmdNs ≤ after.nsMap.sizeCmdNs := by
  have entry : (enteredNs before kind pri place count map).dsp.tasks pri = allocatedTask kind (before.dsp.tasks pri) :=
    Function.update_self _ _ _
  have software : (middle.dsp.tasks pri).type.isSw = kind.isSw := by
    rw [living.places.kind, entry]
    rfl
  have nsid : middle.nsid pri = (swTaskEntry pri).id := by
    rw [living.nsid]
    exact Function.update_self _ _ _
  have map_ : after.nsMap = if kind.isSw = true then (xrpUnregisterNamespace map (swTaskEntry pri).id).1 else map := by
    rw [nsDestroyTask, found] at done
    cases done
    dsimp only
    rw [software, nsid, living.nsMap]
    rfl
  rw [map_]
  rw [RegisteredFor] at registered
  by_cases soft : kind.isSw = true
  · rw [if_pos soft] at registered ⊢
    exact register_unregister before.nsMap inv.sound (swTaskEntry pri) memory map registered
  · rw [if_neg soft] at registered ⊢
    rw [registered]
    exact ⟨fun _ => .rfl, rfl, Nat.le_refl _⟩

-- TASK_FREE behind the commands that keep the resources of the task.
theorem freed_returned (kind : TaskMode) (place count : Nat) (map : XrpCmdNsMap) (memory : Option (Nat → XrpCmdNs)) (last : Reply)
    (inv : NsInv before) (free : (before.dsp.tasks pri).status = .free) (here : nextPlace before.dsp = some (place, count))
    (empty : before.dsp.taskHandler place = none) (registered : RegisteredFor before kind pri memory map)
    (forgotten : Forgotten before.dsp pri) (living : Living pri (enteredNs before kind pri place count map) middle)
    (gives : vectorLink (middle.dsp.vectors (middle.dsp.tasks pri).irqNum) ≠ .node pri)
    (done : nsDestroyTask middle place = (after, last)) : Returned pri before after ∧ Forgotten after.dsp pri := by
  have entry : (enteredNs before kind pri place count map).dsp.tasks pri = allocatedTask kind (before.dsp.tasks pri) :=
    Function.update_self _ _ _
  have listed : (enteredNs before kind pri place count map).dsp.taskHandler place = some pri := Function.update_self _ _ _
  have found := living_found pri place _ middle living listed
  have bound := living.life.bound (entered_bound pri before kind place count map forgotten)
  have owns := living.life.owns _ (entered_owns pri before kind place count map)
  have answered : psDestroyTask middle.dsp place = (after.dsp, last) := by
    rw [nsDestroyTask, found] at done
    cases done
    rfl
  have outcome := destroy_outcome middle.dsp after.dsp pri place found last answered.symm
  have freed := destroy_freed before.dsp.heap.live middle.dsp after.dsp place pri last found owns answered
  have others : ∀ other, other ≠ pri → after.dsp.tasks other = before.dsp.tasks other := fun other different =>
    (outcome.others other different).trans ((living.places.others other different).trans (Function.update_of_ne different _ _))
  have slots : after.dsp.taskHandler = before.dsp.taskHandler := by
    have update : (enteredNs before kind pri place count map).dsp.taskHandler =
      Function.update before.dsp.taskHandler place (some pri) := rfl
    rw [outcome.handlers, living.places.handlers, update, Function.update_idem, ← empty, Function.update_eq_self]
  have count_ : after.dsp.taskNum = if count = place + 1 then count - 1 else count := by
    rw [outcome.count, living.places.count]
    rfl
  have names := freed_names pri before middle after kind place count map memory last inv registered living found done
  have backEnd : (after.dsp.tasks pri).be.id = (before.dsp.tasks pri).be.id := by
    rw [outcome.entry]
    refine living.life.backEnd.trans ?_
    rw [entry, allocatedTask]
    split <;> rfl
  refine ⟨⟨ns_step_inv middle after living.inv (.command (.taskFree place) none) ?_, slots, ?_, others, by rw [outcome.entry],
    by rw [outcome.entry], backEnd, names.1, names.2.1, names.2.2, fun ring => ?_, by rw [freed.cmd, living.life.cmd]; rfl, ?_⟩,
    ⟨?_, fun irq linked => ?_, fun other inTable => ?_⟩⟩
  · rw [nsStep, nsCommand, done]
    rfl
  · exact (next_place_again before.dsp after.dsp place count inv.names.bounded here slots count_).trans here.symm
  · rw [freed.rings]
    exact living.life.rings ring
  · funext block
    rw [Bool.eq_iff_iff]
    exact freed.live block
  · rw [freed.ready, living.life.ready]
    exact forgotten.asleep
  · rw [freed.vectors] at linked
    exact gives (bound.named irq linked ▸ linked)
  · by_cases same : other = pri
    · subst same
      rw [taskLink, outcome.entry]
      exact bound.unlinked
    · rw [taskLink, others other same]
      exact forgotten.links other inTable

-- One life of a task from any state.
theorem life_returned (replies : List Reply) (inv : NsInv before) (done : transcript lifeStep before life.events = some (after, replies))
    (created : replies.head? = some (.created life.id)) (guarded : Guarded (silent lifeStep) GivesBack before life.events) :
    ∃ pri, allocEntry before.dsp life.mode = some pri ∧ (before.dsp.tasks pri).status = .free ∧ Returned pri before after ∧
      Forgotten after.dsp pri := by
  obtain ⟨entered, first, middle, between, last, alloc, work, freed, rfl⟩ := (life_split before after life replies).mp done
  obtain ⟨start, during, finish⟩ := guarded_life before middle life entered first between guarded alloc work
  cases created
  obtain ⟨kind, pri, count, map, mode, found, here, empty, registered, rfl⟩ :=
    ns_created before entered life.memory life.id inv.names life.mode (Option.some.inj alloc)
  have free := (alloc_entry_found before.dsp pri kind (mode ▸ found)).2.2
  have forgotten : Forgotten before.dsp pri := start pri found
  have listed : (enteredNs before kind pri life.id count map).dsp.taskHandler life.id = some pri := Function.update_self _ _ _
  have enteredInv : NsInv (enteredNs before kind pri life.id count map) :=
    ns_step_inv before _ inv (.command (.taskAlloc life.mode true) life.memory) (by
      rw [nsStep, show nsCommand before life.memory (.taskAlloc life.mode true) = _ from alloc]
      rfl)
  have living := living_run pri life.id _ middle life.work enteredInv listed during (life_own life) between work
  have target := living_found pri life.id _ middle living listed
  obtain ⟨returned, forgot⟩ := freed_returned pri before middle after kind life.id count map life.memory last inv free here empty registered
    forgotten living (finish pri target) (Option.some.inj freed)
  exact ⟨pri, found, free, returned, forgot⟩

theorem free_answered (place : Nat) (found : dspSearchTaskById middle.dsp place = some pri) :
    (nsDestroyTask middle place).2 = .status .ok := by
  simp [nsDestroyTask, found, psDestroyTask]

theorem registered_again (kind : TaskMode) (memory : Option (Nat → XrpCmdNs)) (map : XrpCmdNsMap) (inv : NsInv before)
    (returned : Returned pri before after) (registered : RegisteredFor before kind pri memory map) :
    ∃ again, RegisteredFor after kind pri memory again := by
  simp only [RegisteredFor] at registered ⊢
  by_cases software : kind.isSw = true
  · simp only [if_pos software] at registered ⊢
    have first := (registers_iff before.nsMap inv.sound (swTaskEntry pri) memory).mp (by rw [registered])
    have second := (registers_iff after.nsMap returned.inv.sound (swTaskEntry pri) memory).mpr ⟨fun other held =>
      first.1 other ((returned.registered other).mp held), fun full => first.2 ?_⟩
    · exact ⟨(xrpRegisterNamespace after.nsMap (swTaskEntry pri) memory).1, by rw [← second]⟩
    · have room := returned.room
      have count := returned.count
      have fits := inv.sound.room
      omega
  · simp only [if_neg software]
    exact ⟨after.nsMap, rfl⟩

theorem entered_alike (kind : TaskMode) (place count : Nat) (map again : XrpCmdNsMap) (returned : Returned pri before after)
    (bare : (before.dsp.tasks pri).algo.algoProcess = none) :
    SameCore pri (enteredNs before kind pri place count map).dsp (enteredNs after kind pri place count again).dsp := by
  have entry : (enteredNs before kind pri place count map).dsp.tasks pri = allocatedTask kind (before.dsp.tasks pri) :=
    Function.update_self _ _ _
  have same : (enteredNs after kind pri place count again).dsp.tasks pri = allocatedTask kind (after.dsp.tasks pri) :=
    Function.update_self _ _ _
  have backEnd (task : DspTask) : (allocatedTask kind task).be.id = task.be.id := by
    rw [allocatedTask]
    split <;> rfl
  have algo (task : DspTask) (none_ : task.algo.algoProcess = none) : (allocatedTask kind task).algo = ⟨-1, none, none⟩ := by
    rw [allocatedTask]
    split <;> simp [enteredTask, none_]
  refine ⟨?_, returned.live, fun param held => ?_, returned.cmd, returned.rings⟩
  · rw [entry, same]
    exact ⟨rfl, rfl, rfl, rfl, by rw [backEnd, backEnd, returned.backEnd], by rw [algo _ bare, algo _ returned.bare]⟩
  · rw [entry, algo _ bare] at held
    cases held

-- What the host was answered in a first life, it is answered in every later one.
theorem life_again (replies : List Reply) (inv : NsInv before) (bare : FreeBare before.dsp) (returned : Returned pri before middle)
    (done : transcript lifeStep before life.events = some (after, replies)) (created : replies.head? = some (.created life.id))
    (found : allocEntry before.dsp life.mode = some pri) (free : (before.dsp.tasks pri).status = .free)
    (left : IdsLeft before after middle) (guarded : Guarded (silent lifeStep) GivesBack before life.events)
    (alike : Guarded (silent lifeStep) GivesBack middle life.events) :
    ∃ next, transcript lifeStep middle life.events = some (next, replies) ∧ IdsLeft before after next := by
  obtain ⟨entered, first, last, between, final, alloc, work, freed, rfl⟩ := (life_split before after life replies).mp done
  obtain ⟨-, during, -⟩ := guarded_life before last life entered first between guarded alloc work
  cases created
  obtain ⟨kind, entry, count, map, mode, same, here, empty, registered, rfl⟩ :=
    ns_created before entered life.memory life.id inv.names life.mode (Option.some.inj alloc)
  cases found.symm.trans same
  have statuses (other : Nat) : (middle.dsp.tasks other).status = .free ↔ (before.dsp.tasks other).status = .free := by
    by_cases own : other = pri
    · rw [own]
      exact iff_of_true returned.free free
    · rw [returned.others other own]
  have taken := (alloc_entry_alike before.dsp middle.dsp life.mode inv.names returned.inv.names statuses).trans found
  obtain ⟨again, registered⟩ := registered_again pri before middle kind life.memory map inv returned registered
  have made : lifeStep middle life.alloc = some (enteredNs middle kind pri life.id count again, .created life.id) := by
    have answered := ns_create_at middle life.memory life.id pri kind count again (mode ▸ taken) (returned.place.trans here) registered
    rw [lifeStep, LifeCycle.alloc, mode]
    exact congrArg some answered
  have firstListed : (enteredNs before kind pri life.id count map).dsp.taskHandler life.id = some pri := Function.update_self _ _ _
  have nextListed : (enteredNs middle kind pri life.id count again).dsp.taskHandler life.id = some pri := Function.update_self _ _ _
  have entersInv (state next : NsDsp) (held : NsInv state) (taken : lifeStep state life.alloc = some (next, .created life.id)) :
    NsInv next :=
    ns_step_inv state next held (.command (.taskAlloc life.mode true) life.memory) (by
      rw [nsStep, show nsCommand state life.memory (.taskAlloc life.mode true) = _ from taken]
      rfl)
  have fresh (state : NsDsp) (held : NsInv state) : Living pri state state :=
    ⟨held, places_same pri _ _ rfl rfl rfl, life_same pri _ _ rfl rfl rfl rfl rfl rfl, rfl, rfl⟩
  have secondDuring := (alike.2 _ (by rw [silent, made]; rfl))
  obtain ⟨secondDuring, -⟩ := (guarded_append (silent lifeStep) GivesBack _ life.work [life.free]).mp secondDuring
  have lives : AlikeLives pri (enteredNs before kind pri life.id count map) (enteredNs middle kind pri life.id count again)
      (enteredNs before kind pri life.id count map) (enteredNs middle kind pri life.id count again) :=
    ⟨fresh _ (entersInv before _ inv alloc), fresh _ (entersInv middle _ returned.inv made),
      entered_alike pri before middle kind life.id count map again returned (bare pri free), fun _ _ => .inr ⟨rfl, rfl⟩⟩
  have freedBufs : after.dsp.heap.bufs = last.dsp.heap.bufs := by
    rw [← destroy_bufs last life.id, show nsDestroyTask last life.id = (after, final) from Option.some.inj freed]
  have workLeft : IdsLeft (enteredNs before kind pri life.id count map) last (enteredNs middle kind pri life.id count again) := by
    intro list slot
    have either := left list slot
    rw [show listId after.dsp.heap list slot = listId last.dsp.heap list slot by rw [listId, listId, freedBufs]] at either
    exact either
  obtain ⟨reached, ran, ended⟩ := transcript_simulated lifeStep (fun state event => GivesBack state event ∧ OwnCommand life.id event) _
    last (fun state other event rest outputs next reply related gives same done taken => alike_lives_step pri life.id _ _ last state other
      next event rest outputs reply firstListed nextListed workLeft related gives same done taken) _ _ life.work between lives (guarded_and (silent lifeStep) GivesBack (OwnCommand life.id) _ life.work during (life_own life))
    (guarded_and (silent lifeStep) GivesBack (OwnCommand life.id) _ life.work secondDuring (life_own life)) work
  have target := living_found pri life.id _ last ended.first firstListed
  have other := living_found pri life.id _ reached ended.second nextListed
  refine ⟨(nsDestroyTask reached life.id).1, (life_split middle _ life _).mpr ⟨_, _, reached, between, final, made, ran, ?_, rfl⟩,
    fun list slot => ?_⟩
  · have answer : final = .status .ok := by
      rw [← free_answered pri last life.id target]
      exact congrArg Prod.snd (Option.some.inj freed).symm
    rw [answer, ← free_answered pri reached life.id other]
    rfl
  · simp only [listId, destroy_bufs, freedBufs]
    rcases ended.ids list slot with equal | ⟨second, -⟩
    · exact .inr equal
    · rw [show ((reached.dsp.heap.bufs list slot).bufId) = listId middle.dsp.heap list slot from second]
      have either := left list slot
      simp only [listId, freedBufs] at either
      exact either

-- A life that has been lived once can be lived again, and ends the same way.
theorem life_once (replies : List Reply) (inv : NsInv before) (bare : FreeBare before.dsp) (returned : Returned pri before middle)
    (done : transcript lifeStep before life.events = some (after, replies)) (created : replies.head? = some (.created life.id))
    (found : allocEntry before.dsp life.mode = some pri) (free : (before.dsp.tasks pri).status = .free)
    (left : IdsLeft before after middle) (guarded : Guarded (silent lifeStep) GivesBack before life.events)
    (alike : Guarded (silent lifeStep) GivesBack middle life.events) :
    ∃ next, transcript lifeStep middle life.events = some (next, replies) ∧ Returned pri before next ∧ Forgotten next.dsp pri ∧
      IdsLeft before after next := by
  obtain ⟨next, lived, behind⟩ :=
    life_again pri before middle after life replies inv bare returned done created found free left guarded alike
  obtain ⟨entry, taken, -, further, forgets⟩ := life_returned middle next life replies returned.inv lived created alike
  have statuses (other : Nat) : (middle.dsp.tasks other).status = .free ↔ (before.dsp.tasks other).status = .free := by
    by_cases own : other = pri
    · rw [own]
      exact iff_of_true returned.free free
    · rw [returned.others other own]
  have same := alloc_entry_alike before.dsp middle.dsp life.mode inv.names returned.inv.names statuses
  cases Option.some.inj (taken.symm.trans (same.trans found))
  exact ⟨next, lived, returned_trans pri before middle next returned further, forgets, behind⟩

end Cycle

-- A task that takes nothing TASK_FREE will not give back leaves the firmware
-- as it was, and can be had again with the same commands any number of times.
theorem freed_task_gives_back (cmd : XrpDspCmd) (payload : ReportItem) (cells : Nat → XrpCmdNs) (start : Firmware)
    (events : List ServedEvent) (reached : run servedStep (firstBoot cmd payload cells) events = some start) (life : LifeCycle)
    (last : NsDsp) (replies : List Reply) (lived : transcript lifeStep start.ns life.events = some (last, replies))
    (created : replies.head? = some (.created life.id)) (count : Nat)
    (keeps : Guarded (silent lifeStep) GivesBack start.ns (List.replicate (count + 1) life.events).flatten) :
    ∃ pri final, allocEntry start.ns.dsp life.mode = some pri ∧ SameResources pri start.ns final ∧
      transcript lifeStep start.ns (List.replicate (count + 1) life.events).flatten =
        some (final, (List.replicate (count + 1) replies).flatten) := by
  obtain ⟨served, bare⟩ := served_run_bare cmd payload cells start events reached
  have inv := served.routing
  have once : Guarded (silent lifeStep) GivesBack start.ns life.events := by
    rw [List.replicate_succ, List.flatten_cons] at keeps
    exact ((guarded_append (silent lifeStep) GivesBack start.ns life.events _).mp keeps).1
  obtain ⟨pri, found, free, -, -⟩ := life_returned start.ns last life replies inv lived created once
  have returned : Returned pri start.ns start.ns :=
    ⟨inv, rfl, rfl, fun _ _ => rfl, free, bare pri free, rfl, fun _ => .rfl, rfl, Nat.le_refl _, fun _ => ring_same _, rfl, rfl⟩
  obtain ⟨final, ran, back, forgot, -⟩ := transcript_repeated lifeStep GivesBack
    (fun state => Returned pri start.ns state ∧ Forgotten state.dsp pri ∧ IdsLeft start.ns last state) life.events replies
    (fun state again guard =>
      life_once pri start.ns state last life replies inv bare again.1 lived created found free again.2.2 once guard)
    start.ns ⟨returned, once.1 pri found, fun _ _ => .inl rfl⟩ (count + 1) keeps
  exact ⟨pri, final, found, same_resources pri start.ns final free back forgot, ran⟩

instance (message : FeConfig) : Decidable message.Rejected :=
  match message with
  | .cpu | .illegal => .isTrue trivial
  | .isp _ => inferInstanceAs (Decidable (_ ∨ _ = _))
  | .vipre _ => inferInstanceAs (Decidable (_ = _))

instance (dsp : Dsp) (pri : Nat) : Decidable (Forgotten dsp pri) :=
  decidable_of_iff (isReady dsp.ready pri = false ∧
      (∀ irq ∈ [Irq.unused, .isp0, .isp1, .vipre, .postIsp, .xrp], vectorLink (dsp.vectors irq) ≠ .node pri) ∧
      ∀ other < psMaxTaskType, taskLink dsp other ≠ .node pri)
    ⟨fun both => ⟨both.1, fun irq => both.2.1 irq (by cases irq <;> decide), both.2.2⟩,
      fun forgotten => ⟨forgotten.asleep, fun irq _ => forgotten.vectors irq, forgotten.links⟩⟩

instance (dsp : Dsp) (pri : Nat) (message : AlgoConfigPar) (env : AlgoEnv) : Decidable (ConfigKeepsBlocks dsp pri message env) :=
  match held : (dsp.tasks pri).algo.param with
  | none => decidable_of_iff (env.paramBlock = none ∨ env.library.blocks = []) (by simp only [ConfigKeepsBlocks, held])
  | some param => decidable_of_iff (((dsp.tasks pri).algo.algoProcess ≠ none ∧ message.algoPtr = 0 ∧ message.algoId = -1) ∨
      env.library.blocks = [] ∧ (pointers (dsp.heap.params param) = [] ∨ env.load.map Prod.snd = some 0))
      (by simp only [ConfigKeepsBlocks, held])

instance (dsp : Dsp) (pri : Nat) (command : Command) : Decidable (KeepsResources dsp pri command) :=
  match command with
  | .taskFree _ => inferInstanceAs (Decidable (_ ≠ _))
  | .taskStart _ => inferInstanceAs (Decidable (_ = _ → _ ≠ _ ∧ _ ≠ _))
  | .feConfig _ _ => inferInstanceAs (Decidable (_ = _ → _ = _ ∨ _))
  | .beConfig _ (.host _ _) => inferInstanceAs (Decidable (_ = _ ∨ _ = _))
  | .algoConfig _ message env => inferInstanceAs (Decidable (ConfigKeepsBlocks dsp pri message env))
  | .algoLoad _ _ _ => inferInstanceAs (Decidable (_ = _ ∧ _ ∧ (_ ∨ _)))
  | .beAssginBuf _ _ => inferInstanceAs (Decidable (_ < _ ∨ _ = _))
  | .taskAlloc _ _ | .taskStop _ | .beConfig _ (.postIsp _) | .beConfig _ .illegal | .reportConfig _ _ _ => .isTrue trivial

def decideTarget (target : Option Nat) (keeps : Nat → Prop) [∀ pri, Decidable (keeps pri)] :
    Decidable (∀ pri, target = some pri → keeps pri) :=
  match target with
  | none => .isTrue fun _ missing => by cases missing
  | some pri => decidable_of_iff (keeps pri) ⟨fun kept _ same => Option.some.inj same ▸ kept, fun all => all pri rfl⟩

instance (state : NsDsp) (event : HostEvent) : Decidable (GivesBack state event) :=
  match event with
  | (.taskAlloc mode _, _) => decideTarget (allocEntry state.dsp mode) (Forgotten state.dsp)
  | (.taskFree _, _) | (.taskStart _, _) | (.taskStop _, _) | (.feConfig _ _, _) | (.beConfig _ _, _) | (.algoConfig _ _ _, _)
  | (.algoLoad _ _ _, _) | (.reportConfig _ _ _, _) | (.beAssginBuf _ _, _) => decideTarget _ _

-- A task between the ISP and the post ISP that is configured, run and stopped,
-- with an overlay for its algorithm.
def ispToPostIsp : LifeCycle where
  mode := some .hwToHw
  memory := none
  id := 2
  commands := [.feConfig 2 (.isp (smallIspConfig 512)), .beConfig 2 (.postIsp (smallIspConfig 512)),
    .algoConfig 2 ⟨0, 0, 0, 0, 0, 0⟩ { blocksEnv 200 (7, 2) (some 300) with library := .overlay (some (7, 2)) },
    .algoConfig 2 ⟨-1, 0, 0, 0, 1, 1⟩ (blocksEnv 200 (7, 2) none), .taskStart 2, .taskStop 2]
  own := by simp [Command.id]

def bootNs : NsDsp := (firstBoot anyCmd anyReport zeroCells).ns

theorem freed_task_gives_back_twice : ∃ pri final, allocEntry bootNs.dsp ispToPostIsp.mode = some pri ∧ SameResources pri bootNs final ∧
    transcript lifeStep bootNs (List.replicate 2 ispToPostIsp.events).flatten = some (final,
      (List.replicate 2 ((transcript lifeStep bootNs ispToPostIsp.events).get (by decide)).2).flatten) :=
  freed_task_gives_back anyCmd anyReport zeroCells (firstBoot anyCmd anyReport zeroCells) [] rfl ispToPostIsp
    ((transcript lifeStep bootNs ispToPostIsp.events).get (by decide)).1 _ (Option.eq_some_of_isSome (by decide))
    (by decide) 1 (by decide +kernel)

-- A task with buffers of the host keeps its place among the back ends.
def hostTask : LifeCycle where
  mode := some .hwToSw
  memory := none
  id := 2
  commands := [.beConfig 2 (.host ⟨3, fun _ => zeroBuffer⟩ (some 100))]
  own := by simp [Command.id]

theorem back_end_not_given_back : ¬ ∀ (cmd : XrpDspCmd) (payload : ReportItem) (cells : Nat → XrpCmdNs) (start : Firmware)
    (events : List ServedEvent) (life : LifeCycle) (last : NsDsp) (replies : List Reply),
    run servedStep (firstBoot cmd payload cells) events = some start →
    transcript lifeStep start.ns life.events = some (last, replies) → replies.head? = some (.created life.id) →
    ∃ pri, allocEntry start.ns.dsp life.mode = some pri ∧ SameResources pri start.ns last := by
  intro claim
  obtain ⟨pri, -, same⟩ := claim anyCmd anyReport zeroCells (firstBoot anyCmd anyReport zeroCells) [] hostTask
    ((transcript lifeStep bootNs hostTask.events).get (by decide)).1 ((transcript lifeStep bootNs hostTask.events).get (by decide)).2
    rfl (Option.eq_some_of_isSome (by decide)) (by decide)
  exact absurd ((same.rings 0).mpr (by decide)) (by decide)

end CsiDsp
