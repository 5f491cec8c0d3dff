import CsiDsp.NsRouting

set_option autoImplicit false

namespace CsiDsp

-- What the host sends to the common command. A negative task id makes
-- dsp_search_task_by_id read in front of task_handler.
inductive HostRequest where
  | command (command : Command) (memory : Option (Nat → XrpCmdNs))
  | negativeId (id : Int) (negative : id < 0)
  | heapWrite (cells : Nat → XrpCmdNs)

-- A request that does not reach ps_common_command is answered without a
-- handler. The result none stands for what the C code leaves undefined.
def channelStep (state : NsDsp) (request : HostRequest) : Option NsDsp :=
  match commandHandler state.nsMap (some xrpPsNsidCommonCmd), request with
  | _, .heapWrite cells => some { state with nsMap := heapWrite state.nsMap cells }
  | .handler .psCommonCommand _, .command command memory => (nsCommand state memory command).map Prod.fst
  | .handler .psCommonCommand _, .negativeId _ _ => none
  | .handler _ _, _ => none
  | .noNamespace, _ | .runCommand, _ => some state

-- No TASK_FREE names one of the two tasks of the firmware itself, and no id is
-- negative.
def SparesBuiltIn : HostRequest → Prop
  | .command (.taskFree id) _ => id ≠ 0 ∧ id ≠ 1
  | .negativeId _ _ => False
  | _ => True

structure ChannelAlive (state : NsDsp) : Prop where
  commonUsed : (state.dsp.tasks 3).status ≠ .free
  commonRuns : (state.dsp.tasks 3).taskPro = some .xrp
  commonListed : state.dsp.taskHandler 0 = some 3
  registered : state.nsMap.Registered commonEntry
  idleUsed : (state.dsp.tasks 15).status ≠ .free
  idleRuns : (state.dsp.tasks 15).taskPro = some .idle
  idleListed : state.dsp.taskHandler 1 = some 15
  dispatched : commandHandler state.nsMap (some xrpPsNsidCommonCmd) = .handler .psCommonCommand none

-- A task of the firmware itself: its id, its entry and the function it runs.
structure BuiltIn (state : NsDsp) (id pri : Nat) (pro : TaskPro) (nsid : NsId) : Prop where
  listed : state.dsp.taskHandler id = some pri
  runs : (state.dsp.tasks pri).taskPro = some pro
  named : state.nsid pri = nsid

section BuiltIn

variable (state next : NsDsp) (inv : NsInv state) (id pri : Nat) (pro : TaskPro) (nsid : NsId) (task : BuiltIn state id pri pro nsid)

include inv task

theorem built_in_used : (state.dsp.tasks pri).status ≠ .free := (inv.names.slots.placed id pri task.listed).2.2

theorem built_in_create (outcome : NsCreateOutcome state next) : BuiltIn next id pri pro nsid := by
  have used := built_in_used state inv id pri pro nsid task
  cases outcome with
  | refused same => exact same ▸ task
  | named other free same =>
      have apart : pri ≠ other := fun here => used (here ▸ free)
      rw [same]
      exact ⟨task.listed, task.runs, (Function.update_of_ne apart _ _).trans task.named⟩
  | created kind other place count inTable free sameClass empty names sound registered same =>
      have apart : pri ≠ other := fun here => used (here ▸ free)
      have elsewhere : id ≠ place := by
        intro here
        have listed := task.listed
        rw [here, empty] at listed
        cases listed
      rw [same]
      refine ⟨(Function.update_of_ne elsewhere _ _).trans task.listed, ?_, (Function.update_of_ne apart _ _).trans task.named⟩
      simp only [placeTask, Function.update_of_ne apart]
      exact task.runs

theorem built_in_destroy (freed : Nat) (other : freed ≠ id) : BuiltIn (nsDestroyTask state freed).1 id pri pro nsid := by
  rw [nsDestroyTask]
  cases found : dspSearchTaskById state.dsp freed with
  | none =>
      have same : (psDestroyTask state.dsp freed).1 = state.dsp := by simp [psDestroyTask, found]
      simp only [same]
      exact task
  | some owner =>
      have outcome := destroy_outcome state.dsp (psDestroyTask state.dsp freed).1 owner freed found (psDestroyTask state.dsp freed).2 rfl
      dsimp only
      generalize (psDestroyTask state.dsp freed).1 = dsp at outcome
      have apart : pri ≠ owner := by
        rintro rfl
        exact other (inv.names.slots.single freed id pri (search_listed state.dsp freed pri found) task.listed)
      refine ⟨?_, ?_, task.named⟩
      · rw [outcome.handlers, Function.update_of_ne (Ne.symm other), task.listed]
      · rw [outcome.others pri apart, task.runs]

omit inv in
theorem built_in_kept (other : Nat) (dsp : Dsp) (work : KeepsPlaces other state.dsp dsp) :
    BuiltIn { state with dsp := dsp } id pri pro nsid := by
  refine ⟨work.handlers ▸ task.listed, ?_, task.named⟩
  by_cases same : pri = other
  · subst same
    exact work.pro.trans task.runs
  · simp only [work.others pri same]
    exact task.runs

theorem built_in_command (command : Command) (spared : command ≠ .taskFree id) (memory : Option (Nat → XrpCmdNs)) (reply : Reply)
    (done : nsCommand state memory command = some (next, reply)) : BuiltIn next id pri pro nsid := by
  cases ns_command_outcome state next inv command memory reply done with
  | kept other dsp work same => exact same ▸ built_in_kept state id pri pro nsid task other dsp work
  | alloc mode registered asked outcome => exact built_in_create state next inv id pri pro nsid task outcome
  | free freed asked same =>
      exact same ▸ built_in_destroy state inv id pri pro nsid task freed fun here => spared (here ▸ asked)

end BuiltIn

structure ChannelInv (state : NsDsp) : Prop where
  routing : NsInv state
  common : BuiltIn state 0 3 .xrp xrpPsNsidCommonCmd
  idle : BuiltIn state 1 15 .idle zeroNsId

theorem channel_alive_of_inv (state : NsDsp) (inv : ChannelInv state) : ChannelAlive state := by
  obtain ⟨routing, common, idle⟩ := inv
  have used := built_in_used state routing 0 3 .xrp _ common
  have registered := (routing.entries commonEntry).mpr (.inr ⟨⟨used, common.named⟩, rfl⟩)
  exact ⟨used, common.runs, common.listed, registered, built_in_used state routing 1 15 .idle _ idle, idle.runs, idle.listed,
    dispatch_registered state.nsMap routing.sound commonEntry registered⟩

theorem channel_step_inv (state next : NsDsp) (request : HostRequest) (inv : ChannelInv state) (spares : SparesBuiltIn request)
    (taken : channelStep state request = some next) : ChannelInv next := by
  have dispatched := (channel_alive_of_inv state inv).dispatched
  obtain ⟨routing, common, idle⟩ := inv
  simp only [channelStep, dispatched] at taken
  cases request with
  | heapWrite cells =>
      cases taken
      exact ⟨heap_write_inv state routing cells, ⟨common.listed, common.runs, common.named⟩, ⟨idle.listed, idle.runs, idle.named⟩⟩
  | negativeId id negative => cases taken
  | command command memory =>
      obtain ⟨⟨result, reply⟩, done, rfl⟩ := Option.map_eq_some_iff.mp taken
      have apart : command ≠ .taskFree 0 ∧ command ≠ .taskFree 1 := by
        constructor <;> (rintro rfl; simp [SparesBuiltIn] at spares)
      exact ⟨ns_step_inv state result routing (.command command memory) (by simp [nsStep, done]),
        built_in_command state result routing 0 3 .xrp _ common command apart.1 memory reply done,
        built_in_command state result routing 1 15 .idle _ idle command apart.2 memory reply done⟩

theorem init_channel_inv (cmd : XrpDspCmd) (payload : ReportItem) (cells : Nat → XrpCmdNs) : ChannelInv (initNsDsp cmd payload cells) :=
  ⟨init_ns_inv cmd payload cells, ⟨rfl, rfl, rfl⟩, ⟨rfl, rfl, rfl⟩⟩

-- Common commands that spare the ids 0 and 1 leave the channel they came on.
theorem command_channel_alive (cmd : XrpDspCmd) (payload : ReportItem) (cells : Nat → XrpCmdNs) (finish : NsDsp)
    (requests : List HostRequest) (spares : ∀ request ∈ requests, SparesBuiltIn request)
    (ran : Runs.run channelStep (initNsDsp cmd payload cells) requests = some finish) : ChannelAlive finish :=
  channel_alive_of_inv finish (Runs.guarded_run_invariant channelStep (fun _ request => SparesBuiltIn request) ChannelInv
    (fun state request next inv spared taken => channel_step_inv state next request inv spared taken)
    _ finish requests (init_channel_inv cmd payload cells)
    (Runs.guarded_of_forall channelStep _ _ requests fun request member _ => spares request member) ran)

-- A software task is allocated and freed again.
theorem command_channel_alive_used : ChannelAlive ((Runs.run channelStep (initNsDsp anyCmd anyReport zeroCells)
    [.command (.taskAlloc (some .swToSw) true) none, .command (.taskFree 2) none]).get (by decide)) :=
  command_channel_alive anyCmd anyReport zeroCells _ _ (by simp [SparesBuiltIn]) (Option.some_get _).symm

-- The host frees the common task with the command that arrives through it.
theorem command_channel_destroyed : ¬ ∀ (cmd : XrpDspCmd) (payload : ReportItem) (cells : Nat → XrpCmdNs) (finish : NsDsp)
    (requests : List HostRequest), Runs.run channelStep (initNsDsp cmd payload cells) requests = some finish → ChannelAlive finish := by
  intro claim
  let requests : List HostRequest := [.command (.taskFree 0) none]
  have alive := claim anyCmd anyReport zeroCells
    ((Runs.run channelStep (initNsDsp anyCmd anyReport zeroCells) requests).get (by decide)) requests (Option.some_get _).symm
  exact alive.commonUsed (by decide)

end CsiDsp
