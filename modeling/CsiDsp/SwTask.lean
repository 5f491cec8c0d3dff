import CsiDsp.Firmware

set_option autoImplicit false

namespace CsiDsp

-- csi_sw_task_req: address is where its buffers lie, and allocatedFm says which
-- of them have the type CSI_DSP_BUF_ALLOC_FM.
structure SwTaskReq where
  bufferNum : UInt16
  settLength : UInt32
  settPtr : Option Nat
  address : Nat
  allocatedFm : Int → Bool

inductive SwReply where
  | none
  | algoInvalid
  | algoErr
deriving DecidableEq, Repr

-- The writes to the last buffer of the request are writes to its in_data.
def fillSwTaskAlgoParam (dsp : Dsp) (param : Option Nat) (request : SwTaskReq) : Dsp :=
  match param with
  | none => dsp
  | some param => writeParam dsp param fun block => { block with
      bufferStructPtr := some request.address
      bufferNum := request.bufferNum.toNat
      setBufPtr := request.settPtr
      setBufSize := request.settLength.toNat }

def swTaskOut (scratch : Scratch) (dsp : Dsp) (task : DspTask) : Option (Dsp × CsiDspBuffer) :=
  if task.type = .swToHw then (beGetNextEntry scratch dsp task.be).map fun (dsp, out, _) => (dsp, out)
  else some (dsp, scratch.out)

-- Whether the back end has an entry is not looked at. The result none is a call
-- through a NULL pointer, or a trap in a driver.
def dspProcessSwTask (scratch : Scratch) (algo : AlgoResult) (dsp : Dsp) (pri : Nat) (request : SwTaskReq) : Option (Dsp × SwReply) := do
  let task := dsp.tasks pri
  let (dsp, out) ← swTaskOut scratch dsp task
  let dsp := fillSwTaskAlgoParam dsp task.algo.param request
  match task.algo.algoProcess, algo with
  | none, _ => some (dsp, .algoInvalid)
  | some _, .failure => some (dsp, .algoErr)
  | some _, .done _ =>
      if task.type = .swToHw then
        let state ← beGetState dsp task.be
        let (dsp, _) ← beEntryStart dsp task.be out
        some (dsp, if state ≠ 0 then .algoErr else .none)
      else some (dsp, .none)

-- The firmware as the host uses it: with commands, and with requests to the
-- software tasks it has allocated.
inductive ServedEvent where
  | firmware (event : FirmwareEvent)
  | request (scratch : Scratch) (algo : AlgoResult) (id : NsId) (request : SwTaskReq)

def servedStep (state : Firmware) : ServedEvent → Option Firmware
  | .firmware event => firmwareStep state event
  | .request scratch algo id request =>
      if state.pc = .other commonPri then
        match commandHandler state.ns.nsMap (some id) with
        | .handler .dspProcessSwTask (some pri) =>
            (dspProcessSwTask scratch algo state.ns.dsp pri request).map fun served =>
              ⟨{ state.ns with dsp := served.1 }, .clear commonPri⟩
        | _ => none
      else none

-- What one step of the firmware in use is.
inductive ServedTaken (state : Firmware) : ServedEvent → Firmware → Prop where
  | loop (event : LoopEvent) (sched : Sched) (moved : loopStep ⟨state.ns.dsp, state.pc⟩ event = some sched) :
      ServedTaken state (.firmware (.loop event)) ⟨{ state.ns with dsp := sched.dsp }, sched.pc⟩
  | command (command : Command) (memory : Option (Nat → XrpCmdNs)) (ns : NsDsp) (reply : Reply)
      (answered : nsCommand state.ns memory command = some (ns, reply)) :
      ServedTaken state (.firmware (.command command memory)) ⟨ns, .clear commonPri⟩
  | heapWrite (cells : Nat → XrpCmdNs) : ServedTaken state (.firmware (.heapWrite cells))
      { state with ns := { state.ns with nsMap := heapWrite state.ns.nsMap cells } }
  | request (scratch : Scratch) (algo : AlgoResult) (id : NsId) (request : SwTaskReq) (pri : Nat) (dsp : Dsp) (reply : SwReply)
      (done : dspProcessSwTask scratch algo state.ns.dsp pri request = some (dsp, reply)) :
      ServedTaken state (.request scratch algo id request) ⟨{ state.ns with dsp := dsp }, .clear commonPri⟩

theorem served_taken (state next : Firmware) (event : ServedEvent) (taken : servedStep state event = some next) :
    ServedTaken state event next := by
  cases event with
  | firmware event =>
      cases event with
      | loop event =>
          obtain ⟨sched, moved, rfl⟩ := Option.map_eq_some_iff.mp taken
          exact .loop event sched moved
      | command command memory =>
          simp only [servedStep, firmwareStep, Option.ite_none_right_eq_some] at taken
          obtain ⟨⟨ns, reply⟩, answered, rfl⟩ := Option.map_eq_some_iff.mp taken.2
          exact .command command memory ns reply answered
      | heapWrite cells =>
          cases taken
          exact .heapWrite cells
  | request scratch algo id request =>
      simp only [servedStep, Option.ite_none_right_eq_some] at taken
      obtain ⟨-, taken⟩ := taken
      split at taken
      · obtain ⟨⟨dsp, reply⟩, done, rfl⟩ := Option.map_eq_some_iff.mp taken
        exact .request scratch algo id request _ dsp reply done
      · cases taken

section Request

variable (scratch : Scratch) (algo : AlgoResult) (dsp next : Dsp) (pri : Nat) (request : SwTaskReq) (reply : SwReply)

theorem hw_frame_places (frame : HwFrame dsp next) : KeepsPlaces pri dsp next :=
  loop_frame_places pri dsp next (hw_loop_frame dsp next frame)

theorem sw_task_out_places (task : DspTask) (out : CsiDspBuffer) (done : swTaskOut scratch dsp task = some (next, out)) :
    KeepsPlaces pri dsp next ∧ next.tasks = dsp.tasks := by
  unfold swTaskOut at done
  split at done
  · obtain ⟨⟨last, buffer, found⟩, given, same⟩ := Option.map_eq_some_iff.mp done
    cases same
    have frame := hw_change_frame dsp next task .getEntry (be_entry_change scratch dsp next task .getEntry out found given)
    exact ⟨hw_frame_places dsp next pri frame, by rw [frame]⟩
  · cases done
    exact ⟨places_same pri dsp dsp rfl rfl rfl, rfl⟩

theorem be_start_places (task : DspTask) (out : CsiDspBuffer) (started : Bool)
    (done : beEntryStart dsp task.be out = some (next, started)) : KeepsPlaces pri dsp next ∧ next.tasks = dsp.tasks := by
  have frame := hw_change_frame dsp next task (.entryStart out) (be_start_change dsp next task _ out started rfl done)
  exact ⟨hw_frame_places dsp next pri frame, by rw [frame]⟩

-- A request works on the parameter block and on the back end of its task only.
theorem sw_task_places (done : dspProcessSwTask scratch algo dsp pri request = some (next, reply)) :
    KeepsPlaces pri dsp next ∧ next.tasks = dsp.tasks := by
  obtain ⟨⟨middle, out⟩, looked, rest⟩ := Option.bind_eq_some_iff.mp done
  obtain ⟨places, tasks⟩ := sw_task_out_places scratch dsp middle pri _ out looked
  have filled : KeepsPlaces pri dsp (fillSwTaskAlgoParam middle (dsp.tasks pri).algo.param request) ∧
      (fillSwTaskAlgoParam middle (dsp.tasks pri).algo.param request).tasks = dsp.tasks := by
    cases (dsp.tasks pri).algo.param with
    | none => exact ⟨places, tasks⟩
    | some param => exact ⟨places_trans pri dsp middle _ places (places_same pri middle _ rfl rfl rfl), tasks⟩
  dsimp only at rest
  split at rest
  · cases rest
    exact filled
  · cases rest
    exact filled
  · split at rest
    · obtain ⟨state, -, rest⟩ := Option.bind_eq_some_iff.mp rest
      obtain ⟨⟨last, started⟩, begun, same⟩ := Option.bind_eq_some_iff.mp rest
      cases same
      obtain ⟨more, kept⟩ := be_start_places _ _ pri (dsp.tasks pri) _ _ begun
      exact ⟨places_trans pri dsp _ _ filled.1 more, kept.trans filled.2⟩
    · cases rest
      exact filled

end Request

-- The back end of a task is a handler of the array, or none has been configured.
def BackEndsKnown (dsp : Dsp) : Prop := ∀ pri, -1 ≤ (dsp.tasks pri).be.id ∧ (dsp.tasks pri).be.id < maxSwBe

section BackEnd

variable (dsp middle next : Dsp) (pri : Nat)

theorem back_ends_modify (change : DspTask → DspTask) (known : BackEndsKnown dsp)
    (own : -1 ≤ (change (dsp.tasks pri)).be.id ∧ (change (dsp.tasks pri)).be.id < maxSwBe) :
    BackEndsKnown (modifyTask dsp pri change) := by
  intro other
  by_cases same : other = pri
  · rw [same, modify_task_same]
    exact own
  · rw [modify_task_other dsp pri other change same]
    exact known other

theorem back_ends_same (known : BackEndsKnown dsp) (tasks : next.tasks = dsp.tasks) : BackEndsKnown next := by
  rw [BackEndsKnown, tasks]
  exact known

theorem back_ends_update (known : BackEndsKnown dsp) : BackEndsKnown (updateTaskStatus dsp pri) :=
  back_ends_modify dsp pri _ known (known pri)

theorem back_ends_algo (known : BackEndsKnown dsp) (work : AlgoEnd pri dsp next) : BackEndsKnown next := by
  have changed (last : Dsp) (before : AlgoWork pri dsp last) : BackEndsKnown last := by
    obtain ⟨algo, heap, rfl⟩ := before
    exact back_ends_same _ _ (back_ends_modify dsp pri (fun task => { task with algo := algo }) known (known pri)) rfl
  rcases work with work | ⟨last, work, rfl⟩
  · exact changed next work
  · exact back_ends_update last pri (changed last work)

theorem back_ends_start (known : BackEndsKnown dsp) (outcome : StartOutcome dsp pri next) : BackEndsKnown next := by
  cases outcome with
  | refused same => exact same ▸ known
  | noHandler isReady null same =>
      subst same
      exact known
  | started isReady present same =>
      subst same
      intro other
      by_cases here : other = pri
      · rw [here, started_task_same]
        exact known pri
      · rw [started_task_other dsp pri other here]
        exact known other

theorem back_ends_stop (known : BackEndsKnown dsp) (outcome : StopOutcome dsp pri next) : BackEndsKnown next := by
  cases outcome with
  | refused same => exact same ▸ known
  | stopped running same =>
      subst same
      exact back_ends_modify (psTaskInterruptDisable dsp pri (dsp.tasks pri).irqNum) pri _ known (known pri)

theorem back_ends_fe (message : FeConfig) (known : BackEndsKnown dsp) (outcome : FeOutcome dsp pri message next) :
    BackEndsKnown next := by
  cases outcome with
  | refused isp vipre same =>
      subst same
      exact known
  | cpu same =>
      subst same
      exact back_ends_update dsp pri known
  | bound isp vipre high line fe check asked valid named bounded same =>
      subst same
      let registered := registerDriver { dsp with isp := isp, vipre := vipre, highPriTask := high } line (driverHandler line)
      have kept : BackEndsKnown registered := known
      exact back_ends_update _ pri (back_ends_modify registered pri _ kept (kept pri))

theorem free_sw_be_small (handlers : Int → SwBeHandler) (id : Nat) (found : freeSwBeId handlers = some id) : id < maxSwBe :=
  List.mem_range.mp (List.mem_of_find?_eq_some found)

theorem back_ends_be (id : Nat) (message : BeConfig) (reply : Reply) (found : dspSearchTaskById dsp id = some pri)
    (known : BackEndsKnown dsp) (done : dspTaskBeConfig dsp id message = some (next, reply)) : BackEndsKnown next := by
  cases be_configured dsp id pri found next reply message done with
  | refused same =>
      rw [same]
      exact known
  | rejected handler same =>
      rw [same]
      exact known
  | host config bufs place heap asked block free given same =>
      have small := free_sw_be_small _ place free
      have kept : BackEndsKnown { dsp with heap := heap, swBe := Function.update dsp.swBe place (swBeStart config
        (dsp.tasks pri).report.buf (dsp.tasks pri).report.bufSize) } := known
      rw [same]
      exact back_ends_update _ pri (back_ends_modify _ pri (fun task => { task with be := ⟨.host, place, some .host⟩ }) kept
        ⟨by dsimp only; omega, by dsimp only; omega⟩)
  | postIsp config handler asked same =>
      have kept : BackEndsKnown (registerDriver { dsp with postIsp := handler } .postIsp .postIsp) := known
      rw [same]
      exact back_ends_update _ pri (back_ends_modify _ pri
        (fun task => { task with be := { task.be with type := .postIsp, ops := some .postIsp } }) kept (kept pri))

theorem back_ends_report (id : Nat) (flag : ReportFlag) (size : Nat) (found : dspSearchTaskById dsp id = some pri)
    (known : BackEndsKnown dsp) : BackEndsKnown (psRegisterReportToTask dsp id flag size).1 := by
  have registered (report : DspTask → DspTaskReport) :
      BackEndsKnown (modifyTask dsp pri fun task => { task with report := report task }) :=
    back_ends_modify dsp pri (fun task => { task with report := report task }) known (known pri)
  rcases report_configured dsp id pri found flag size with same | ⟨report, same⟩
  · rw [same]
    exact known
  · rw [same]
    exact registered report

theorem back_ends_assgin (id : Nat) (config : SwBeConfigPar) (reply : Reply) (found : dspSearchTaskById dsp id = some pri)
    (known : BackEndsKnown dsp) (done : dspBackendAssginBufHandler dsp id config = some (next, reply)) : BackEndsKnown next := by
  simp only [dspBackendAssginBufHandler, found, Option.ite_none_left_eq_some] at done
  obtain ⟨_, -, same⟩ := Option.bind_eq_some_iff.mp done.2
  cases same
  exact known

theorem back_ends_placed (kind : TaskMode) (place count : Nat) (known : BackEndsKnown dsp) :
    BackEndsKnown (placeTask dsp pri (allocatedTask kind (dsp.tasks pri)) place count) := by
  have entry : (allocatedTask kind (dsp.tasks pri)).be.id = (dsp.tasks pri).be.id := by
    rw [allocatedTask]
    split <;> rfl
  have kept := back_ends_modify dsp pri (fun _ => allocatedTask kind (dsp.tasks pri)) known (entry ▸ known pri)
  exact back_ends_same _ _ kept rfl

theorem back_ends_destroyed (id : Nat) (known : BackEndsKnown dsp) (outcome : DestroyOutcome dsp id pri next) : BackEndsKnown next := by
  intro other
  by_cases same : other = pri
  · rw [same, outcome.entry]
    exact known pri
  · rw [outcome.others other same]
    exact known other

theorem back_ends_command (command : Command) (reply : Reply) (names : NamesFaithful dsp) (known : BackEndsKnown dsp)
    (done : psCommonCommand dsp command = some (next, reply)) : BackEndsKnown next := by
  have unknown (id : Nat) (asked : command.id = some id) (missing : dspSearchTaskById dsp id = none) : BackEndsKnown next := by
    rw [unknown_task dsp next command id reply asked missing done]
    exact known
  cases command with
  | taskAlloc mode registered =>
      cases create_outcome dsp next names mode registered reply (Option.some.inj done).symm with
      | refused failed same => exact same ▸ known
      | created kind pri place count wanted inTable free sameClass ready empty below grown bounded answered same =>
          exact same ▸ back_ends_placed dsp pri kind place count known
  | taskFree id =>
      cases found : dspSearchTaskById dsp id with
      | none => exact unknown id rfl found
      | some pri =>
          exact back_ends_destroyed dsp next pri id known (destroy_outcome dsp next pri id found reply (Option.some.inj done).symm)
  | taskStart id =>
      cases found : dspSearchTaskById dsp id with
      | none => exact unknown id rfl found
      | some pri => exact back_ends_start dsp next pri known (start_outcome dsp id pri found _ _ (Option.some.inj done))
  | taskStop id =>
      cases found : dspSearchTaskById dsp id with
      | none => exact unknown id rfl found
      | some pri => exact back_ends_stop dsp next pri known (stop_outcome dsp id pri found _ _ (Option.some.inj done))
  | feConfig id message =>
      cases found : dspSearchTaskById dsp id with
      | none => exact unknown id rfl found
      | some pri => exact back_ends_fe dsp next pri message known (fe_outcome dsp id pri found _ reply message done)
  | beConfig id message =>
      cases found : dspSearchTaskById dsp id with
      | none => exact unknown id rfl found
      | some pri => exact back_ends_be dsp next pri id message reply found known done
  | algoConfig id message env =>
      cases found : dspSearchTaskById dsp id with
      | none => exact unknown id rfl found
      | some pri => exact back_ends_algo dsp next pri known (config_work dsp next id pri reply message env found done).1
  | algoLoad id algoId env =>
      cases found : dspSearchTaskById dsp id with
      | none => exact unknown id rfl found
      | some pri => exact back_ends_algo dsp next pri known (.inl (load_work dsp next id pri reply algoId env found done).1)
  | reportConfig id flag size =>
      cases found : dspSearchTaskById dsp id with
      | none => exact unknown id rfl found
      | some pri =>
          have kept := back_ends_report dsp pri id flag size found known
          rw [Option.some.inj done] at kept
          exact kept
  | beAssginBuf id config =>
      cases found : dspSearchTaskById dsp id with
      | none => exact unknown id rfl found
      | some pri => exact back_ends_assgin dsp next pri id config reply found known done

end BackEnd

-- Behind the namespaces a command is the one of ps_common_command, which a
-- TASK_ALLOC tells whether its namespace has been registered.
theorem ns_command_common (state next : NsDsp) (memory : Option (Nat → XrpCmdNs)) (command : Command) (reply : Reply)
    (done : nsCommand state memory command = some (next, reply)) :
    ∃ given, psCommonCommand state.dsp given = some (next.dsp, reply) ∧
      (given = command ∨ ∃ mode flag registered, command = .taskAlloc mode flag ∧ given = .taskAlloc mode registered) := by
  cases command with
  | taskAlloc mode flag =>
      obtain ⟨registered, same⟩ : ∃ registered, psCreateTask state.dsp mode registered = (next.dsp, reply) := by
        have answered := Option.some.inj done
        rw [nsCreateTask.eq_def] at answered
        cases mode with
        | none =>
            cases answered
            exact ⟨true, rfl⟩
        | some kind =>
            dsimp only at answered
            by_cases software : kind.isSw = true
            · rw [if_pos software] at answered
              cases found : getFreeSwTask state.dsp with
              | none =>
                  rw [found] at answered
                  cases answered
                  exact ⟨true, by simp [psCreateTask, software, found]⟩
              | some pri =>
                  rw [found] at answered
                  cases answered
                  exact ⟨_, rfl⟩
            · rw [if_neg software] at answered
              cases found : getFreeHwTask state.dsp with
              | none =>
                  rw [found] at answered
                  cases answered
                  exact ⟨true, by simp [psCreateTask, software, found]⟩
              | some pri =>
                  rw [found] at answered
                  cases answered
                  exact ⟨true, rfl⟩
      exact ⟨.taskAlloc mode registered, congrArg some same, .inr ⟨mode, flag, registered, rfl, rfl⟩⟩
  | taskFree id =>
      refine ⟨.taskFree id, ?_, .inl rfl⟩
      have answered := Option.some.inj done
      rw [nsDestroyTask] at answered
      cases found : dspSearchTaskById state.dsp id with
      | none =>
          rw [found] at answered
          cases answered
          rfl
      | some pri =>
          rw [found] at answered
          cases answered
          rfl
  | taskStart | taskStop | feConfig | beConfig | algoConfig | algoLoad | reportConfig | beAssginBuf =>
      simp only [nsCommand, Option.map_eq_some_iff] at done
      obtain ⟨⟨dsp, answer⟩, given, same⟩ := done
      cases same
      exact ⟨_, given, .inl rfl⟩

structure ServedInv (state : Firmware) : Prop where
  routing : NsInv state.ns
  known : BackEndsKnown state.ns.dsp

theorem served_step_inv (state next : Firmware) (event : ServedEvent) (inv : ServedInv state)
    (taken : servedStep state event = some next) : ServedInv next := by
  cases served_taken state next event taken with
  | loop event sched moved =>
      have frame := loop_step_frame ⟨state.ns.dsp, state.pc⟩ sched event moved
      exact ⟨firmware_step_inv state _ (.loop event) inv.routing taken, back_ends_same _ _ inv.known (loop_frame_tasks _ _ frame)⟩
  | command command memory ns reply answered =>
      obtain ⟨given, done, -⟩ := ns_command_common state.ns ns memory command reply answered
      exact ⟨firmware_step_inv state _ (.command command memory) inv.routing taken,
        back_ends_command state.ns.dsp ns.dsp given reply inv.routing.names inv.known done⟩
  | heapWrite cells => exact ⟨firmware_step_inv state _ (.heapWrite cells) inv.routing taken, inv.known⟩
  | request scratch algo id request pri dsp reply done =>
      obtain ⟨places, tasks⟩ := sw_task_places scratch algo state.ns.dsp dsp _ request reply done
      exact ⟨kept_owners_inv state.ns inv.routing _ dsp places, back_ends_same _ _ inv.known tasks⟩

theorem init_back_ends (cmd : XrpDspCmd) (payload : ReportItem) : BackEndsKnown (initDsp cmd payload) := by
  intro pri
  have entry : ((initDsp cmd payload).tasks pri).be.id = -1 := by
    simp only [initDsp]
    split
    · rfl
    · split <;> rfl
  rw [entry]
  decide

theorem served_run_inv (cmd : XrpDspCmd) (payload : ReportItem) (cells : Nat → XrpCmdNs) (finish : Firmware)
    (events : List ServedEvent) (ran : Runs.run servedStep (firstBoot cmd payload cells) events = some finish) : ServedInv finish :=
  Runs.run_invariant servedStep ServedInv (fun state event next inv taken => served_step_inv state next event inv taken) _ finish events
    ⟨init_ns_inv cmd payload cells, init_back_ends cmd payload⟩ ran

end CsiDsp
