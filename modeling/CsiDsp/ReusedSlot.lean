import CsiDsp.CommandEffects

set_option autoImplicit false

namespace CsiDsp

open Runs Transcript Chain

inductive HostAnswer where
  | command (reply : Reply)
  | request (reply : SwReply)
deriving DecidableEq, Repr

-- What the host and the tasks can tell of a step: the answer to the host, the
-- task the loop is with, and the ready bits.
structure Observation where
  answer : Option HostAnswer
  task : Option Nat
  ready : ReadyTable

def answerOf (state : Firmware) : ServedEvent → Option HostAnswer
  | .firmware (.command command memory) => (nsCommand state.ns memory command).map fun answered => .command answered.2
  | .firmware _ => none
  | .request scratch algo id request =>
      match commandHandler state.ns.nsMap (some id) with
      | .handler .dspProcessSwTask (some pri) =>
          (dspProcessSwTask scratch algo state.ns.dsp pri request).map fun served => .request served.2
      | _ => none

def observedStep (state : Firmware) (event : ServedEvent) : Option (Firmware × Observation) :=
  (servedStep state event).map fun next => (next, ⟨answerOf state event, next.pc.task, next.ns.dsp.ready⟩)

-- The entry of the slot as it is written in the source.
def restored (state : Firmware) (slot : Nat) : Firmware := { state with ns := { state.ns with
  dsp := coverEntry slot (fun _ => tableEntry slot) state.ns.dsp
  nsid := Function.update state.ns.nsid slot zeroNsId } }

-- Nothing that TASK_ALLOC leaves in the entry is of use to the next task: no
-- interrupt leads to it, and it has no check and no back end. A hardware entry
-- waits for no turn of the loop, and a software entry has no line, no function
-- to run and no back end of hardware.
structure SlotFresh (state : Firmware) (slot : Nat) : Prop where
  apart : ¬ Leads state.ns.dsp slot
  place : state.pc.task ≠ some slot
  be : (state.ns.dsp.tasks slot).be.id = -1 ∧ (state.ns.dsp.tasks slot).be.ops = none
  check : (state.ns.dsp.tasks slot).emptyCheck = none
  hardware : (state.ns.dsp.tasks slot).type.isHw = true →
    isReady state.ns.dsp.ready slot = false ∧ state.ns.dsp.highPriTask ≠ slot
  software : (state.ns.dsp.tasks slot).type.isHw = false → (state.ns.dsp.tasks slot).irqNum = .unused ∧
    (state.ns.dsp.tasks slot).fe.id = -1 ∧ (state.ns.dsp.tasks slot).fe.ops = none ∧
    (state.ns.dsp.tasks slot).taskPro = none ∧ (state.ns.dsp.tasks slot).type ≠ .swToHw

structure ServedSound (state : Firmware) : Prop where
  served : ServedInv state
  chains : ChainsPresent state.ns.dsp
  loop : LoopSound ⟨state.ns.dsp, state.pc⟩

section Sound

variable (state next : Firmware) (sound : ServedSound state)

include sound

-- Behind the namespaces and the common task, a command has its effect on the tables.
theorem answered_effect (memory : Option (Nat → XrpCmdNs)) (command : Command) (ns : NsDsp) (reply : Reply)
    (answered : nsCommand state.ns memory command = some (ns, reply)) :
    ∃ given, CommandEffect state.ns.dsp given reply ns.dsp ∧ given.id = command.id ∧
      ((∀ mode flag, command ≠ .taskAlloc mode flag) → given = command) := by
  obtain ⟨given, done, same⟩ := ns_command_common state.ns ns memory command reply answered
  refine ⟨given, command_effect state.ns.dsp ns.dsp given reply sound.served.routing.names sound.chains.vectors done, ?_, fun other => ?_⟩
  · rcases same with rfl | ⟨mode, flag, registered, rfl, rfl⟩ <;> rfl
  · rcases same with same | ⟨mode, flag, registered, asked, -⟩
    · exact same
    · exact absurd asked (other mode flag)

theorem effect_loop_sound (given : Command) (reply : Reply) (dsp : Dsp) (effect : CommandEffect state.ns.dsp given reply dsp) :
    LoopSound ⟨dsp, .clear commonPri⟩ := by
  have ready := effect_ready state.ns.dsp dsp given reply effect
  refine ⟨ready ▸ sound.loop.agree, fun pri found => ?_, ?_⟩
  · cases found
    decide
  · rcases effect_named state.ns.dsp dsp given reply effect with same | ⟨pri, missing | ⟨other, id, same, listed, -⟩⟩
    · exact same ▸ sound.loop.known
    · exact missing ▸ (by decide)
    · have placed := (sound.served.routing.names.slots.placed id other listed).1
      rw [same]
      exact Int.ofNat_lt.mpr placed

theorem chains_same (dsp : Dsp) (tasks : dsp.tasks = state.ns.dsp.tasks) (vectors : dsp.vectors = state.ns.dsp.vectors) :
    ChainsPresent dsp := by
  refine ⟨fun irq => ?_, fun pri running => ?_⟩
  · rw [vectors]
    exact sound.chains.vectors irq
  · rw [Running, tasks] at running
    rw [tasks]
    exact sound.chains.links pri running

theorem sound_step (event : ServedEvent) (taken : servedStep state event = some next) : ServedSound next := by
  have served := served_step_inv state next event sound.served taken
  have limit : commonPri < 64 := by decide
  cases served_taken state next event taken with
  | loop event sched moved =>
      have frame := loop_step_frame ⟨state.ns.dsp, state.pc⟩ sched event moved
      exact ⟨served, chains_same state sound sched.dsp (loop_frame_tasks _ _ frame) (loop_frame_vectors _ _ frame),
        loop_sound_step ⟨state.ns.dsp, state.pc⟩ sched event sound.loop moved⟩
  | command command memory ns reply answered =>
      obtain ⟨given, effect, -⟩ := answered_effect state sound memory command ns reply answered
      exact ⟨served, effect_present state.ns.dsp ns.dsp given reply effect sound.chains,
        effect_loop_sound state sound given reply ns.dsp effect⟩
  | heapWrite cells => exact ⟨served, sound.chains, sound.loop⟩
  | request scratch algo id request pri dsp reply done =>
      have keeps := request_keeps _ state.ns.dsp scratch algo request dsp reply done
      refine ⟨served, chains_same state sound dsp keeps.tasks keeps.vectors, keeps.ready ▸ sound.loop.agree, fun other found => ?_,
        keeps.named ▸ sound.loop.known⟩
      cases found
      exact limit

end Sound

theorem init_sound (cmd : XrpDspCmd) (payload : ReportItem) (cells : Nat → XrpCmdNs) : ServedSound (firstBoot cmd payload cells) := by
  refine ⟨⟨init_ns_inv cmd payload cells, init_back_ends cmd payload⟩, ⟨fun irq => ?_, fun pri running => ?_⟩,
    ⟨groups_agree_set _ _ groups_agree_zero, fun pri found => (by cases found), show (-1 : Int) < psMaxTaskType from by decide⟩⟩
  · cases irq <;> exact Handler.noConfusion
  · have idle : ((initDsp cmd payload).tasks pri).status ≠ .runing := by
      simp only [initDsp]
      split
      · exact TaskStatus.noConfusion
      · split <;> exact TaskStatus.noConfusion
    exact absurd running idle

theorem served_run_sound (cmd : XrpDspCmd) (payload : ReportItem) (cells : Nat → XrpCmdNs) (finish : Firmware) (events : List ServedEvent)
    (ran : run servedStep (firstBoot cmd payload cells) events = some finish) : ServedSound finish :=
  run_invariant servedStep ServedSound (fun state event next sound taken => sound_step state next sound event taken) _ finish events
    (init_sound cmd payload cells) ran

-- What SlotFresh asks of the entry itself.
structure FreshEntry (slot : Nat) (task : DspTask) : Prop where
  free : task.status = .free
  sameClass : task.type.isHw = (tableEntry slot).type.isHw ∧ task.type.isSw = (tableEntry slot).type.isSw
  algo : task.algo.param = none ∧ task.algo.algoProcess = none
  be : task.be.id = -1 ∧ task.be.ops = none
  check : task.emptyCheck = none
  software : task.type.isHw = false → task.irqNum = .unused ∧ task.fe.id = -1 ∧ task.fe.ops = none ∧ task.taskPro = none ∧
    task.type ≠ .swToHw

-- How the two runs may differ in the entry of the slot: while it is not used
-- again, until its front end is configured, until it is started, and no more.
inductive Phase (state : Sched) (slot : Nat) : (DspTask → DspTask) → Prop where
  | unused (unlinked : Unlinked state.dsp slot) (asleep : Asleep state slot) (fresh : FreshEntry slot (state.dsp.tasks slot)) :
      Phase state slot fun _ => tableEntry slot
  | unbound (id : Int) (ops : Option FeOps) (line : Irq) (handler : Handler) (arg : Int) (unlinked : Unlinked state.dsp slot)
      (asleep : Asleep state slot) (unbound : Unbound (state.dsp.tasks slot)) : Phase state slot (frontVeil id ops line handler arg)
  | linked (handler : Handler) (arg : Int) (unlinked : Unlinked state.dsp slot) : Phase state slot (linkVeil handler arg)
  | same : Phase state slot fun task => task

@[simp] theorem cover_nothing (slot : Nat) (dsp : Dsp) : coverEntry slot (fun task => task) dsp = dsp := by
  simp [coverEntry, modifyTask]

section Leads

variable (dsp next : Dsp) (tasks : next.tasks = dsp.tasks) (vectors : next.vectors = dsp.vectors) (enabled : next.enabled = dsp.enabled)

include tasks vectors enabled

theorem leads_same (name : Nat) (leads : Leads next name) : Leads dsp name := by
  have links (pri : Nat) : taskLink next pri = taskLink dsp pri := by rw [taskLink, taskLink, tasks]
  induction leads with
  | vector irq name on link => exact .vector irq name (enabled ▸ on) (vectors ▸ link)
  | running other name runs link =>
      rw [Running, tasks] at runs
      exact .running other name runs (links other ▸ link)
  | linked other name before link ih => exact .linked other name ih (links other ▸ link)

theorem unlinked_same (slot : Nat) (unlinked : Unlinked dsp slot) : Unlinked next slot := by
  refine ⟨fun leads => unlinked.apart (leads_same dsp next tasks vectors enabled slot leads), ?_⟩
  rw [Running, tasks]
  exact unlinked.stopped

end Leads

section Loop

variable (state next : Sched) (slot : Nat) (veil : DspTask → DspTask) (sound : LoopSound state) (phase : Phase state slot veil)

include sound phase

theorem phase_loop (event : LoopEvent) : loopStep (coverSched slot veil state) event =
    (loopStep state event).map (coverSched slot veil) := by
  cases phase with
  | same =>
      have nothing : coverSched slot (fun task => task) = id := by
        funext state
        rw [coverSched, cover_nothing]
        rfl
      rw [nothing, Option.map_id]
      rfl
  | unused unlinked asleep fresh =>
      refine cover_loop_step slot _ state (fun pri here => ?_) (fun waiting => ?_) unlinked event
      · have different : pri ≠ slot := by
          rintro rfl
          exact asleep.place here
        rw [cover_other slot pri _ state.dsp different]
        exact ⟨rfl, rfl, rfl, rfl, rfl, rfl, rfl⟩
      · by_cases runs : (state.dsp.tasks (getReadyTask state.dsp.ready)).taskPro = none
        · rw [runs]
          by_cases here : getReadyTask state.dsp.ready = slot
          · rw [here, cover_same]
            rfl
          · rw [cover_other slot _ _ state.dsp here, runs]
        · rw [cover_other slot _ _ state.dsp (turns_apart state slot sound asleep waiting runs)]
  | unbound id ops line handler arg unlinked asleep unbound =>
      refine cover_loop_step slot _ state (fun pri here => ?_) (fun _ => ?_) unlinked event
      · have different : pri ≠ slot := by
          rintro rfl
          exact asleep.place here
        rw [cover_other slot pri _ state.dsp different]
        exact ⟨rfl, rfl, rfl, rfl, rfl, rfl, rfl⟩
      · exact (cover_seen slot _ _ state.dsp (.inr (front_veil id ops line handler arg))).pro
  | linked handler arg unlinked =>
      refine cover_loop_step slot _ state (fun pri _ => ?_) (fun _ => ?_) unlinked event
      · by_cases here : pri = slot
        · subst here
          rw [cover_same]
          exact ⟨rfl, rfl, rfl, rfl, rfl, rfl, rfl⟩
        · rw [cover_other slot pri _ state.dsp here]
          exact ⟨rfl, rfl, rfl, rfl, rfl, rfl, rfl⟩
      · exact (cover_seen slot _ _ state.dsp (.inr (link_veil handler arg))).pro

theorem phase_loop_kept (inTable : slot < psMaxTaskType) (event : LoopEvent) (taken : loopStep state event = some next) :
    Phase next slot veil := by
  have frame := loop_step_frame state next event taken
  have tasks := loop_frame_tasks state.dsp next.dsp frame
  have kept (unlinked : Unlinked state.dsp slot) : Unlinked next.dsp slot :=
    unlinked_same state.dsp next.dsp tasks (loop_frame_vectors _ _ frame) (loop_frame_enabled _ _ frame) slot unlinked
  cases phase with
  | same => exact .same
  | linked handler arg unlinked => exact .linked handler arg (kept unlinked)
  | unbound id ops line handler arg unlinked asleep unbound =>
      exact .unbound id ops line handler arg (kept unlinked) (loop_asleep_step state next event slot sound inTable unlinked asleep taken)
        (tasks ▸ unbound)
  | unused unlinked asleep fresh =>
      exact .unused (kept unlinked) (loop_asleep_step state next event slot sound inTable unlinked asleep taken) (tasks ▸ fresh)

end Loop

-- The same answer, and states that still differ in the entry only.
def Followed (slot : Nat) (one two : Dsp × Reply) : Prop :=
  two.2 = one.2 ∧ ∃ after, two.1 = coverEntry slot after one.1 ∧ Phase ⟨one.1, .clear commonPri⟩ slot after

section Command

variable (slot : Nat) (dsp : Dsp) (command : Command) (named : command.id ≠ none)

theorem followed_map (found other : Option (Dsp × Reply)) (after : DspTask → DspTask) (same : other = found.map (coverAnswer slot after))
    (kept : ∀ next reply, found = some (next, reply) → Phase ⟨next, .clear commonPri⟩ slot after) :
    Option.Rel (Followed slot) found other := by
  subst same
  cases found with
  | none => exact .none
  | some one => exact .some ⟨rfl, after, rfl, kept one.1 one.2 rfl⟩

-- A command does not bring the loop nearer to an entry whose class it keeps.
theorem asleep_command (next : Dsp) (reply : Reply) (effect : CommandEffect dsp command reply next)
    (asleep : Asleep ⟨dsp, .other commonPri⟩ slot) (front : ∀ id, dsp.taskHandler id = some slot → (dsp.tasks slot).fe.type ≠ .vipre)
    (kind : (next.tasks slot).type.isHw = true → (dsp.tasks slot).type.isHw = true)
    (software : (next.tasks slot).type.isHw = false → (next.tasks slot).taskPro = none) : Asleep ⟨next, .clear commonPri⟩ slot := by
  refine ⟨asleep.place, fun hardware => ?_, software⟩
  obtain ⟨quiet, away⟩ := asleep.hardware (kind hardware)
  refine ⟨?_, ?_⟩
  · rw [effect_ready dsp next command reply effect]
    exact quiet
  · rcases effect_named dsp next command reply effect with same | ⟨pri, missing | ⟨other, id, same, listed, -, vipre⟩⟩
    · rw [same]
      exact away
    · rw [missing]
      exact fun equal => by omega
    · intro equal
      have here : other = slot := Int.ofNat.inj (same.symm.trans equal)
      subst here
      exact front id listed vipre

variable (names : NamesFaithful dsp) (chains : ChainsPresent dsp)

include named names chains

theorem unused_command (unlinked : Unlinked dsp slot) (asleep : Asleep ⟨dsp, .other commonPri⟩ slot)
    (fresh : FreshEntry slot (dsp.tasks slot)) :
    Option.Rel (Followed slot) (psCommonCommand dsp command) (psCommonCommand (coverEntry slot (fun _ => tableEntry slot) dsp) command) := by
  have unlisted := free_unlisted dsp slot names fresh.free
  have untargeted : command.target dsp ≠ some slot := by
    intro target
    obtain ⟨id, -, found⟩ := Option.bind_eq_some_iff.mp target
    exact unlisted id (search_listed dsp id slot found)
  have stopped : (dsp.tasks slot).status ≠ .runing := by simp [fresh.free]
  refine followed_map slot _ _ (fun _ => tableEntry slot) ?_ fun next reply done => ?_
  · exact cover_command slot _ dsp command named (fun pri target => .inl fun same => untargeted (same ▸ target)) (.inl unlisted) stopped
      TaskStatus.noConfusion (fun id _ target => absurd target untargeted) fun id message _ => untargeted
  · have effect := command_effect dsp next command reply names chains.vectors done
    rcases effect_other dsp next command reply slot effect untargeted with same | ⟨mode, registered, -, -, -, asked, -⟩
    · exact .unused (effect_unlinked dsp next command reply slot effect unlinked fun id _ target => absurd target untargeted)
        (asleep_command slot dsp command next reply effect asleep (fun id listed => absurd listed (unlisted id)) (fun hardware => same ▸ hardware)
          fun software => same ▸ asleep.software (same ▸ software)) (same ▸ fresh)
    · exact absurd (asked ▸ rfl) named

theorem unbound_command (id : Int) (ops : Option FeOps) (line : Irq) (handler : Handler) (arg : Int) (unlinked : Unlinked dsp slot)
    (asleep : Asleep ⟨dsp, .other commonPri⟩ slot) (unbound : Unbound (dsp.tasks slot)) : Option.Rel (Followed slot)
      (psCommonCommand dsp command) (psCommonCommand (coverEntry slot (frontVeil id ops line handler arg) dsp) command) := by
  have hides := front_veil id ops line handler arg
  have notReady : (dsp.tasks slot).status ≠ .ready := by rcases unbound.idle with idle | idle <;> simp [idle]
  have apart (next : Dsp) (reply : Reply) (effect : CommandEffect dsp command reply next) : Unlinked next slot :=
    effect_unlinked dsp next command reply slot effect unlinked fun _ _ _ => notReady
  have quiet (next : Dsp) (reply : Reply) (effect : CommandEffect dsp command reply next) (still : Unbound (next.tasks slot)) :
      Asleep ⟨next, .clear commonPri⟩ slot :=
    asleep_command slot dsp command next reply effect asleep (fun _ _ => by simp [unbound.front]) (fun _ => unbound.hardware)
      fun software => absurd (software.symm.trans still.hardware) Bool.false_ne_true
  by_cases binds : ∃ place message, command = .feConfig place message ∧ dspSearchTaskById dsp place = some slot
  · obtain ⟨place, message, rfl, found⟩ := binds
    have covered := cover_fe_config slot place slot (frontVeil id ops line handler arg) (linkVeil handler arg) dsp
      (.inr ⟨rfl, handler, arg, rfl, fun _ _ _ => rfl⟩) message found (.inr hides) (.inr (link_veil handler arg))
    simp only [psCommonCommand]
    rw [covered]
    cases done : dspTaskFeConfig dsp place message with
    | none => exact .none
    | some one =>
        obtain ⟨next, reply⟩ := one
        have effect := command_effect dsp next (.feConfig place message) reply names chains.vectors done
        refine .some ⟨rfl, _, rfl, ?_⟩
        by_cases accepted : reply = .status .ok ∧ message.line ≠ none
        · rw [if_pos accepted]
          exact .linked handler arg (apart next reply effect)
        · rw [if_neg accepted]
          have still := fe_unbound dsp next place slot message reply found done unbound accepted
          exact .unbound id ops line handler arg (apart next reply effect) (quiet next reply effect still) still
  · refine followed_map slot _ _ (frontVeil id ops line handler arg) ?_ fun next reply done => ?_
    · exact cover_command slot _ dsp command named (fun _ _ => .inr hides) (.inr hides) unlinked.stopped
        (by rw [(hides.seen _).status]; exact unlinked.stopped) (fun _ _ _ => notReady)
        fun place message asked target => binds ⟨place, message, asked, by rw [asked] at target; exact target⟩
    · have effect := command_effect dsp next command reply names chains.vectors done
      have still := effect_unbound dsp next command reply slot effect unbound
        fun place message asked target => binds ⟨place, message, asked, by rw [asked] at target; exact target⟩
      exact .unbound id ops line handler arg (apart next reply effect) (quiet next reply effect still) still

theorem linked_command (handler : Handler) (arg : Int) (unlinked : Unlinked dsp slot) : Option.Rel (Followed slot)
    (psCommonCommand dsp command) (psCommonCommand (coverEntry slot (linkVeil handler arg) dsp) command) := by
  have hides := link_veil handler arg
  by_cases starts : ∃ place, command = .taskStart place ∧ dspSearchTaskById dsp place = some slot ∧ (dsp.tasks slot).status = .ready
  · obtain ⟨place, rfl, found, ready⟩ := starts
    refine followed_map slot _ _ (fun task => task) ?_ fun _ _ _ => .same
    simp only [psCommonCommand, cover_start_linked slot place dsp handler arg found ready (chains.vectors _), Option.map_some,
      coverAnswer,
      cover_nothing]
  · have idle (place : Nat) (asked : command = .taskStart place) (target : command.target dsp = some slot) :
      (dsp.tasks slot).status ≠ .ready :=
      fun ready => starts ⟨place, asked, by rw [asked] at target; exact target, ready⟩
    refine followed_map slot _ _ (linkVeil handler arg) ?_ fun next reply done => ?_
    · by_cases binds : ∃ place message, command = .feConfig place message ∧ dspSearchTaskById dsp place = some slot
      · obtain ⟨place, message, rfl, found⟩ := binds
        have covered := cover_fe_config slot place slot (linkVeil handler arg) (linkVeil handler arg) dsp
          (.inr ⟨rfl, handler, arg, rfl, fun _ _ _ => rfl⟩) message found (.inr hides) (.inr hides)
        simp only [ite_self] at covered
        exact covered
      · exact cover_command slot _ dsp command named (fun _ _ => .inr hides) (.inr hides) unlinked.stopped
          (by rw [(hides.seen _).status]; exact unlinked.stopped) idle
          fun place message asked target => binds ⟨place, message, asked, by rw [asked] at target; exact target⟩
    · have effect := command_effect dsp next command reply names chains.vectors done
      exact .linked handler arg (effect_unlinked dsp next command reply slot effect unlinked idle)

theorem phase_command (veil : DspTask → DspTask) (phase : Phase ⟨dsp, .other commonPri⟩ slot veil) :
    Option.Rel (Followed slot) (psCommonCommand dsp command) (psCommonCommand (coverEntry slot veil dsp) command) := by
  cases phase with
  | unused unlinked asleep fresh => exact unused_command slot dsp command named names chains unlinked asleep fresh
  | unbound id ops line handler arg unlinked asleep unbound =>
      exact unbound_command slot dsp command named names chains id ops line handler arg unlinked asleep unbound
  | linked handler arg unlinked => exact linked_command slot dsp command named names chains handler arg unlinked
  | same =>
      refine followed_map slot _ _ (fun task => task) ?_ fun _ _ _ => .same
      have nothing : @coverAnswer Reply slot (fun task => task) = id := by
        funext answer
        rw [coverAnswer, cover_nothing]
        rfl
      rw [nothing, Option.map_id, cover_nothing]
      rfl

end Command

theorem phase_served (slot : Nat) (veil : DspTask → DspTask) (dsp next : Dsp) (keeps : RequestKeeps dsp next)
    (phase : Phase ⟨dsp, .other commonPri⟩ slot veil) : Phase ⟨next, .clear commonPri⟩ slot veil := by
  have apart (unlinked : Unlinked dsp slot) : Unlinked next slot :=
    unlinked_same dsp next keeps.tasks keeps.vectors keeps.enabled slot unlinked
  have waits (asleep : Asleep ⟨dsp, .other commonPri⟩ slot) : Asleep ⟨next, .clear commonPri⟩ slot := by
    refine ⟨asleep.place, fun hardware => ?_, fun software => ?_⟩
    · rw [keeps.tasks] at hardware
      rw [keeps.ready, keeps.named]
      exact asleep.hardware hardware
    · rw [keeps.tasks] at software ⊢
      exact asleep.software software
  cases phase with
  | same => exact .same
  | linked handler arg unlinked => exact .linked handler arg (apart unlinked)
  | unbound id ops line handler arg unlinked asleep unbound =>
      exact .unbound id ops line handler arg (apart unlinked) (waits asleep) (keeps.tasks ▸ unbound)
  | unused unlinked asleep fresh => exact .unused (apart unlinked) (waits asleep) (keeps.tasks ▸ fresh)

structure NsMirror (slot : Nat) (veil : DspTask → DspTask) (ns other : NsDsp) : Prop where
  dsp : other.dsp = coverEntry slot veil ns.dsp
  nsMap : other.nsMap = ns.nsMap
  nsid : ∀ pri, (ns.dsp.tasks pri).status ≠ .free → other.nsid pri = ns.nsid pri

theorem ns_create_full (state : NsDsp) (memory : Option (Nat → XrpCmdNs)) (kind : TaskMode)
    (missing : allocEntry state.dsp (some kind) = none) : nsCreateTask state (some kind) memory = (state, .status .taskAllocFail) := by
  simp only [allocEntry, Option.bind_some] at missing
  by_cases software : kind.isSw = true
  · rw [if_pos software] at missing
    simp only [nsCreateTask, psCreateTask, software, if_true, missing]
  · rw [if_neg software] at missing
    simp only [nsCreateTask, psCreateTask, if_neg software, missing]

theorem ns_create_refused (state : NsDsp) (memory : Option (Nat → XrpCmdNs)) (kind : TaskMode) (pri : Nat) (software : kind.isSw = true)
    (found : allocEntry state.dsp (some kind) = some pri)
    (failed : (xrpRegisterNamespace state.nsMap (swTaskEntry pri) memory).2 = false) :
    nsCreateTask state (some kind) memory = (⟨state.dsp, Function.update state.nsid pri (allocteNsId pri),
      (xrpRegisterNamespace state.nsMap (swTaskEntry pri) memory).1⟩, .status .taskAllocFail) := by
  simp only [allocEntry, Option.bind_some, if_pos software] at found
  simp only [nsCreateTask, psCreateTask, software, if_true, found, failed, Bool.false_eq_true, if_false]

section Alloc

variable (slot pri place count : Nat) (veil after : DspTask → DspTask) (dsp : Dsp) (kind : TaskMode)

theorem phase_kind (phase : Phase ⟨dsp, .other commonPri⟩ slot veil) (used : (dsp.tasks pri).status ≠ .free) :
    ((coverEntry slot veil dsp).tasks pri).type = (dsp.tasks pri).type := by
  by_cases here : pri = slot
  · subst here
    cases phase with
    | same => rw [cover_nothing]
    | linked handler arg unlinked => rw [cover_same, ((link_veil handler arg).seen _).kind]
    | unbound id ops line handler arg unlinked asleep unbound => rw [cover_same, ((front_veil id ops line handler arg).seen _).kind]
    | unused unlinked asleep fresh => exact absurd fresh.free used
  · rw [cover_other slot pri veil dsp here]

theorem cover_alloc_entry (mode : Option TaskMode) (phase : Phase ⟨dsp, .other commonPri⟩ slot veil) :
    allocEntry (coverEntry slot veil dsp) mode = allocEntry dsp mode := by
  have alike (sw : (veil (dsp.tasks slot)).type.isSw = (dsp.tasks slot).type.isSw)
      (hw : (veil (dsp.tasks slot)).type.isHw = (dsp.tasks slot).type.isHw)
      (status : (veil (dsp.tasks slot)).status = (dsp.tasks slot).status) : allocEntry (coverEntry slot veil dsp) mode =
        allocEntry dsp mode := by
    simp only [allocEntry, getFreeSwTask, getFreeHwTask, cover_free_task slot veil dsp _ sw status,
      cover_free_task slot veil dsp _ hw status]
  cases phase with
  | same => rw [cover_nothing]
  | linked handler arg unlinked => exact alike rfl rfl rfl
  | unbound id ops line handler arg unlinked asleep unbound => exact alike rfl rfl rfl
  | unused unlinked asleep fresh => exact alike fresh.sameClass.2.symm fresh.sameClass.1.symm fresh.free.symm

theorem cover_place_other (different : pri ≠ slot) : placeTask (coverEntry slot veil dsp) pri
    (allocatedTask kind ((coverEntry slot veil dsp).tasks pri)) place count =
      coverEntry slot veil (placeTask dsp pri (allocatedTask kind (dsp.tasks pri)) place count) := by
  rw [cover_other slot pri veil dsp different]
  simp only [placeTask, coverEntry, modifyTask, Function.update_of_ne (Ne.symm different)]
  rw [Function.update_comm different]

theorem cover_place_same (same : allocatedTask kind (veil (dsp.tasks slot)) = after (allocatedTask kind (dsp.tasks slot))) :
    placeTask (coverEntry slot veil dsp) slot (allocatedTask kind ((coverEntry slot veil dsp).tasks slot)) place count =
      coverEntry slot after (placeTask dsp slot (allocatedTask kind (dsp.tasks slot)) place count) := by
  rw [cover_same, same]
  simp only [placeTask, coverEntry, modifyTask, Function.update_self, Function.update_idem]

-- After TASK_ALLOC a fresh entry and the one of the source differ in what TASK_ALLOC leaves behind.
theorem fresh_hardware (task : DspTask) (fresh : FreshEntry slot task) (hardware : kind.isSw = false) :
    allocatedTask kind (tableEntry slot) = frontVeil (-1) none .unused .null 0 (allocatedTask kind task) := by
  obtain ⟨type, status, fe, ⟨beType, beId, beOps⟩, ⟨algoId, param, process⟩, pro, report, check, irq, handler, arg⟩ := task
  obtain ⟨-, -, ⟨rfl, rfl⟩, ⟨rfl, rfl⟩, rfl, -⟩ := fresh
  rw [allocatedTask, allocatedTask, hardware]
  rfl

theorem fresh_software (task : DspTask) (fresh : FreshEntry slot task) (software : kind.isSw = true) (plain : task.type.isHw = false) :
    allocatedTask kind (tableEntry slot) = linkVeil .null 0 (allocatedTask kind task) := by
  obtain ⟨line, feId, feOps, pro, -⟩ := fresh.software plain
  obtain ⟨type, status, ⟨feType, id, ops⟩, ⟨beType, beId, beOps⟩, ⟨algoId, param, process⟩, taskPro, report, check, irq, handler,
    arg⟩ := task
  obtain ⟨-, -, ⟨rfl, rfl⟩, ⟨rfl, rfl⟩, rfl, -⟩ := fresh
  cases line
  cases feId
  cases feOps
  cases pro
  rw [allocatedTask, allocatedTask, software]
  rfl

-- TASK_ALLOC takes the same entry for both, and they go on differing in the slot only.
theorem phase_placed (names : NamesFaithful dsp) (chains : ChainsPresent dsp) (found : allocEntry dsp (some kind) = some pri)
    (next : nextPlace dsp = some (place, count)) (phase : Phase ⟨dsp, .other commonPri⟩ slot veil) :
    ∃ after, placeTask (coverEntry slot veil dsp) pri (allocatedTask kind ((coverEntry slot veil dsp).tasks pri)) place count =
        coverEntry slot after (placeTask dsp pri (allocatedTask kind (dsp.tasks pri)) place count) ∧
      Phase ⟨placeTask dsp pri (allocatedTask kind (dsp.tasks pri)) place count, .clear commonPri⟩ slot after := by
  obtain ⟨inTable, sameClass, free⟩ := alloc_entry_found dsp pri kind found
  have done : psCommonCommand dsp (.taskAlloc (some kind) true) =
    some (placeTask dsp pri (allocatedTask kind (dsp.tasks pri)) place count,
      .created place) := congrArg some (create_at dsp pri kind place count found next)
  have effect := command_effect dsp _ _ _ names chains.vectors done
  have entry : (placeTask dsp pri (allocatedTask kind (dsp.tasks pri)) place count).tasks pri = allocatedTask kind (dsp.tasks pri) :=
    Function.update_self _ _ _
  have apart (unlinked : Unlinked dsp slot) := effect_unlinked dsp _ _ _ slot effect unlinked fun _ asked => by cases asked
  have quiet (asleep : Asleep ⟨dsp, .other commonPri⟩ slot) := asleep_command slot dsp _ _ _ effect asleep
  cases phase with
  | same => exact ⟨fun task => task, by rw [cover_nothing, cover_nothing], .same⟩
  | linked handler arg unlinked =>
      refine ⟨linkVeil handler arg, ?_, .linked handler arg (apart unlinked)⟩
      by_cases here : pri = slot
      · subst here
        exact cover_place_same pri place count _ _ dsp kind ((link_veil handler arg).alloc kind _)
      · exact cover_place_other slot pri place count _ dsp kind here
  | unbound id ops line handler arg unlinked asleep unbound =>
      have missing : (dsp.tasks slot).fe.type = .invalid := unbound.front
      have still := effect_unbound dsp _ _ _ slot effect unbound fun _ _ asked => by cases asked
      refine ⟨frontVeil id ops line handler arg, ?_, .unbound id ops line handler arg (apart unlinked)
        (quiet asleep (fun _ _ => by simp [missing]) (fun _ => unbound.hardware) fun software =>
          absurd (software.symm.trans still.hardware) Bool.false_ne_true) still⟩
      by_cases here : pri = slot
      · subst here
        exact cover_place_same pri place count _ _ dsp kind ((front_veil id ops line handler arg).alloc kind _)
      · exact cover_place_other slot pri place count _ dsp kind here
  | unused unlinked asleep fresh =>
      have unlisted := free_unlisted dsp slot names fresh.free
      have still := quiet asleep fun id listed => absurd listed (unlisted id)
      by_cases here : pri = slot
      · subst here
        by_cases software : kind.isSw = true
        · have plain : (dsp.tasks pri).type.isHw = false := sameClass.symm.trans (sw_not_hw kind software)
          exact ⟨linkVeil .null 0, cover_place_same pri place count _ _ dsp kind (fresh_software pri kind _ fresh software plain),
            .linked .null 0 (apart unlinked)⟩
        · rw [Bool.not_eq_true] at software
          have hardware : kind.isHw = true := by
            rw [class_is_sw, Bool.not_eq_false'] at software
            exact software
          have bare : Unbound ((placeTask dsp pri (allocatedTask kind (dsp.tasks pri)) place count).tasks pri) :=
            entry.symm ▸ allocated_unbound kind _ hardware
          exact ⟨frontVeil (-1) none .unused .null 0,
            cover_place_same pri place count _ _ dsp kind (fresh_hardware pri kind _ fresh software),
            .unbound (-1) none .unused .null 0 (apart unlinked) (still (fun _ => sameClass.symm.trans hardware) fun plain =>
              absurd (plain.symm.trans bare.hardware) Bool.false_ne_true) bare⟩
      · have kept : (placeTask dsp pri (allocatedTask kind (dsp.tasks pri)) place count).tasks slot = dsp.tasks slot :=
          Function.update_of_ne (Ne.symm here) _ _
        exact ⟨fun _ => tableEntry slot, cover_place_other slot pri place count _ dsp kind here,
          .unused (apart unlinked) (still (fun hardware => kept ▸ hardware) fun software =>
            kept.symm ▸ asleep.software (kept ▸ software)) (kept.symm ▸ fresh)⟩

end Alloc

-- The same answer of two firmwares, which differ in the slot only.
def Answered (slot : Nat) (one two : NsDsp × Reply) : Prop :=
  two.2 = one.2 ∧ ∃ after, NsMirror slot after one.1 two.1 ∧ Phase ⟨one.1.dsp, .clear commonPri⟩ slot after

section Names

variable (slot : Nat) (veil : DspTask → DspTask) (ns other : NsDsp) (mirror : NsMirror slot veil ns other)
  (phase : Phase ⟨ns.dsp, .other commonPri⟩ slot veil) (names : NamesFaithful ns.dsp) (chains : ChainsPresent ns.dsp)

include mirror phase names chains

theorem create_answered (mode : Option TaskMode) (memory : Option (Nat → XrpCmdNs)) :
    Answered slot (nsCreateTask ns mode memory) (nsCreateTask other mode memory) := by
  have stays : Phase ⟨ns.dsp, .clear commonPri⟩ slot veil :=
    phase_served slot veil ns.dsp ns.dsp ⟨rfl, rfl, rfl, rfl, rfl⟩ phase
  cases mode with
  | none => exact ⟨rfl, veil, mirror, stays⟩
  | some kind =>
      have entries : allocEntry other.dsp (some kind) = allocEntry ns.dsp (some kind) := by
        rw [mirror.dsp]
        exact cover_alloc_entry slot veil ns.dsp (some kind) phase
      cases found : allocEntry ns.dsp (some kind) with
      | none =>
          rw [ns_create_full ns memory kind found, ns_create_full other memory kind (entries.trans found)]
          exact ⟨rfl, veil, mirror, stays⟩
      | some pri =>
          obtain ⟨inTable, -, free⟩ := alloc_entry_found ns.dsp pri kind found
          obtain ⟨place, count, next, -⟩ := next_place_exists ns.dsp pri names inTable free
          have again : nextPlace other.dsp = some (place, count) := by
            rw [mirror.dsp]
            exact next
          have renamed (entry : Nat) (used : entry = pri ∨ (ns.dsp.tasks entry).status ≠ .free) :
              Function.update other.nsid pri (allocteNsId pri) entry = Function.update ns.nsid pri (allocteNsId pri) entry := by
            by_cases here : entry = pri
            · rw [here, Function.update_self, Function.update_self]
            · rw [Function.update_of_ne here, Function.update_of_ne here]
              exact mirror.nsid entry (used.resolve_left here)
          by_cases refused : kind.isSw = true ∧ (xrpRegisterNamespace ns.nsMap (swTaskEntry pri) memory).2 = false
          · rw [ns_create_refused ns memory kind pri refused.1 found refused.2, ns_create_refused other memory kind pri refused.1
              (entries.trans found) (by rw [mirror.nsMap]; exact refused.2)]
            exact ⟨rfl, veil, ⟨mirror.dsp, by rw [mirror.nsMap], fun entry used => renamed entry (.inr used)⟩, stays⟩
          · have registered : ∃ map, RegisteredFor ns kind pri memory map := by
              by_cases software : kind.isSw = true
              · have taken : (xrpRegisterNamespace ns.nsMap (swTaskEntry pri) memory).2 = true :=
                  (Bool.not_eq_false _).mp fun failed => refused ⟨software, failed⟩
                exact ⟨_, by rw [RegisteredFor, if_pos software, ← taken]⟩
              · exact ⟨ns.nsMap, by rw [RegisteredFor, if_neg software]⟩
            obtain ⟨map, registered⟩ := registered
            have further : RegisteredFor other kind pri memory map := by
              rw [RegisteredFor, mirror.nsMap]
              exact registered
            rw [ns_create_at ns memory place pri kind count map found next registered,
              ns_create_at other memory place pri kind count map (entries.trans found) again further]
            obtain ⟨after, same, later⟩ := phase_placed slot pri place count veil ns.dsp kind names chains found next phase
            refine ⟨rfl, after, ⟨?_, rfl, fun entry used => renamed entry ?_⟩, later⟩
            · rw [enteredNs, mirror.dsp]
              exact same
            · by_cases here : entry = pri
              · exact .inl here
              · refine .inr ?_
                rw [show (enteredNs ns kind pri place count map).dsp.tasks entry =
                  ns.dsp.tasks entry from Function.update_of_ne here _ _] at used
                exact used

omit mirror phase in
-- A command for a task brings no entry into use.
theorem used_before (command : Command) (named : command.id ≠ none) (next : Dsp) (reply : Reply)
    (done : psCommonCommand ns.dsp command = some (next, reply)) (pri : Nat) (used : (next.tasks pri).status ≠ .free) :
    (ns.dsp.tasks pri).status ≠ .free := by
  intro free
  have effect := command_effect ns.dsp next command reply names chains.vectors done
  have untargeted : command.target ns.dsp ≠ some pri := by
    intro target
    obtain ⟨id, -, found⟩ := Option.bind_eq_some_iff.mp target
    exact free_unlisted ns.dsp pri names free id (search_listed ns.dsp id pri found)
  rcases effect_other ns.dsp next command reply pri effect untargeted with same | ⟨mode, registered, -, -, -, asked, -⟩
  · exact used (same ▸ free)
  · exact named (asked ▸ rfl)

theorem plain_answered (command : Command) (named : command.id ≠ none) : Option.Rel (Answered slot)
    ((psCommonCommand ns.dsp command).map fun result => ({ ns with dsp := result.1 }, result.2))
    ((psCommonCommand other.dsp command).map fun result => ({ other with dsp := result.1 }, result.2)) := by
  have followed := phase_command slot ns.dsp command named names chains veil phase
  rw [← mirror.dsp] at followed
  cases done : psCommonCommand ns.dsp command with
  | none =>
      rw [done] at followed
      generalize psCommonCommand other.dsp command = answer at followed ⊢
      cases followed
      exact .none
  | some one =>
      rw [done] at followed
      generalize psCommonCommand other.dsp command = answer at followed ⊢
      cases followed with
      | some same =>
          obtain ⟨reply, after, covered, later⟩ := same
          exact .some ⟨reply, after, ⟨covered, mirror.nsMap, fun pri used => mirror.nsid pri
            (used_before ns names chains command named one.1 one.2 done pri used)⟩, later⟩

theorem destroy_answered (id : Nat) : Answered slot (nsDestroyTask ns id) (nsDestroyTask other id) := by
  have named : (Command.taskFree id).id ≠ none := Option.some_ne_none id
  have followed := phase_command slot ns.dsp (.taskFree id) named names chains veil phase
  rw [← mirror.dsp] at followed
  simp only [psCommonCommand] at followed
  cases followed with
  | some same =>
      obtain ⟨reply, after, covered, later⟩ := same
      have listed : dspSearchTaskById other.dsp id = dspSearchTaskById ns.dsp id := by
        rw [mirror.dsp]
        rfl
      have nsids (pri : Nat) (used : ((psDestroyTask ns.dsp id).1.tasks pri).status ≠ .free) : other.nsid pri = ns.nsid pri :=
        mirror.nsid pri (used_before ns names chains (.taskFree id) named _ _ rfl pri used)
      cases found : dspSearchTaskById ns.dsp id with
      | none =>
          simp only [nsDestroyTask, listed, found]
          exact ⟨reply, after, ⟨covered, mirror.nsMap, nsids⟩, later⟩
      | some pri =>
          have used := (names.slots.placed id pri (search_listed ns.dsp id pri found)).2.2
          have kind : (other.dsp.tasks pri).type = (ns.dsp.tasks pri).type := by
            rw [mirror.dsp]
            exact phase_kind slot pri veil ns.dsp phase used
          simp only [nsDestroyTask, listed, found, kind, mirror.nsid pri used, mirror.nsMap]
          exact ⟨reply, after, ⟨covered, rfl, nsids⟩, later⟩

theorem answered_command (memory : Option (Nat → XrpCmdNs)) (command : Command) :
    Option.Rel (Answered slot) (nsCommand ns memory command) (nsCommand other memory command) := by
  have plain := plain_answered slot veil ns other mirror phase names chains
  cases command with
  | taskAlloc mode registered => exact .some (create_answered slot veil ns other mirror phase names chains mode memory)
  | taskFree id => exact .some (destroy_answered slot veil ns other mirror phase names chains id)
  | taskStart id => exact plain (.taskStart id) (Option.some_ne_none id)
  | taskStop id => exact plain (.taskStop id) (Option.some_ne_none id)
  | feConfig id message => exact plain (.feConfig id message) (Option.some_ne_none id)
  | beConfig id message => exact plain (.beConfig id message) (Option.some_ne_none id)
  | algoConfig id message env => exact plain (.algoConfig id message env) (Option.some_ne_none id)
  | algoLoad id algoId env => exact plain (.algoLoad id algoId env) (Option.some_ne_none id)
  | reportConfig id flag size => exact plain (.reportConfig id flag size) (Option.some_ne_none id)
  | beAssginBuf id config => exact plain (.beAssginBuf id config) (Option.some_ne_none id)

end Names

-- A request may get to any entry, through whatever the memory behind the map holds.
theorem phase_request (slot pri : Nat) (dsp : Dsp) (veil : DspTask → DspTask) (phase : Phase ⟨dsp, .other commonPri⟩ slot veil) :
    RequestAlike (dsp.tasks pri) ((coverEntry slot veil dsp).tasks pri) := by
  have alike (task after : DspTask) (seen : SeenAlike task after) : RequestAlike task after :=
    ⟨by rw [seen.kind], fun _ => seen.be, by rw [seen.algo], by rw [seen.algo]⟩
  by_cases here : pri = slot
  · subst here
    rw [cover_same]
    cases phase with
    | same => exact ⟨.rfl, fun _ => rfl, rfl, rfl⟩
    | linked handler arg unlinked => exact alike _ _ ((link_veil handler arg).seen _)
    | unbound id ops line handler arg unlinked asleep unbound => exact alike _ _ ((front_veil id ops line handler arg).seen _)
    | unused unlinked asleep fresh =>
        have plain : (dsp.tasks pri).type ≠ .swToHw := by
          intro kind
          exact (fresh.software (by simp [kind]; decide)).2.2.2.2 kind
        refine ⟨⟨fun same => ?_, fun same => absurd same plain⟩, fun same => absurd same plain, fresh.algo.1.symm, fresh.algo.2.symm⟩
        rw [tableEntry] at same
        dsimp only at same
        split at same <;> cases same
  · rw [cover_other slot pri veil dsp here]
    exact ⟨.rfl, fun _ => rfl, rfl, rfl⟩

-- Two firmwares that differ in the entry of the slot only.
structure Mirrors (slot : Nat) (state other : Firmware) : Prop where
  ns : ∃ veil, NsMirror slot veil state.ns other.ns ∧ Phase ⟨state.ns.dsp, state.pc⟩ slot veil
  pc : other.pc = state.pc

def StepsAlike (slot : Nat) (one two : Option (Firmware × Observation)) : Prop :=
  Option.Rel (fun first second => Mirrors slot first.1 second.1 ∧ first.2 = second.2) one two

section Step

variable (slot : Nat) (state other : Firmware) (mirrors : Mirrors slot state other) (sound : ServedSound state)

-- With the same answer, and next states that mirror each other, the host sees the same.
theorem steps_alike (event : ServedEvent) (answer : answerOf other event = answerOf state event)
    (steps : Option.Rel (Mirrors slot) (servedStep state event) (servedStep other event)) :
    StepsAlike slot (observedStep state event) (observedStep other event) := by
  rw [StepsAlike, observedStep, observedStep, answer]
  generalize servedStep state event = one at steps ⊢
  generalize servedStep other event = two at steps ⊢
  cases steps with
  | none => exact .none
  | some both =>
      rename_i first second
      refine .some ⟨both, ?_⟩
      obtain ⟨⟨veil, mirror, -⟩, pc⟩ := both
      have ready : second.ns.dsp.ready = first.ns.dsp.ready := by
        rw [mirror.dsp]
        rfl
      dsimp only
      rw [pc, ready]

include mirrors sound

theorem loop_alike (inTable : slot < psMaxTaskType) (event : LoopEvent) :
    StepsAlike slot (observedStep state (.firmware (.loop event))) (observedStep other (.firmware (.loop event))) := by
  obtain ⟨⟨veil, mirror, phase⟩, pc⟩ := mirrors
  refine steps_alike slot state other _ rfl ?_
  have covered := phase_loop ⟨state.ns.dsp, state.pc⟩ slot veil sound.loop phase event
  simp only [servedStep, firmwareStep, pc, mirror.dsp]
  rw [show (⟨coverEntry slot veil state.ns.dsp, state.pc⟩ : Sched) = coverSched slot veil ⟨state.ns.dsp, state.pc⟩ from rfl, covered]
  cases taken : loopStep ⟨state.ns.dsp, state.pc⟩ event with
  | none => exact .none
  | some next =>
      have kept := phase_loop_kept ⟨state.ns.dsp, state.pc⟩ next slot veil sound.loop phase inTable event taken
      have tasks := loop_frame_tasks state.ns.dsp next.dsp (loop_step_frame _ next event taken)
      exact .some ⟨⟨veil, ⟨rfl, mirror.nsMap, fun pri used => mirror.nsid pri (tasks ▸ used)⟩, kept⟩, rfl⟩

theorem command_mirrored (command : Command) (memory : Option (Nat → XrpCmdNs)) : StepsAlike slot
    (observedStep state (.firmware (.command command memory))) (observedStep other (.firmware (.command command memory))) := by
  obtain ⟨⟨veil, mirror, phase⟩, pc⟩ := mirrors
  by_cases place : state.pc = .other commonPri
  · rw [place] at phase
    have answers := answered_command slot veil state.ns other.ns mirror phase sound.served.routing.names sound.chains memory command
    apply steps_alike
    · simp only [answerOf]
      generalize nsCommand state.ns memory command = one at answers ⊢
      generalize nsCommand other.ns memory command = two at answers ⊢
      cases answers with
      | none => rfl
      | some same => rw [Option.map_some, Option.map_some, same.1]
    · simp only [servedStep, firmwareStep, pc, if_pos place]
      generalize nsCommand state.ns memory command = one at answers ⊢
      generalize nsCommand other.ns memory command = two at answers ⊢
      cases answers with
      | none => exact .none
      | some same => exact .some ⟨same.2, rfl⟩
  · have stuck (firmware : Firmware) (elsewhere : firmware.pc ≠ .other commonPri) :
        observedStep firmware (.firmware (.command command memory)) = none := by
      simp only [observedStep, servedStep, firmwareStep, if_neg elsewhere, Option.map_none]
    rw [stuck state place, stuck other (pc ▸ place)]
    exact .none

omit sound in
theorem request_mirrored (scratch : Scratch) (algo : AlgoResult) (id : NsId) (request : SwTaskReq) : StepsAlike slot
    (observedStep state (.request scratch algo id request)) (observedStep other (.request scratch algo id request)) := by
  obtain ⟨⟨veil, mirror, phase⟩, pc⟩ := mirrors
  by_cases place : state.pc = .other commonPri
  · rw [place] at phase
    have covered (pri : Nat) := cover_request slot pri veil state.ns.dsp scratch algo request (phase_request slot pri state.ns.dsp veil phase)
    apply steps_alike
    · simp only [answerOf, mirror.nsMap, mirror.dsp]
      cases commandHandler state.ns.nsMap (some id) with
      | runCommand | noNamespace => rfl
      | handler handler context =>
          cases handler with
          | psCommonCommand | other address => rfl
          | dspProcessSwTask =>
              cases context with
              | none => rfl
              | some pri =>
                  dsimp only
                  rw [covered pri]
                  cases dspProcessSwTask scratch algo state.ns.dsp pri request <;> rfl
    · simp only [servedStep, mirror.nsMap, mirror.dsp, pc, if_pos place]
      cases commandHandler state.ns.nsMap (some id) with
      | runCommand | noNamespace => exact .none
      | handler handler context =>
          cases handler with
          | psCommonCommand | other address => exact .none
          | dspProcessSwTask =>
              cases context with
              | none => exact .none
              | some pri =>
                  dsimp only
                  rw [covered pri]
                  cases done : dspProcessSwTask scratch algo state.ns.dsp pri request with
                  | none => exact .none
                  | some served =>
                      have keeps := request_keeps pri state.ns.dsp scratch algo request served.1 served.2 done
                      exact .some ⟨⟨veil, ⟨rfl, rfl, fun entry used => mirror.nsid entry (keeps.tasks ▸ used)⟩,
                        phase_served slot veil state.ns.dsp served.1 keeps phase⟩, rfl⟩
  · have stuck (firmware : Firmware) (elsewhere : firmware.pc ≠ .other commonPri) :
        observedStep firmware (.request scratch algo id request) = none := by
      simp only [observedStep, servedStep, if_neg elsewhere, Option.map_none]
    rw [stuck state place, stuck other (pc ▸ place)]
    exact .none

end Step

theorem mirrors_step (slot : Nat) (inTable : slot < psMaxTaskType) (state other : Firmware) (event : ServedEvent)
    (mirrors : Mirrors slot state other) (sound : ServedSound state) : StepsAlike slot (observedStep state event)
    (observedStep other event) := by
  cases event with
  | request scratch algo id request => exact request_mirrored slot state other mirrors scratch algo id request
  | firmware event =>
      cases event with
      | loop event => exact loop_alike slot state other mirrors sound inTable event
      | command command memory => exact command_mirrored slot state other mirrors sound command memory
      | heapWrite cells =>
          obtain ⟨⟨veil, mirror, phase⟩, pc⟩ := mirrors
          exact steps_alike slot state other _ rfl (.some ⟨⟨veil, ⟨mirror.dsp, by rw [mirror.nsMap], mirror.nsid⟩, phase⟩, pc⟩)

theorem restored_mirrors (slot : Nat) (inTable : slot < psMaxTaskType) (state : Firmware) (sound : ServedSound state)
    (free : (state.ns.dsp.tasks slot).status = .free)
    (bare : (state.ns.dsp.tasks slot).algo.param = none ∧ (state.ns.dsp.tasks slot).algo.algoProcess = none)
    (fresh : SlotFresh state slot) : Mirrors slot state (restored state slot) := by
  have classes := sound.served.routing.names.classes slot
  have source : (tableEntry slot).type.isHw = decide (slot < 3) ∧ (tableEntry slot).type.isSw = !decide (slot < 3) := by
    rw [tableEntry]
    by_cases hardware : slot < 3
    · simp only [if_pos hardware, decide_eq_true hardware]
      decide
    · simp only [if_neg hardware, decide_eq_false hardware]
      decide
  refine ⟨⟨fun _ => tableEntry slot, ⟨rfl, rfl, fun pri used => ?_⟩, .unused ⟨fresh.apart, ?_⟩
    ⟨fresh.place, fresh.hardware, fun software => (fresh.software software).2.2.2.1⟩ ⟨free, ?_, bare, fresh.be, fresh.check,
      fresh.software⟩⟩, rfl⟩
  · have different : pri ≠ slot := by
      rintro rfl
      exact used free
    exact Function.update_of_ne different _ _
  · rw [Running, free]
    exact TaskStatus.noConfusion
  · exact ⟨classes.1.trans source.1.symm, classes.2.trans source.2.symm⟩

-- Before the first TASK_START, only the interrupt of the host leads to an entry.
structure Unstarted (state : Firmware) : Prop where
  stopped : ∀ pri, ¬ Running state.ns.dsp pri
  common : ∀ name, Leads state.ns.dsp name → name = commonPri

def Starts : ServedEvent → Prop
  | .firmware (.command (.taskStart _) _) => True
  | _ => False

instance (event : ServedEvent) : Decidable (Starts event) :=
  match event with
  | .request _ _ _ _ | .firmware (.loop _) | .firmware (.heapWrite _) => .isFalse fun starts => starts
  | .firmware (.command command _) =>
      match command with
      | .taskStart _ => .isTrue trivial
      | .taskAlloc _ _ | .taskFree _ | .taskStop _ | .feConfig _ _ | .beConfig _ _ | .algoConfig _ _ _ | .algoLoad _ _ _
      | .reportConfig _ _ _ | .beAssginBuf _ _ => .isFalse fun starts => starts

theorem unstarted_same (state next : Firmware) (unstarted : Unstarted state) (tasks : next.ns.dsp.tasks = state.ns.dsp.tasks)
    (vectors : next.ns.dsp.vectors = state.ns.dsp.vectors) (enabled : next.ns.dsp.enabled = state.ns.dsp.enabled) : Unstarted next := by
  refine ⟨fun pri running => ?_, fun name leads => unstarted.common name (leads_same _ _ tasks vectors enabled name leads)⟩
  rw [Running, tasks] at running
  exact unstarted.stopped pri running

theorem unstarted_step (state next : Firmware) (event : ServedEvent) (sound : ServedSound state) (other : ¬ Starts event)
    (taken : servedStep state event = some next) (unstarted : Unstarted state) : Unstarted next := by
  cases served_taken state next event taken with
  | request scratch algo id request pri dsp reply done =>
      have keeps := request_keeps _ state.ns.dsp scratch algo request dsp reply done
      exact unstarted_same state _ unstarted keeps.tasks keeps.vectors keeps.enabled
  | loop event sched moved =>
      have frame := loop_step_frame ⟨state.ns.dsp, state.pc⟩ sched event moved
      exact unstarted_same state _ unstarted (loop_frame_tasks _ _ frame) (loop_frame_vectors _ _ frame)
        (loop_frame_enabled _ _ frame)
  | heapWrite cells => exact ⟨unstarted.stopped, unstarted.common⟩
  | command command memory ns reply answered =>
      obtain ⟨given, effect, named, same⟩ := answered_effect state sound memory command ns reply answered
      have plain (id : Nat) : given ≠ .taskStart id := by
        rintro rfl
        cases command with
        | taskAlloc mode flag => cases named
        | taskStart id => exact other trivial
        | _ => exact Command.noConfusion (same fun _ _ => Command.noConfusion)
      have stopped (pri : Nat) : ¬ Running ns.dsp pri := by
        intro running
        cases effect_link state.ns.dsp ns.dsp given reply effect pri with
        | kept link runs => exact unstarted.stopped pri (runs running)
        | started id target asked isReady irq present link => exact plain id asked
      refine ⟨stopped, fun name leads => ?_⟩
      rcases effect_leads state.ns.dsp ns.dsp given reply effect name leads with led | running | running
      · exact unstarted.common name led
      · exact absurd running (unstarted.stopped name)
      · exact absurd running (stopped name)

theorem init_unstarted (cmd : XrpDspCmd) (payload : ReportItem) (cells : Nat → XrpCmdNs) : Unstarted (firstBoot cmd payload cells) := by
  have links (pri : Nat) : ∃ last, taskLink (firstBoot cmd payload cells).ns.dsp pri = .last last := by
    simp only [firstBoot, initNsDsp, initDsp, taskLink]
    split
    · exact ⟨_, rfl⟩
    · split <;> exact ⟨_, rfl⟩
  refine ⟨fun pri running => ?_, fun name leads => ?_⟩
  · simp only [firstBoot, initNsDsp, initDsp, Running] at running
    split at running
    · cases running
    · split at running <;> cases running
  · cases leads with
    | vector irq name enabled link =>
        cases irq with
        | xrp => exact (Link.node.inj link).symm
        | unused | isp0 | isp1 | vipre | postIsp => cases enabled
    | running other name runs link =>
        obtain ⟨last, ends⟩ := links other
        cases ends.symm.trans link
    | linked other name before link =>
        obtain ⟨last, ends⟩ := links other
        cases ends.symm.trans link

theorem unstarted_run (cmd : XrpDspCmd) (payload : ReportItem) (cells : Nat → XrpCmdNs) (finish : Firmware) (events : List ServedEvent)
    (ran : run servedStep (firstBoot cmd payload cells) events = some finish) (others : ∀ event ∈ events, ¬ Starts event) :
    Unstarted finish := by
  have both := guarded_run_invariant servedStep (fun _ event => ¬ Starts event) (fun state => ServedSound state ∧ Unstarted state)
    (fun state event next held other taken => ⟨sound_step state next held.1 event taken,
    unstarted_step state next event held.1 other taken held.2⟩)
    _ finish events ⟨init_sound cmd payload cells, init_unstarted cmd payload cells⟩
    (guarded_of_forall servedStep _ _ events fun event member _ => others event member) ran
  exact both.2

-- A slot in which TASK_ALLOC leaves nothing of use behind cannot be told from a
-- fresh one, by whatever commands, requests and interrupts come next.
theorem reused_slot_fresh (cmd : XrpDspCmd) (payload : ReportItem) (cells : Nat → XrpCmdNs) (start : Firmware) (events : List ServedEvent)
    (reached : run servedStep (firstBoot cmd payload cells) events = some start) (slot : Nat) (inTable : slot < psMaxTaskType)
    (free : (start.ns.dsp.tasks slot).status = .free) (fresh : SlotFresh start slot) (later : List ServedEvent) :
    (transcript observedStep start later).map Prod.snd = (transcript observedStep (restored start slot) later).map Prod.snd := by
  have sound := served_run_sound cmd payload cells start events reached
  have param := (served_run_free (fun algo => algo.param = none) rfl rfl cmd payload cells start events reached).2 slot free
  have process := (served_run_bare cmd payload cells start events reached).2 slot free
  have related : ServedSound start ∧ Mirrors slot start (restored start slot) :=
    ⟨sound, restored_mirrors slot inTable start sound free ⟨param, process⟩ fresh⟩
  refine transcript_alike observedStep (fun state other => ServedSound state ∧
    Mirrors slot state other) (fun state other event both => ?_)
    start (restored start slot) later related
  have steps := mirrors_step slot inTable state other event both.2 both.1
  cases first : observedStep state event with
  | none =>
      rw [first] at steps
      generalize observedStep other event = second at steps ⊢
      cases steps
      exact .none
  | some one =>
      rw [first] at steps
      generalize observedStep other event = second at steps ⊢
      obtain ⟨next, taken, rfl⟩ := Option.map_eq_some_iff.mp first
      cases steps with
      | some same => exact .some ⟨⟨sound_step state next both.1 event taken, same.1⟩, same.2⟩

-- A task that got a front end, but neither a back end nor a start.
def frontOnly : List ServedEvent :=
  (hostCommand (.taskAlloc (some .hwToSw) true) none ++ hostCommand (.feConfig 2 (.isp (smallIspConfig 512))) none ++
    hostCommand (.taskFree 2) none).map .firmware

def frontOnlyEnd : Firmware := (run servedStep (firstBoot anyCmd anyReport zeroCells) frontOnly).get (by decide)

def allocAgain : List ServedEvent := (hostCommand (.taskAlloc (some .hwToSw) true) none ++
  hostCommand (.beConfig 2 (.host ⟨3, fun _ => zeroBuffer⟩ (some 100))) none ++
  hostCommand (.beAssginBuf 2 ⟨0, fun _ => zeroBuffer⟩) none).map .firmware

theorem reused_slot_fresh_front : (transcript observedStep frontOnlyEnd allocAgain).map Prod.snd =
    (transcript observedStep (restored frontOnlyEnd 0) allocAgain).map Prod.snd := by
  have reached : run servedStep (firstBoot anyCmd anyReport zeroCells) frontOnly = some frontOnlyEnd := (Option.some_get _).symm
  have unstarted := unstarted_run anyCmd anyReport zeroCells frontOnlyEnd frontOnly reached (by decide)
  exact reused_slot_fresh anyCmd anyReport zeroCells frontOnlyEnd frontOnly reached 0 (by decide) (by decide)
    ⟨fun leads => absurd (unstarted.common 0 leads) (by decide), by decide, by decide, by decide, fun _ => by decide,
      fun software => absurd software (by decide)⟩ allocAgain

-- The VIPRE has written a frame.
def vipreWritten : LoopEvent := .interrupt .vipre ⟨⟨false, 0, false⟩, ⟨true, false, false, zeroMeta⟩, ⟨false, false⟩⟩

def framePair : VipreConfigPar := ⟨0, 1, 0, 2, 0, 640, 480, 640, 0, fun buffer => if buffer = 0 then 0x10000 else 0x60000⟩

def servedCommands (commands : List Command) : List ServedEvent :=
  (commands.flatMap fun command => hostCommand command none).map .firmware

-- The second task on the VIPRE leaves its check behind.
def checkLeft : List ServedEvent := servedCommands
  [.taskAlloc (some .hwToSw) true, .feConfig 2 (.vipre framePair), .beConfig 2 (.host ⟨3, fun _ => zeroBuffer⟩ (some 100)),
    .algoConfig 2 ⟨0, 0, 0, 0, 0, 0⟩ (blocksEnv 200 (7, 2) (some 300)), .taskAlloc (some .hwToSw) true,
    .feConfig 3 (.vipre framePair), .taskFree 3]

-- The next task of the entry is on the ISP. The VIPRE writes a frame while it
-- runs.
def checkedAgain : List ServedEvent := servedCommands
  [.taskAlloc (some .hwToSw) true, .feConfig 3 (.isp (smallIspConfig 512)), .beConfig 3 (.host ⟨3, fun _ => zeroBuffer⟩ (some 110)),
    .algoConfig 3 ⟨0, 0, 0, 0, 0, 0⟩ (blocksEnv 210 (8, 2) (some 310)), .taskStart 2, .taskStart 3] ++
  ([ispLines 1, LoopEvent.schedule zeroScratch .failure, vipreWritten] ++
    List.replicate 6 (LoopEvent.schedule zeroScratch .failure)).map fun event => .firmware (.loop event)

def lastReady (pri : Nat) (observations : Option (List Observation)) : Option Bool :=
  (observations.bind List.getLast?).map fun observation => isReady observation.ready pri

-- Both runs come to their end, and only in one of them the task is left ready.
theorem empty_check_reused : ¬ ∀ (cmd : XrpDspCmd) (payload : ReportItem) (cells : Nat → XrpCmdNs) (start : Firmware)
    (events : List ServedEvent) (slot : Nat) (later : List ServedEvent),
    run servedStep (firstBoot cmd payload cells) events = some start → slot < psMaxTaskType → (start.ns.dsp.tasks slot).status = .free →
    (transcript observedStep start later).map Prod.snd = (transcript observedStep (restored start slot) later).map Prod.snd := by
  intro claim
  let start := (run servedStep (firstBoot anyCmd anyReport zeroCells) checkLeft).get (by decide +kernel)
  have same := claim anyCmd anyReport zeroCells start checkLeft 1 checkedAgain (Option.some_get _).symm (by decide) (by decide +kernel)
  have reused : lastReady 1 ((transcript observedStep start checkedAgain).map Prod.snd) = some true := by decide +kernel
  have fresh : lastReady 1 ((transcript observedStep (restored start 1) checkedAgain).map Prod.snd) = some false := by decide +kernel
  rw [same, fresh] at reused
  exact absurd reused (by decide)

end CsiDsp
