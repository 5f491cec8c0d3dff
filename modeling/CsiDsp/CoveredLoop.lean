import CsiDsp.SlotCover

set_option autoImplicit false

namespace CsiDsp

open CInt Chain

-- The entries an interrupt comes to, now or once another task is chained to a running one.
inductive Leads (dsp : Dsp) : Nat → Prop where
  | vector (irq : Irq) (name : Nat) (enabled : dsp.enabled irq = true) (link : vectorLink (dsp.vectors irq) = .node name) : Leads dsp name
  | running (other name : Nat) (runs : Running dsp other) (link : taskLink dsp other = .node name) : Leads dsp name
  | linked (other name : Nat) (before : Leads dsp other) (link : taskLink dsp other = .node name) : Leads dsp name

structure Unlinked (dsp : Dsp) (slot : Nat) : Prop where
  apart : ¬ Leads dsp slot
  stopped : ¬ Running dsp slot

-- What the loop looks at in the entry of the task it runs.
structure RunAlike (task other : DspTask) : Prop where
  kind : other.type = task.type
  fe : other.fe = task.fe
  be : other.be = task.be
  algo : other.algo = task.algo
  pro : other.taskPro = task.taskPro
  report : other.report = task.report
  check : other.emptyCheck = task.emptyCheck

section Interrupt

variable (slot : Nat) (veil : DspTask → DspTask) (dsp : Dsp) (unlinked : Unlinked dsp slot)

include unlinked

theorem cover_walk (irq : Irq) (enabled : dsp.enabled irq = true) :
    interruptWalk (coverEntry slot veil dsp) irq = interruptWalk dsp irq := by
  have same (name : Nat) (safe : Leads dsp name) : taskLink (coverEntry slot veil dsp) name = taskLink dsp name := by
    have different : name ≠ slot := by
      rintro rfl
      exact unlinked.apart safe
    rw [taskLink, taskLink, cover_other slot name veil dsp different]
  exact walk_safe (taskLink dsp) (vectorLink (dsp.vectors irq)) (taskLink (coverEntry slot veil dsp)) (Leads dsp) same
    (fun name follow safe link => .linked name follow safe link) (fun name link => .vector irq name enabled link) psMaxTaskType

theorem walk_misses (irq : Irq) (enabled : dsp.enabled irq = true) (visited : List Nat) (last : Vector)
    (walked : interruptWalk dsp irq = some (visited, last)) : slot ∉ visited := by
  intro member
  have chained := chained_of_walk _ _ _ _ _ walked
  exact unlinked.apart (chained_safe (taskLink dsp) _ visited last (Leads dsp) (fun name follow safe link => .linked name follow safe link)
    (fun name link => .vector irq name enabled link) chained slot member)

theorem cover_interrupt (irq : Irq) (enabled : dsp.enabled irq = true) (registers : DeviceRegisters) :
    takeInterrupt (coverEntry slot veil dsp) irq registers = (takeInterrupt dsp irq registers).map (coverEntry slot veil) := by
  simp only [takeInterrupt, cover_walk slot veil dsp unlinked irq enabled]
  cases interruptWalk dsp irq with
  | none => rfl
  | some walked =>
      obtain ⟨visited, last⟩ := walked
      simp only [Option.bind_eq_bind, Option.bind_some]
      have driven : runDriver (coverEntry slot veil dsp) registers last.handler =
        (runDriver dsp registers last.handler).map (coverEntry slot veil) := by
        cases last.handler with
        | isp =>
            exact answer_seen (ispInterruptHandler dsp.isp registers.isp) _ _ _ fun _ => rfl
        | vipre =>
            exact answer_seen (vipreInterruptHandler dsp.vipre registers.vipre) _ _ _ fun _ => rfl
        | postIsp =>
            exact answer_seen (postIspInterruptHandler dsp.postIsp registers.postIsp) _ _ _ fun _ => rfl
        | xrp | unhandled | null | trigger => rfl
      rw [driven]
      cases runDriver dsp registers last.handler <;> rfl

end Interrupt

section Operations

variable (slot : Nat) (veil : DspTask → DspTask) (dsp : Dsp) (scratch : Scratch)

theorem cover_fe_entry (fe : DspFeHandler) : feGetNextEntry scratch (coverEntry slot veil dsp) fe =
    (feGetNextEntry scratch dsp fe).map (coverAnswer slot veil) := by
  unfold feGetNextEntry
  cases fe.ops with
  | none => rfl
  | some ops =>
      cases ops with
      | isp =>
          exact answer_seen (getIspNextEntry scratch.list dsp.isp scratch.entry) _ _ _ fun _ => rfl
      | vipre =>
          exact answer_seen (getVipreNextEntry scratch.vipreBuffer fe.id dsp.vipre scratch.entry) _ _ _ fun _ => rfl

theorem cover_fe_update (fe : DspFeHandler) : feUpdateState (coverEntry slot veil dsp) fe =
    (feUpdateState dsp fe).map (coverEntry slot veil) := by
  unfold feUpdateState
  cases fe.ops with
  | none => rfl
  | some ops =>
      cases ops with
      | isp =>
          exact answer_seen (ispRecoveryStateUpdate dsp.isp) _ _ _ fun _ => rfl
      | vipre =>
          exact answer_seen (vipreRecoveryStateUpdate dsp.vipre) _ _ _ fun _ => rfl

theorem cover_fe_done (fe : DspFeHandler) (entry : EntryStruct) : feEntryDone (coverEntry slot veil dsp) fe entry =
    (feEntryDone dsp fe entry).map (coverEntry slot veil) := by
  unfold feEntryDone
  cases fe.ops with
  | none => rfl
  | some ops =>
      cases ops with
      | isp => rfl
      | vipre =>
          exact answer_seen (viprePopNewEntry dsp.vipre (i16 fe.id)) _ _ _ fun _ => rfl

theorem cover_be_next (be : DspBeHandler) : beGetNextEntry scratch (coverEntry slot veil dsp) be =
    (beGetNextEntry scratch dsp be).map (coverAnswer slot veil) := by
  unfold beGetNextEntry
  cases be.ops with
  | none => rfl
  | some ops =>
      cases ops with
      | host =>
          simp only [cover_rings]
          cases getSwBeNextEntry (dsp.swBe be.id) <;> rfl
      | postIsp =>
          exact answer_seen (getPostIspNextEntry scratch.postEntry dsp.postIsp scratch.out) _ _ _ fun _ => rfl

theorem cover_be_update (be : DspBeHandler) : beUpdateState (coverEntry slot veil dsp) be =
    (beUpdateState dsp be).map (coverEntry slot veil) := by
  unfold beUpdateState
  cases be.ops with
  | none => rfl
  | some ops =>
      cases ops with
      | host => rfl
      | postIsp =>
          exact answer_seen (postIspRecoveryStateUpdate dsp.postIsp) _ _ _ fun _ => rfl

theorem cover_be_start (be : DspBeHandler) (out : CsiDspBuffer) : beEntryStart (coverEntry slot veil dsp) be out =
    (beEntryStart dsp be out).map (coverAnswer slot veil) := by
  unfold beEntryStart
  cases be.ops with
  | none => rfl
  | some ops =>
      cases ops with
      | host => rfl
      | postIsp =>
          exact answer_seen (postIspEntryStart dsp.postIsp out) _ _ _ fun _ => rfl

end Operations

section Step

variable (slot pri : Nat) (veil : DspTask → DspTask) (dsp : Dsp) (scratch : Scratch) (algo : AlgoResult)

theorem cover_hw_step (pc : HwPc) (alike : RunAlike (dsp.tasks pri) ((coverEntry slot veil dsp).tasks pri)) :
    hwStep scratch algo (coverEntry slot veil dsp) pri pc = (hwStep scratch algo dsp pri pc).map (coverAnswer slot veil) := by
  have afterKind (next : Dsp) (tasks : next.tasks = dsp.tasks) : ((coverEntry slot veil next).tasks pri).type =
    (next.tasks pri).type := by
    rw [cover_tasks slot veil dsp next tasks, alike.kind, tasks]
  cases pc with
  | resetExtra =>
      simp only [hwStep, alike.algo]
      cases (dsp.tasks pri).algo.param <;> rfl
  | getEntry =>
      simp only [hwStep, alike.fe, cover_fe_entry]
      cases feGetNextEntry scratch dsp (dsp.tasks pri).fe <;> rfl
  | checkOverflow | checkRecovering =>
      simp only [hwStep, alike.fe, show feGetState (coverEntry slot veil dsp) = feGetState dsp from rfl]
      cases feGetState dsp (dsp.tasks pri).fe <;> rfl
  | overflowFe | recoveredFe =>
      simp only [hwStep, alike.fe, cover_fe_update]
      cases feUpdateState dsp (dsp.tasks pri).fe <;> rfl
  | overflowBe | recoveredBe =>
      simp only [hwStep, alike.be, cover_be_update]
      cases beUpdateState dsp (dsp.tasks pri).be <;> rfl
  | checkRecovered | beCheck =>
      simp only [hwStep, alike.be, show beGetState (coverEntry slot veil dsp) = beGetState dsp from rfl]
      cases beGetState dsp (dsp.tasks pri).be <;> rfl
  | dropReport =>
      simp only [hwStep, alike.report]
      rfl
  | beGetEntry entry =>
      simp only [hwStep, alike.be, cover_be_next]
      cases looked : beGetNextEntry scratch dsp (dsp.tasks pri).be with
      | none => rfl
      | some result =>
          obtain ⟨next, out, found⟩ := result
          have frame := hw_change_frame dsp next _ (.beGetEntry entry) (be_entry_change scratch dsp next _ _ out found looked)
          have kind := afterKind next (loop_frame_tasks dsp next (hw_loop_frame dsp next frame))
          simp only [Option.map_some, coverAnswer, Option.bind_eq_bind, Option.bind_some, kind]
  | dropEntry entry | entryDone entry out =>
      simp only [hwStep, alike.fe, cover_fe_done]
      cases feEntryDone dsp (dsp.tasks pri).fe entry <;> rfl
  | runAlgo entry out =>
      simp only [hwStep, alike.algo]
      cases (dsp.tasks pri).algo.algoProcess <;> cases algo <;> rfl
  | feCheck out =>
      simp only [hwStep, alike.fe, show feGetState (coverEntry slot veil dsp) = feGetState dsp from rfl]
      cases feGetState dsp (dsp.tasks pri).fe <;> rfl
  | entryStart out =>
      simp only [hwStep, alike.be, cover_be_start]
      cases begun : beEntryStart dsp (dsp.tasks pri).be out with
      | none => rfl
      | some result =>
          obtain ⟨next, started⟩ := result
          have frame := hw_change_frame dsp next _ (.entryStart out) (be_start_change dsp next _ _ out started rfl begun)
          have kind := afterKind next (loop_frame_tasks dsp next (hw_loop_frame dsp next frame))
          simp only [Option.map_some, coverAnswer, Option.bind_eq_bind, Option.bind_some, kind]
  | resultReport out =>
      simp only [hwStep, alike.report]
      rfl
  | finish result => rfl

theorem cover_clear (check : ((coverEntry slot veil dsp).tasks pri).emptyCheck = (dsp.tasks pri).emptyCheck) :
    clearTask (coverEntry slot veil dsp) pri = coverEntry slot veil (clearTask dsp pri) := by
  have checks : taskEmptyCheck (coverEntry slot veil dsp) = taskEmptyCheck dsp := by
    funext kind
    cases kind <;> rfl
  rw [clearTask, check, checks]
  rfl

theorem cover_send (report : ((coverEntry slot veil dsp).tasks pri).report = (dsp.tasks pri).report) :
    sendReport (coverEntry slot veil dsp) pri = coverEntry slot veil (sendReport dsp pri) := by
  rw [sendReport, report]
  rfl

end Step

def coverSched (slot : Nat) (veil : DspTask → DspTask) (state : Sched) : Sched := ⟨coverEntry slot veil state.dsp, state.pc⟩

section Sched

variable (slot : Nat) (veil : DspTask → DspTask) (state : Sched)
  (alike : ∀ pri, state.pc.task = some pri → RunAlike (state.dsp.tasks pri) ((coverEntry slot veil state.dsp).tasks pri))
  (picks : state.dsp.ready.grp ≠ 0 → ((coverEntry slot veil state.dsp).tasks (getReadyTask state.dsp.ready)).taskPro =
    (state.dsp.tasks (getReadyTask state.dsp.ready)).taskPro)

include alike picks

theorem cover_sched_step (scratch : Scratch) (algo : AlgoResult) : schedStep (coverSched slot veil state) scratch algo =
    (schedStep state scratch algo).map (coverSched slot veil) := by
  obtain ⟨dsp, pc⟩ := state
  cases pc with
  | pick =>
      simp only [schedStep, coverSched, show (coverEntry slot veil dsp).ready = dsp.ready from rfl]
      by_cases idle : dsp.ready.grp = 0
      · rw [if_pos idle, if_pos idle]
        rfl
      · rw [if_neg idle, if_neg idle, picks idle]
        cases (dsp.tasks (getReadyTask dsp.ready)).taskPro with
        | none => rfl
        | some pro => cases pro <;> rfl
  | hw pri pc =>
      have stepped := cover_hw_step slot pri veil dsp scratch algo pc (alike pri rfl)
      by_cases ends : ∃ result, pc = .finish result
      · obtain ⟨result, rfl⟩ := ends
        rfl
      · have moves (current : Dsp) : schedStep ⟨current, .hw pri pc⟩ scratch algo =
            (hwStep scratch algo current pri pc).map fun answer => ⟨answer.1, .hw pri answer.2⟩ := by
          cases pc with
          | finish result => exact absurd ⟨result, rfl⟩ ends
          | _ => rfl
        rw [coverSched, moves, moves, stepped]
        cases hwStep scratch algo dsp pri pc <;> rfl
  | other pri => rfl
  | report pri => exact congrArg (fun sent => some (Sched.mk sent (.clear pri))) (cover_send slot pri veil dsp (alike pri rfl).report)
  | clear pri => exact congrArg (fun cleared => some (Sched.mk cleared .pick)) (cover_clear slot pri veil dsp (alike pri rfl).check)

theorem cover_loop_step (unlinked : Unlinked state.dsp slot) (event : LoopEvent) : loopStep (coverSched slot veil state) event =
    (loopStep state event).map (coverSched slot veil) := by
  cases event with
  | schedule scratch algo => exact cover_sched_step slot veil state alike picks scratch algo
  | interrupt irq registers =>
      simp only [loopStep, coverSched, show (coverEntry slot veil state.dsp).enabled = state.dsp.enabled from rfl]
      split
      · rename_i enabled
        rw [cover_interrupt slot veil state.dsp unlinked irq enabled registers]
        cases takeInterrupt state.dsp irq registers <;> rfl
      · rfl
  | hostAck =>
      simp only [loopStep, coverSched, show (coverEntry slot veil state.dsp).cmd = state.dsp.cmd from rfl]
      split <;> rfl

end Sched

structure LoopSound (state : Sched) : Prop where
  agree : GroupsAgree state.dsp.ready
  small : ∀ pri, state.pc.task = some pri → pri < 64
  known : state.dsp.highPriTask < psMaxTaskType

-- The loop is not with the task, and no ready bit or empty check will turn it
-- there. A software entry has no function that the loop could run.
structure Asleep (state : Sched) (slot : Nat) : Prop where
  place : state.pc.task ≠ some slot
  hardware : (state.dsp.tasks slot).type.isHw = true → isReady state.dsp.ready slot = false ∧ state.dsp.highPriTask ≠ slot
  software : (state.dsp.tasks slot).type.isHw = false → (state.dsp.tasks slot).taskPro = none

section Loop

variable (state next : Sched) (event : LoopEvent) (slot : Nat) (sound : LoopSound state)

include sound

-- Where the loop turns, there is a function to run.
theorem turns_apart (asleep : Asleep state slot) (waiting : state.dsp.ready.grp ≠ 0)
    (runs : (state.dsp.tasks (getReadyTask state.dsp.ready)).taskPro ≠ none) : getReadyTask state.dsp.ready ≠ slot := by
  intro same
  rw [same] at runs
  cases kind : (state.dsp.tasks slot).type.isHw with
  | false => exact runs (asleep.software kind)
  | true =>
      have ready := (get_ready_task_ready state.dsp.ready sound.agree waiting).1
      rw [same, (asleep.hardware kind).1] at ready
      cases ready

theorem loop_sound_step (taken : loopStep state event = some next) : LoopSound next := by
  have known : next.dsp.highPriTask < psMaxTaskType := by
    rw [loop_frame_high state.dsp next.dsp (loop_step_frame state next event taken)]
    exact sound.known
  cases event with
  | interrupt irq registers =>
      simp only [loopStep, Option.ite_none_right_eq_some, Option.map_eq_some_iff] at taken
      obtain ⟨-, dsp, interrupted, rfl⟩ := taken
      obtain ⟨driven, visited, last, effect⟩ := interrupt_effect state.dsp dsp irq registers interrupted
      refine ⟨?_, sound.small, known⟩
      rw [effect.same]
      exact groups_agree_fold _ _ sound.agree
  | hostAck =>
      simp only [loopStep, Option.ite_none_left_eq_some] at taken
      obtain ⟨-, same⟩ := taken
      cases same
      exact ⟨sound.agree, sound.small, known⟩
  | schedule scratch algo =>
      cases sched_outcome state next scratch algo taken with
      | stayed place same => exact same ▸ sound
      | picked place waiting pro same | passed place waiting pro same =>
          subst same
          refine ⟨sound.agree, fun pri found => ?_, known⟩
          cases found
          exact (get_ready_task_ready state.dsp.ready sound.agree waiting).2
      | ran pri pc after dsp place done same =>
          subst same
          have frame := hw_change_frame state.dsp dsp _ pc (hw_step_change scratch state.dsp dsp pc algo pri after done)
          rw [HwFrame] at frame
          refine ⟨?_, fun other found => sound.small other (by rw [place]; exact found), known⟩
          rw [frame]
          exact sound.agree
      | finished pri result place same =>
          subst same
          have ends : SchedPc.task (if result.withReport then .report pri else .clear pri) = state.pc.task := by
            rw [place]
            split <;> rfl
          exact ⟨sound.agree, fun other found => sound.small other (ends.symm.trans found), known⟩
      | left pri place same | sent pri place same =>
          subst same
          exact ⟨sound.agree, fun other found => sound.small other (by rw [place]; exact found), known⟩
      | cleared pri place same =>
          subst same
          exact ⟨groups_agree_clear_task state.dsp pri sound.agree, fun other found => (by cases found), known⟩

theorem clear_asleep (small : slot < 64) (asleep : Asleep state slot) (hardware : (state.dsp.tasks slot).type.isHw = true) (pri : Nat)
    (here : state.pc.task = some pri) : isReady (clearTask state.dsp pri).ready slot = false := by
  have different : slot ≠ pri := fun same => asleep.place (same ▸ here)
  obtain ⟨quiet, named⟩ := asleep.hardware hardware
  cases clear_outcome state.dsp pri with
  | kept same => rw [same, quiet]
  | gone same => rw [same, is_ready_clear_other state.dsp.ready pri slot (sound.small pri here) small different, quiet]
  | passedOn check waiting other same =>
      have known := sound.known
      have limit : psMaxTaskType = 16 := rfl
      have apart : slot ≠ state.dsp.highPriTask.toNat := by
        intro equal
        apply named
        omega
      rw [same, is_ready_set_other state.dsp.ready _ slot (by omega) small apart, quiet]

omit sound in
theorem interrupt_asleep (small : slot < 64) (unlinked : Unlinked state.dsp slot) (irq : Irq) (enabled : state.dsp.enabled irq = true)
    (registers : DeviceRegisters) (dsp : Dsp) (interrupted : takeInterrupt state.dsp irq registers = some dsp)
    (quiet : isReady state.dsp.ready slot = false) : isReady dsp.ready slot = false := by
  obtain ⟨driven, visited, last, effect⟩ := interrupt_effect state.dsp dsp irq registers interrupted
  have ready : dsp.ready = visited.reverse.foldl setReadyTask state.dsp.ready := by rw [effect.same]
  have inTable : ∀ id ∈ visited.reverse, id < 64 := fun id member =>
    Nat.lt_trans (effect.inTable id (List.mem_reverse.mp member)) (by decide)
  rw [ready, Bool.eq_false_iff]
  intro set
  rcases (ready_fold state.dsp.ready visited.reverse slot inTable small).mp set with woken | before
  · exact walk_misses slot state.dsp unlinked irq enabled visited last effect.walked (List.mem_reverse.mp woken)
  · rw [quiet] at before
    cases before

theorem loop_asleep_step (inTable : slot < psMaxTaskType) (unlinked : Unlinked state.dsp slot) (asleep : Asleep state slot)
    (taken : loopStep state event = some next) : Asleep next slot := by
  have small : slot < 64 := Nat.lt_trans inTable (by decide)
  have frame := loop_step_frame state next event taken
  have tasks := loop_frame_tasks state.dsp next.dsp frame
  have moved (place : next.pc.task ≠ some slot) (quiet : (state.dsp.tasks slot).type.isHw = true → isReady next.dsp.ready slot = false) :
      Asleep next slot := by
    refine ⟨place, fun hardware => ?_, fun software => ?_⟩
    · rw [tasks] at hardware
      rw [loop_frame_high state.dsp next.dsp frame]
      exact ⟨quiet hardware, (asleep.hardware hardware).2⟩
    · rw [tasks] at software ⊢
      exact asleep.software software
  have waits (same : next.dsp.ready = state.dsp.ready) (hardware : (state.dsp.tasks slot).type.isHw = true) :
      isReady next.dsp.ready slot = false := by
    rw [same]
    exact (asleep.hardware hardware).1
  cases event with
  | interrupt irq registers =>
      simp only [loopStep, Option.ite_none_right_eq_some, Option.map_eq_some_iff] at taken
      obtain ⟨enabled, dsp, interrupted, rfl⟩ := taken
      exact moved asleep.place fun hardware =>
        interrupt_asleep state slot small unlinked irq enabled registers dsp interrupted (asleep.hardware hardware).1
  | hostAck =>
      simp only [loopStep, Option.ite_none_left_eq_some] at taken
      obtain ⟨-, same⟩ := taken
      cases same
      exact moved asleep.place (waits rfl)
  | schedule scratch algo =>
      cases sched_outcome state next scratch algo taken with
      | stayed place same => exact same ▸ asleep
      | picked place waiting pro same =>
          subst same
          have apart := turns_apart state slot sound asleep waiting (by rw [pro]; exact Option.some_ne_none _)
          exact moved (fun found => apart (Option.some.inj found)) (waits rfl)
      | passed place waiting pro same =>
          subst same
          have apart := turns_apart state slot sound asleep waiting fun missing => by
            simp only [loopStep, schedStep, place, if_neg waiting, missing] at taken
            have turned := congrArg Sched.pc (Option.some.inj taken)
            rw [place] at turned
            cases turned
          exact moved (fun found => apart (Option.some.inj found)) (waits rfl)
      | ran pri pc after dsp place done same =>
          subst same
          have kept := hw_change_frame state.dsp dsp _ pc (hw_step_change scratch state.dsp dsp pc algo pri after done)
          rw [HwFrame] at kept
          exact moved (fun found => asleep.place (by rw [place]; exact found)) (waits (by rw [kept]))
      | finished pri result place same =>
          subst same
          have ends : SchedPc.task (if result.withReport then .report pri else .clear pri) = state.pc.task := by
            rw [place]
            split <;> rfl
          exact moved (fun found => asleep.place (ends.symm.trans found)) (waits rfl)
      | left pri place same | sent pri place same =>
          subst same
          exact moved (fun found => asleep.place (by rw [place]; exact found)) (waits rfl)
      | cleared pri place same =>
          subst same
          exact moved (fun found => (by cases found)) fun hardware =>
            clear_asleep state slot sound small asleep hardware pri (by rw [place]; rfl)

end Loop

-- What a request to a software task looks at in its entry.
structure RequestAlike (task other : DspTask) : Prop where
  kind : other.type = .swToHw ↔ task.type = .swToHw
  be : task.type = .swToHw → other.be = task.be
  param : other.algo.param = task.algo.param
  process : other.algo.algoProcess = task.algo.algoProcess

section Request

variable (slot pri : Nat) (veil : DspTask → DspTask) (dsp : Dsp) (scratch : Scratch) (algo : AlgoResult) (request : SwTaskReq)

theorem cover_task_out (task other : DspTask) (alike : RequestAlike task other) : swTaskOut scratch (coverEntry slot veil dsp) other =
    (swTaskOut scratch dsp task).map (coverAnswer slot veil) := by
  by_cases hardware : task.type = .swToHw
  · rw [swTaskOut, swTaskOut, if_pos hardware, if_pos (alike.kind.mpr hardware), alike.be hardware, cover_be_next]
    cases beGetNextEntry scratch dsp task.be <;> rfl
  · rw [swTaskOut, swTaskOut, if_neg hardware, if_neg fun same => hardware (alike.kind.mp same)]
    rfl

theorem cover_fill (param : Option Nat) : fillSwTaskAlgoParam (coverEntry slot veil dsp) param request =
    coverEntry slot veil (fillSwTaskAlgoParam dsp param request) := by
  cases param <;> rfl

-- A request leaves the table, the vectors and the loop alone.
structure RequestKeeps (dsp next : Dsp) : Prop where
  tasks : next.tasks = dsp.tasks
  vectors : next.vectors = dsp.vectors
  enabled : next.enabled = dsp.enabled
  ready : next.ready = dsp.ready
  named : next.highPriTask = dsp.highPriTask

theorem request_keeps (next : Dsp) (reply : SwReply) (done : dspProcessSwTask scratch algo dsp pri request = some (next, reply)) :
    RequestKeeps dsp next := by
  have framed (first last : Dsp) (frame : HwFrame first last) (before : RequestKeeps dsp first) : RequestKeeps dsp last := by
    rw [HwFrame] at frame
    rw [frame]
    exact ⟨before.tasks, before.vectors, before.enabled, before.ready, before.named⟩
  obtain ⟨⟨middle, out⟩, looked, rest⟩ := Option.bind_eq_some_iff.mp done
  have got : RequestKeeps dsp middle := by
    unfold swTaskOut at looked
    split at looked
    · obtain ⟨⟨last, buffer, found⟩, given, same⟩ := Option.map_eq_some_iff.mp looked
      cases same
      have frame := hw_change_frame dsp _ _ .getEntry (be_entry_change scratch dsp _ _ .getEntry out found given)
      exact framed dsp _ frame ⟨rfl, rfl, rfl, rfl, rfl⟩
    · cases looked
      exact ⟨rfl, rfl, rfl, rfl, rfl⟩
  have filled : RequestKeeps dsp (fillSwTaskAlgoParam middle (dsp.tasks pri).algo.param request) := by
    cases (dsp.tasks pri).algo.param with
    | none => exact got
    | some param => exact ⟨got.tasks, got.vectors, got.enabled, got.ready, got.named⟩
  dsimp only at rest
  split at rest
  · cases rest
    exact filled
  · cases rest
    exact filled
  · split at rest
    · obtain ⟨state, -, rest⟩ := Option.bind_eq_some_iff.mp rest
      obtain ⟨⟨last, started⟩, begun, same⟩ := Option.bind_eq_some_iff.mp rest
      cases same
      exact framed _ _ (hw_change_frame _ _ (dsp.tasks pri) (.entryStart out) (be_start_change _ _ _ _ out started rfl begun)) filled
    · cases rest
      exact filled

theorem cover_request (alike : RequestAlike (dsp.tasks pri) ((coverEntry slot veil dsp).tasks pri)) :
    dspProcessSwTask scratch algo (coverEntry slot veil dsp) pri request =
      (dspProcessSwTask scratch algo dsp pri request).map (coverAnswer slot veil) := by
  simp only [dspProcessSwTask, cover_task_out slot veil dsp scratch _ _ alike, alike.param, alike.process]
  cases swTaskOut scratch dsp (dsp.tasks pri) with
  | none => rfl
  | some result =>
      obtain ⟨next, out⟩ := result
      simp only [Option.map_some, coverAnswer, Option.bind_eq_bind, Option.bind_some, cover_fill]
      generalize fillSwTaskAlgoParam next (dsp.tasks pri).algo.param request = filled
      cases (dsp.tasks pri).algo.algoProcess with
      | none => rfl
      | some process =>
          cases algo with
          | failure => rfl
          | done extra =>
              by_cases hardware : (dsp.tasks pri).type = .swToHw
              · simp only [if_pos hardware, if_pos (alike.kind.mpr hardware), alike.be hardware, cover_be_start,
                  show beGetState (coverEntry slot veil filled) = beGetState filled from rfl]
                cases beGetState filled (dsp.tasks pri).be with
                | none => rfl
                | some state => cases beEntryStart filled (dsp.tasks pri).be out <;> rfl
              · simp only [if_neg hardware, if_neg fun same => hardware (alike.kind.mp same)]
                rfl

end Request

end CsiDsp
