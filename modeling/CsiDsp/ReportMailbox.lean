import CsiDsp.FrontEndLoop

set_option autoImplicit false

namespace CsiDsp

def swBeFills (available : Bool) (handler : SwBeHandler) : Bool :=
  handler.report.isSome && handler.status == bufStatusAllocted &&
    (decide (handler.validBufNum ≤ 1) || (decide (handler.headId < handler.bufNum) && !available))

def writesReport (dsp : Dsp) (pri : Nat) : HwPc → Bool
  | .dropReport => (dsp.tasks pri).report.buf.isSome
  | .entryStart _ =>
      match (dsp.tasks pri).be.ops with
      | some .host => swBeFills (psReportAvaiable dsp) (dsp.swBe (dsp.tasks pri).be.id)
      | _ => false
  | .resultReport out => (csiDspResultReport (dsp.tasks pri).report.buf out dsp.extraReport dsp.payload).2
  | _ => false

-- The report that xrp_send_report has accepted: its task, and what that task has
-- written in the run that led to it.
structure Accepted where
  pri : Nat
  item : Option ReportItem
deriving DecidableEq, Repr

-- The loop with what has happened to the report: written is what the task of the
-- current run has written, and untouched says that no step of the firmware has
-- changed the payload of a report the host had not answered.
structure Mailbox where
  sched : Sched
  written : Option ReportItem
  accepted : Option Accepted
  untouched : Bool

def writtenAfter (state : Mailbox) (next : Sched) : Option ReportItem :=
  match state.sched.pc with
  | .pick => none
  | .hw pri pc => if writesReport state.sched.dsp pri pc then some next.dsp.payload else state.written
  | _ => state.written

def acceptedAfter (state : Mailbox) : Option Accepted :=
  match state.sched.pc with
  | .report pri => if state.sched.dsp.cmd.reportId = 0 then some ⟨pri, state.written⟩ else state.accepted
  | _ => state.accepted

def mailboxStep (state : Mailbox) (event : LoopEvent) : Option Mailbox := do
  let next ← loopStep state.sched event
  let touched := state.sched.dsp.cmd.reportId ≠ 0 ∧ next.dsp.payload ≠ state.sched.dsp.payload
  match event with
  | .schedule _ _ => some ⟨next, writtenAfter state next, acceptedAfter state, state.untouched && !decide touched⟩
  | .interrupt _ _ => some ⟨next, state.written, state.accepted, state.untouched && !decide touched⟩
  | .hostAck => some ⟨next, state.written, none, state.untouched⟩

def Registered (dsp : Dsp) (pri : Nat) : Prop :=
  (dsp.tasks pri).report.buf ≠ none ∧ (dsp.tasks pri).report.reportId ≠ noReport

-- What the host reads is what the sending task wrote, under the id of a task
-- whose report is registered.
structure MailboxIntact (state : Mailbox) : Prop where
  untouched : state.untouched = true
  held : state.sched.dsp.cmd.reportId ≠ 0 → ∃ pri item, state.accepted = some ⟨pri, some item⟩ ∧
    state.sched.dsp.payload = item ∧ Registered state.sched.dsp pri ∧
    state.sched.dsp.cmd.reportId = (state.sched.dsp.tasks pri).report.reportId ||| reportToHostFlag

-- sw_be_entry_start has a report buffer and a buffer to hand out, the host has
-- answered the last report, and a task without a second buffer is registered.
def StartsFairly (dsp : Dsp) (pri : Nat) (handler : SwBeHandler) : Prop :=
  handler.report ≠ none ∧ 0 ≤ handler.status ∧
    (handler.status = bufStatusAllocted → dsp.cmd.reportId = 0 ∧
      (handler.validBufNum ≤ 1 → Registered dsp pri) ∧ (1 < handler.validBufNum → handler.headId < handler.bufNum))

def ReportsFairly (dsp : Dsp) (pri : Nat) : HwPc → Prop
  | .dropReport => dsp.cmd.reportId = 0 ∧ Registered dsp pri
  | .entryStart _ => (dsp.tasks pri).be.ops = some .host → StartsFairly dsp pri (dsp.swBe (dsp.tasks pri).be.id)
  | .beCheck => (dsp.tasks pri).be.ops = some .postIsp → 0 ≤ postIspGetStatus dsp.postIsp
  | .resultReport _ =>
      dsp.cmd.reportId = 0 ∧ Registered dsp pri ∧ bufferSize + dsp.extraReport.length < maxReportSize
  | _ => True

def KeepsMailbox (state : Mailbox) : LoopEvent → Prop
  | .schedule _ _ => match state.sched.pc with
      | .hw pri pc => ReportsFairly state.sched.dsp pri pc
      | _ => True
  | .interrupt _ _ | .hostAck => True

structure Fresh (state : Mailbox) (pri : Nat) : Prop where
  free : state.sched.dsp.cmd.reportId = 0
  registered : Registered state.sched.dsp pri
  written : state.written = some state.sched.dsp.payload

-- The run goes on to send a report that it has written already.
def Owes (dsp : Dsp) (pri : Nat) : HwPc → Prop
  | .finish result => result.withReport = true
  | .beCheck => (dsp.tasks pri).be.ops = some .host ∧ (dsp.swBe (dsp.tasks pri).be.id).status < 0
  | _ => False

-- Where the loop has yet to send a report.
def Pending (state : Mailbox) : SchedPc → Prop
  | .report pri => Fresh state pri
  | .hw pri pc => Owes state.sched.dsp pri pc → Fresh state pri
  | _ => True

structure MailboxInv (state : Mailbox) : Prop where
  intact : MailboxIntact state
  pending : Pending state state.sched.pc

section Report

variable (dsp : Dsp) (pri : Nat)

theorem sw_be_silent (available : Bool) (handler : SwBeHandler) (item : ReportItem) (silent : swBeFills available handler = false) :
    (swBeEntryStart available handler item).2.1 = item := by
  rw [swBeEntryStart]
  split
  · rfl
  · rename_i present
    split
    · rfl
    · rename_i allocted
      rw [not_not] at allocted
      have buffer := Option.isSome_iff_ne_none.mpr present
      split
      · rename_i few
        simp [swBeFills, buffer, allocted, few] at silent
      · split
        · rfl
        · rename_i few inside
          rw [Nat.not_le] at inside
          split
          · rename_i busy
            simp [swBeFills, buffer, allocted, inside, busy] at silent
          · rfl

theorem result_silent (buf : Option Nat) (out : CsiDspBuffer) (extra : List UInt8) (item : ReportItem)
    (silent : (csiDspResultReport buf out extra item).2 = false) : (csiDspResultReport buf out extra item).1 = item := by
  simp only [csiDspResultReport] at silent ⊢
  split
  · rfl
  · split
    · rename_i fits
      simp only [if_pos fits] at silent
      split at silent <;> cases silent
    · rfl

theorem silent_step_payload (scratch : Scratch) (algo : AlgoResult) (pc after : HwPc) (next : Dsp)
    (silent : writesReport dsp pri pc = false) (done : hwStep scratch algo dsp pri pc = some (next, after)) :
    next.payload = dsp.payload := by
  cases hw_step_change scratch dsp next pc algo pri after done with
  | extra | isp | vipre | backEnd => rename_i same; rw [same]
  | report swBe payload place same =>
      cases pc with
      | dropReport =>
          cases done
          simp only [writesReport, Option.isSome_eq_false_iff, Option.isNone_iff_eq_none] at silent
          simp [psFillReport, silent]
      | entryStart out =>
          obtain ⟨⟨middle, started⟩, begun, same⟩ := Option.bind_eq_some_iff.mp done
          cases same
          unfold beEntryStart at begun
          split at begun
          · cases begun
          · rename_i ops
            cases begun
            simp only [writesReport, ops] at silent
            exact sw_be_silent _ _ _ silent
          · obtain ⟨⟨handler, answer⟩, -, same⟩ := Option.map_eq_some_iff.mp begun
            cases same
            rfl
      | resultReport out =>
          cases done
          exact result_silent _ out _ _ silent
      | resetExtra | getEntry | checkOverflow | overflowFe | overflowBe | checkRecovering | checkRecovered | recoveredFe | recoveredBe
      | beGetEntry | dropEntry | runAlgo | entryDone | feCheck | beCheck | finish => cases place

def HwPc.sending : HwPc → Bool
  | .finish result => result.withReport
  | .beCheck => true
  | _ => false

def HwPc.deciding : HwPc → Bool
  | .dropReport | .entryStart _ | .beCheck | .resultReport _ | .finish _ => true
  | _ => false

theorem undecided_step (scratch : Scratch) (algo : AlgoResult) (pc after : HwPc) (next : Dsp) (early : pc.deciding = false)
    (done : hwStep scratch algo dsp pri pc = some (next, after)) : after.sending = false := by
  cases pc with
  | dropReport | entryStart | beCheck | resultReport | finish => cases early
  | resetExtra =>
      simp only [hwStep] at done
      split at done <;> cases done
      rfl
  | overflowFe | overflowBe | recoveredFe | recoveredBe =>
      obtain ⟨middle, -, same⟩ := Option.map_eq_some_iff.mp done
      cases same
      rfl
  | dropEntry entry | entryDone entry out =>
      obtain ⟨middle, -, same⟩ := Option.map_eq_some_iff.mp done
      cases same
      rfl
  | runAlgo entry out =>
      simp only [hwStep] at done
      split at done <;> (cases done; rfl)
  | getEntry | checkOverflow | checkRecovering | checkRecovered | feCheck out =>
      obtain ⟨middle, -, same⟩ := Option.bind_eq_some_iff.mp done
      cases same
      split <;> rfl
  | beGetEntry entry =>
      obtain ⟨middle, -, same⟩ := Option.bind_eq_some_iff.mp done
      cases same
      split
      · rfl
      · split <;> rfl

theorem owes_sending (pc : HwPc) (owes : Owes dsp pri pc) : pc.sending = true := by
  cases pc with
  | finish result => exact owes
  | beCheck => rfl
  | resetExtra | getEntry | checkOverflow | overflowFe | overflowBe | checkRecovering | checkRecovered | recoveredFe | recoveredBe
  | dropReport | beGetEntry | dropEntry | runAlgo | entryDone | feCheck | entryStart | resultReport => cases owes

-- With a fair start, the host's back end either writes a report and fails, or
-- leaves the report alone and does not ask for one.
theorem fair_start (handler : SwBeHandler) (fair : StartsFairly dsp pri handler) :
    (swBeFills (psReportAvaiable dsp) handler = true ∧ dsp.cmd.reportId = 0 ∧ Registered dsp pri) ∨
      (swBeFills (psReportAvaiable dsp) handler = false ∧
        ((swBeEntryStart (psReportAvaiable dsp) handler dsp.payload).2.2 = false →
          0 ≤ (swBeEntryStart (psReportAvaiable dsp) handler dsp.payload).1.status)) := by
  obtain ⟨present, healthy, ready⟩ := fair
  have buffer := Option.isSome_iff_ne_none.mpr present
  by_cases allocted : handler.status = bufStatusAllocted
  · obtain ⟨answered, registered, inside⟩ := ready allocted
    have available : psReportAvaiable dsp = true := by simp [psReportAvaiable, xrpGetReportStatus, answered]
    by_cases few : handler.validBufNum ≤ 1
    · exact .inl ⟨by simp [swBeFills, buffer, allocted, few], answered, registered few⟩
    · have space := inside (by omega)
      refine .inr ⟨by simp [swBeFills, few, available], fun refused => ?_⟩
      simp [swBeEntryStart, present, allocted, few, available, Nat.not_le.mpr space] at refused
  · refine .inr ⟨by simp [swBeFills, allocted], fun _ => ?_⟩
    simp [swBeEntryStart, present, allocted, healthy]

theorem fair_writes (pc : HwPc) (fair : ReportsFairly dsp pri pc) (writes : writesReport dsp pri pc = true) :
    dsp.cmd.reportId = 0 ∧ Registered dsp pri := by
  cases pc with
  | dropReport => exact fair
  | resultReport out => exact ⟨fair.1, fair.2.1⟩
  | entryStart out =>
      cases ops : (dsp.tasks pri).be.ops with
      | none => simp [writesReport, ops] at writes
      | some kind =>
          cases kind with
          | postIsp => simp [writesReport, ops] at writes
          | host =>
              rcases fair_start dsp pri _ (fair ops) with ⟨-, answered, registered⟩ | ⟨silent, -⟩
              · exact ⟨answered, registered⟩
              · simp [writesReport, ops, silent] at writes
  | resetExtra | getEntry | checkOverflow | overflowFe | overflowBe | checkRecovering | checkRecovered | recoveredFe | recoveredBe
  | beGetEntry | dropEntry | runAlgo | entryDone | feCheck | beCheck | finish => cases writes

-- A fair step that does not write to the report leaves a run that owes a report
-- only where the run owed it before.
theorem owed_step (scratch : Scratch) (algo : AlgoResult) (pc after : HwPc) (next : Dsp) (fair : ReportsFairly dsp pri pc)
    (silent : writesReport dsp pri pc = false) (done : hwStep scratch algo dsp pri pc = some (next, after))
    (tasks : next.tasks = dsp.tasks) (owes : Owes next pri after) : Owes dsp pri pc := by
  have sends := owes_sending next pri after owes
  cases decides : pc.deciding with
  | false =>
      rw [undecided_step dsp pri scratch algo pc after next decides done] at sends
      cases sends
  | true =>
      cases pc with
      | dropReport =>
          rw [writesReport, Option.isSome_eq_false_iff, Option.isNone_iff_eq_none] at silent
          exact absurd silent fair.2.1
      | resultReport out =>
          obtain ⟨-, ⟨buffer, -⟩, fits⟩ := fair
          obtain ⟨address, held⟩ := Option.ne_none_iff_exists'.mp buffer
          simp only [writesReport, csiDspResultReport, held, if_pos fits] at silent
          split at silent <;> cases silent
      | finish result =>
          cases done
          exact owes
      | beCheck =>
          obtain ⟨status, read, same⟩ := Option.bind_eq_some_iff.mp done
          cases same
          split at sends
          · rename_i negative
            unfold beGetState at read
            split at read
            · cases read
            · rename_i ops
              cases read
              exact ⟨ops, negative⟩
            · rename_i ops
              cases read
              exact absurd (fair ops) (by omega)
          · cases sends
      | entryStart out =>
          obtain ⟨⟨middle, started⟩, begun, same⟩ := Option.bind_eq_some_iff.mp done
          cases same
          cases started with
          | true =>
              simp only [Bool.true_eq_false, if_false] at sends
              split at sends <;> cases sends
          | false =>
              obtain ⟨ops, negative⟩ := owes
              rw [tasks] at ops negative
              simp only [beEntryStart, ops] at begun
              simp only [writesReport, ops] at silent
              obtain ⟨handlers, refused⟩ := Prod.mk.inj (Option.some.inj begun)
              rw [← handlers] at negative
              simp only [Function.update_self] at negative
              rcases fair_start dsp pri _ (fair ops) with ⟨fills, -⟩ | ⟨-, nonnegative⟩
              · rw [fills] at silent
                cases silent
              · exact absurd (nonnegative refused) (by omega)
      | resetExtra | getEntry | checkOverflow | overflowFe | overflowBe | checkRecovering | checkRecovered | recoveredFe | recoveredBe
      | beGetEntry | dropEntry | runAlgo | entryDone | feCheck => cases decides

end Report

section Step

variable (state next : Mailbox)

theorem registered_kept (dsp after : Dsp) (pri : Nat) (tasks : after.tasks = dsp.tasks) (registered : Registered dsp pri) :
    Registered after pri := by
  rw [Registered, tasks]
  exact registered

theorem owes_kept (dsp after : Dsp) (pri : Nat) (pc : HwPc) (tasks : after.tasks = dsp.tasks) (swBe : after.swBe = dsp.swBe)
    (owes : Owes after pri pc) : Owes dsp pri pc := by
  simp only [Owes] at owes ⊢
  rw [tasks, swBe] at owes
  exact owes

-- A step that leaves the id of the report and an unanswered payload alone.
theorem intact_kept (intact : MailboxIntact state) (cmd : next.sched.dsp.cmd = state.sched.dsp.cmd)
    (tasks : next.sched.dsp.tasks = state.sched.dsp.tasks) (accepted : next.accepted = state.accepted)
    (payload : state.sched.dsp.cmd.reportId ≠ 0 → next.sched.dsp.payload = state.sched.dsp.payload)
    (untouched : next.untouched = (state.untouched && !decide (state.sched.dsp.cmd.reportId ≠ 0 ∧
      next.sched.dsp.payload ≠ state.sched.dsp.payload))) : MailboxIntact next := by
  refine ⟨?_, fun busy => ?_⟩
  · have kept : ¬ (state.sched.dsp.cmd.reportId ≠ 0 ∧ next.sched.dsp.payload ≠ state.sched.dsp.payload) := fun touched =>
      touched.2 (payload touched.1)
    rw [untouched, intact.untouched, decide_eq_false kept]
    rfl
  · rw [cmd] at busy
    obtain ⟨pri, item, sent, same, registered, id⟩ := intact.held busy
    refine ⟨pri, item, accepted.trans sent, (payload busy).trans same, registered_kept _ _ pri tasks registered, ?_⟩
    rw [cmd, tasks, id]

variable (inv : MailboxInv state)

include inv

theorem mailbox_hw_inv (scratch : Scratch) (algo : AlgoResult) (pri : Nat) (pc after : HwPc) (dsp : Dsp)
    (place : state.sched.pc = .hw pri pc) (fair : ReportsFairly state.sched.dsp pri pc)
    (done : hwStep scratch algo state.sched.dsp pri pc = some (dsp, after)) (sched : next.sched = ⟨dsp, .hw pri after⟩)
    (written : next.written = if writesReport state.sched.dsp pri pc then some dsp.payload else state.written)
    (accepted : next.accepted = state.accepted)
    (untouched : next.untouched = (state.untouched && !decide (state.sched.dsp.cmd.reportId ≠ 0 ∧
      next.sched.dsp.payload ≠ state.sched.dsp.payload))) : MailboxInv next := by
  have frame := hw_change_frame state.sched.dsp dsp _ pc (hw_step_change scratch state.sched.dsp dsp pc algo pri after done)
  have tasks := loop_frame_tasks _ _ (hw_loop_frame _ _ frame)
  have cmd : dsp.cmd = state.sched.dsp.cmd := by
    rw [HwFrame] at frame
    rw [frame]
  have silent := silent_step_payload state.sched.dsp pri scratch algo pc after dsp
  refine ⟨intact_kept state next inv.intact (by rw [sched, cmd]) (by rw [sched, tasks]) accepted (fun busy => ?_) untouched, ?_⟩
  · cases writes : writesReport state.sched.dsp pri pc with
    | true => exact absurd (fair_writes _ pri pc fair writes).1 busy
    | false =>
        rw [sched]
        exact silent writes done
  · have before := inv.pending
    rw [place] at before
    rw [sched]
    cases writes : writesReport state.sched.dsp pri pc with
    | true =>
        obtain ⟨free, registered⟩ := fair_writes _ pri pc fair writes
        refine fun _ => ⟨by rw [sched, cmd, free], ?_, by rw [written, writes, sched]; rfl⟩
        exact registered_kept _ _ pri (by rw [sched, tasks]) registered
    | false =>
        intro owes
        have earlier := before (owed_step _ pri scratch algo pc after dsp fair writes done tasks (by rwa [sched] at owes))
        refine ⟨by rw [sched, cmd, earlier.free], registered_kept _ _ pri (by rw [sched, tasks]) earlier.registered, ?_⟩
        rw [written, writes, sched, silent writes done]
        exact earlier.written

theorem mailbox_moved_inv (pc : SchedPc) (dsp : Dsp) (written : Option ReportItem) (untouched : Bool)
    (cmd : dsp.cmd = state.sched.dsp.cmd) (tasks : dsp.tasks = state.sched.dsp.tasks) (payload : dsp.payload = state.sched.dsp.payload)
    (history : untouched = (state.untouched && !decide (state.sched.dsp.cmd.reportId ≠ 0 ∧ dsp.payload ≠ state.sched.dsp.payload)))
    (pending : Pending ⟨⟨dsp, pc⟩, written, state.accepted, untouched⟩ pc) :
    MailboxInv ⟨⟨dsp, pc⟩, written, state.accepted, untouched⟩ :=
  ⟨intact_kept state _ inv.intact cmd tasks rfl (fun _ => payload) history, pending⟩

theorem mailbox_interrupt_inv (irq : Irq) (registers : DeviceRegisters) (dsp : Dsp) (untouched : Bool)
    (taken : takeInterrupt state.sched.dsp irq registers = some dsp)
    (history : untouched = (state.untouched && !decide (state.sched.dsp.cmd.reportId ≠ 0 ∧ dsp.payload ≠ state.sched.dsp.payload))) :
    MailboxInv ⟨⟨dsp, state.sched.pc⟩, state.written, state.accepted, untouched⟩ := by
  obtain ⟨driven, visited, last, effect⟩ := interrupt_effect state.sched.dsp dsp irq registers taken
  have driver := run_driver_frame state.sched.dsp driven registers _ effect.ran
  have tasks := loop_frame_tasks _ _ (interrupt_frame state.sched.dsp dsp irq registers taken)
  have cmd : dsp.cmd = state.sched.dsp.cmd := by rw [effect.same, driver]
  have payload : dsp.payload = state.sched.dsp.payload := by rw [effect.same, driver]
  have swBe : dsp.swBe = state.sched.dsp.swBe := by rw [effect.same, driver]
  have fresh {pri : Nat} (earlier : Fresh state pri) :
      Fresh ⟨⟨dsp, state.sched.pc⟩, state.written, state.accepted, untouched⟩ pri :=
    ⟨by rw [cmd]; exact earlier.free, registered_kept _ _ pri tasks earlier.registered, by rw [payload]; exact earlier.written⟩
  refine mailbox_moved_inv state inv state.sched.pc dsp state.written untouched cmd tasks payload history ?_
  have before := inv.pending
  cases place : state.sched.pc with
  | pick | other pri | clear pri => trivial
  | report pri =>
      rw [place] at before fresh
      exact fresh before
  | hw pri pc =>
      rw [place] at before fresh
      exact fun owes => fresh (before (owes_kept _ _ pri pc tasks swBe owes))

theorem mailbox_ack_inv (busy : state.sched.dsp.cmd.reportId ≠ 0) :
    MailboxInv ⟨⟨{ state.sched.dsp with cmd := { state.sched.dsp.cmd with reportId := 0 } }, state.sched.pc⟩, state.written, none,
      state.untouched⟩ := by
  refine ⟨⟨inv.intact.untouched, fun again => absurd rfl again⟩, ?_⟩
  have before := inv.pending
  have stale {pri : Nat} (earlier : Fresh state pri) : False := busy earlier.free
  cases place : state.sched.pc with
  | pick | other pri | clear pri => trivial
  | report pri =>
      rw [place] at before
      exact (stale before).elim
  | hw pri pc =>
      rw [place] at before
      exact fun owes => (stale (before (owes_kept _ _ pri pc rfl rfl owes))).elim

-- A fresh report is accepted, and the host finds it as its task wrote it.
theorem mailbox_send_inv (pri : Nat) (fresh : Fresh state pri) (untouched : Bool)
    (history : untouched = (state.untouched && !decide (state.sched.dsp.cmd.reportId ≠ 0 ∧
      (sendReport state.sched.dsp pri).payload ≠ state.sched.dsp.payload))) :
    MailboxInv ⟨⟨sendReport state.sched.dsp pri, .clear pri⟩, state.written, some ⟨pri, state.written⟩, untouched⟩ := by
  have id : (sendReport state.sched.dsp pri).cmd.reportId = (state.sched.dsp.tasks pri).report.reportId ||| reportToHostFlag := by
    simp [sendReport, xrpSendReport, fresh.free]
  refine ⟨⟨?_, fun _ => ⟨pri, state.sched.dsp.payload, by rw [fresh.written], rfl, fresh.registered, id⟩⟩, trivial⟩
  simp [history, inv.intact.untouched, fresh.free]

theorem mailbox_step_inv (event : LoopEvent) (keeps : KeepsMailbox state event) (taken : mailboxStep state event = some next) :
    MailboxInv next := by
  obtain ⟨sched, stepped, same⟩ := Option.bind_eq_some_iff.mp taken
  cases event with
  | interrupt irq registers =>
      simp only [loopStep, Option.ite_none_right_eq_some, Option.map_eq_some_iff] at stepped
      obtain ⟨-, dsp, interrupted, rfl⟩ := stepped
      cases same
      exact mailbox_interrupt_inv state inv irq registers dsp _ interrupted rfl
  | hostAck =>
      simp only [loopStep, Option.ite_none_left_eq_some, Option.some.injEq] at stepped
      obtain ⟨busy, rfl⟩ := stepped
      cases same
      exact mailbox_ack_inv state inv busy
  | schedule scratch algo =>
      have before := inv.pending
      cases same
      cases sched_outcome state.sched sched scratch algo stepped with
      | stayed place same =>
          subst same
          have accepted : acceptedAfter state = state.accepted := by simp only [acceptedAfter, place]
          rw [accepted]
          exact mailbox_moved_inv state inv state.sched.pc state.sched.dsp _ _ rfl rfl rfl rfl (by rw [place]; trivial)
      | picked place waiting pro same =>
          subst same
          have accepted : acceptedAfter state = state.accepted := by simp only [acceptedAfter, place]
          rw [accepted]
          exact mailbox_moved_inv state inv _ _ _ _ rfl rfl rfl rfl fun owes => owes.elim
      | passed place waiting pro same =>
          subst same
          have accepted : acceptedAfter state = state.accepted := by simp only [acceptedAfter, place]
          rw [accepted]
          exact mailbox_moved_inv state inv _ _ _ _ rfl rfl rfl rfl trivial
      | ran pri pc after dsp place done same =>
          subst same
          have accepted : acceptedAfter state = state.accepted := by simp only [acceptedAfter, place]
          have written : writtenAfter state ⟨dsp, .hw pri after⟩ =
              if writesReport state.sched.dsp pri pc then some dsp.payload else state.written := by simp only [writtenAfter, place]
          simp only [KeepsMailbox, place] at keeps
          exact mailbox_hw_inv state _ inv scratch algo pri pc after dsp place keeps done rfl written accepted rfl
      | finished pri result place same =>
          subst same
          have accepted : acceptedAfter state = state.accepted := by simp only [acceptedAfter, place]
          have written (after : Sched) : writtenAfter state after = state.written := by simp [writtenAfter, place, writesReport]
          rw [accepted, written]
          refine mailbox_moved_inv state inv _ _ _ _ rfl rfl rfl rfl ?_
          rw [place] at before
          split
          · rename_i sends
            exact ⟨(before sends).free, (before sends).registered, (before sends).written⟩
          · trivial
      | left pri place same =>
          subst same
          have accepted : acceptedAfter state = state.accepted := by simp only [acceptedAfter, place]
          rw [accepted]
          exact mailbox_moved_inv state inv _ _ _ _ rfl rfl rfl rfl trivial
      | sent pri place same =>
          subst same
          rw [place] at before
          have accepted : acceptedAfter state = some ⟨pri, state.written⟩ := by simp only [acceptedAfter, place, before.free, if_true]
          have written : writtenAfter state ⟨sendReport state.sched.dsp pri, .clear pri⟩ = state.written := by
            simp only [writtenAfter, place]
          rw [accepted, written]
          exact mailbox_send_inv state inv pri before _ rfl
      | cleared pri place same =>
          subst same
          have accepted : acceptedAfter state = state.accepted := by simp only [acceptedAfter, place]
          rw [accepted]
          exact mailbox_moved_inv state inv _ _ _ _ rfl rfl rfl rfl trivial

end Step

def startMailbox (dsp : Dsp) : Mailbox := ⟨⟨dsp, .pick⟩, none, none, true⟩

-- In a run whose tasks report fairly, the host reads what they wrote.
theorem mailbox_intact (dsp : Dsp) (finish : Mailbox) (events : List LoopEvent) (answered : dsp.cmd.reportId = 0)
    (fair : Runs.Guarded mailboxStep KeepsMailbox (startMailbox dsp) events)
    (ran : Runs.run mailboxStep (startMailbox dsp) events = some finish) : MailboxIntact finish := by
  have initial : MailboxInv (startMailbox dsp) := ⟨⟨rfl, fun busy => absurd answered busy⟩, trivial⟩
  exact (Runs.guarded_run_invariant mailboxStep KeepsMailbox MailboxInv
    (fun state event next inv keeps taken => mailbox_step_inv state next inv event keeps taken)
    (startMailbox dsp) finish events initial fair ran).intact

instance (dsp : Dsp) (pri : Nat) : Decidable (Registered dsp pri) := inferInstanceAs (Decidable (_ ∧ _))

instance (dsp : Dsp) (pri : Nat) (handler : SwBeHandler) : Decidable (StartsFairly dsp pri handler) :=
  inferInstanceAs (Decidable (_ ∧ _ ∧ (_ → _ ∧ (_ → _) ∧ (_ → _))))

instance (dsp : Dsp) (pri : Nat) : ∀ pc, Decidable (ReportsFairly dsp pri pc)
  | .dropReport => inferInstanceAs (Decidable (_ ∧ _))
  | .entryStart _ => inferInstanceAs (Decidable (_ → StartsFairly dsp pri _))
  | .beCheck => inferInstanceAs (Decidable (_ → 0 ≤ postIspGetStatus dsp.postIsp))
  | .resultReport _ => inferInstanceAs (Decidable (_ ∧ _ ∧ _))
  | .resetExtra | .getEntry | .checkOverflow | .overflowFe | .overflowBe | .checkRecovering | .checkRecovered | .recoveredFe
  | .recoveredBe | .beGetEntry _ | .dropEntry _ | .runAlgo _ _ | .entryDone _ _ | .feCheck _ | .finish _ =>
      inferInstanceAs (Decidable True)

instance : ∀ state event, Decidable (KeepsMailbox state event)
  | ⟨⟨dsp, .hw pri pc⟩, _, _, _⟩, .schedule _ _ => inferInstanceAs (Decidable (ReportsFairly dsp pri pc))
  | ⟨⟨_, .pick⟩, _, _, _⟩, .schedule _ _ | ⟨⟨_, .other _⟩, _, _, _⟩, .schedule _ _ | ⟨⟨_, .report _⟩, _, _, _⟩, .schedule _ _
  | ⟨⟨_, .clear _⟩, _, _, _⟩, .schedule _ _ | _, .interrupt _ _ | _, .hostAck => inferInstanceAs (Decidable True)

theorem mailbox_intact_answered : MailboxIntact
    ((Runs.run mailboxStep (startMailbox ispTaskRunning.dsp) (ispLines 4 :: wholeRun ++ .hostAck :: ispLines 8 :: wholeRun)).get
      (by decide)) :=
  mailbox_intact ispTaskRunning.dsp _ (ispLines 4 :: wholeRun ++ .hostAck :: ispLines 8 :: wholeRun) (by decide) (by decide)
    (Option.some_get _).symm

-- The second entry comes before the host has answered the report of the first.
theorem pending_report_overwritten : ¬ ∀ (dsp : Dsp) (finish : Mailbox) (events : List LoopEvent), dsp.cmd.reportId = 0 →
    Runs.run mailboxStep (startMailbox dsp) events = some finish → MailboxIntact finish := by
  intro claim
  let events := ispLines 4 :: wholeRun ++ ispLines 8 :: wholeRun
  let finish := (Runs.run mailboxStep (startMailbox ispTaskRunning.dsp) events).get (by decide)
  have untouched := (claim ispTaskRunning.dsp finish events (by decide) (Option.some_get _).symm).untouched
  exact absurd untouched (by decide)

end CsiDsp
