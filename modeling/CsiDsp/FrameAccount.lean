import CsiDsp.IspSteps
import CsiDsp.FrontEndLoop
import CsiDsp.SwRing

set_option autoImplicit false

namespace CsiDsp

open CInt Runs

-- The steps that are left at most.
def HwPc.left : HwPc → Nat
  | .resetExtra => 10
  | .getEntry => 9
  | .checkOverflow | .beGetEntry _ => 8
  | .overflowFe | .runAlgo _ _ => 7
  | .overflowBe | .entryDone _ _ => 6
  | .checkRecovering | .feCheck _ => 5
  | .checkRecovered | .entryStart _ => 4
  | .recoveredFe => 3
  | .recoveredBe => 2
  | .dropReport | .dropEntry _ | .beCheck | .resultReport _ => 1
  | .finish _ => 0

theorem left_or_finish (pc : HwPc) : 0 < pc.left ∨ ∃ answer, pc = .finish answer := by
  cases pc with
  | finish answer => exact .inr ⟨answer, rfl⟩
  | _ => exact .inl (Nat.zero_lt_succ _)

-- A run of dsp_process_hw_task from one of its places to its return.
inductive HwLeads (scratch : Scratch) (algo : AlgoResult) (pri : Nat) : Dsp → HwPc → Dsp → TaskResult → Prop where
  | done (dsp : Dsp) (result : TaskResult) : HwLeads scratch algo pri dsp (.finish result) dsp result
  | step (dsp next last : Dsp) (pc after : HwPc) (result : TaskResult) (going : 0 < pc.left)
      (taken : hwStep scratch algo dsp pri pc = some (next, after)) (rest : HwLeads scratch algo pri next after last result) :
      HwLeads scratch algo pri dsp pc last result

-- The report step of ps_task_shedule after a run.
def reported (pri : Nat) (ran : Dsp) (result : TaskResult) : Dsp := if result.withReport then sendReport ran pri else ran

-- The consumer's side of the front end and the head of its FIFO, when there is an entry.
def feHeadEntry (dsp : Dsp) (fe : DspFeHandler) : Option (Bool × Nat) :=
  match fe.ops with
  | none => none
  | some .isp =>
      let side := dsp.isp.customerPingPongFlag
      if isEmptyFifo (dsp.isp.fifo.get side) then none else some (side, (dsp.isp.fifo.get side).head)
  | some .vipre =>
      let side := dsp.vipre.customerPingPongFlag
      if isEmptyFifo (dsp.vipre.fifo.get side) then none else some (side, (dsp.vipre.fifo.get side).head)

def HeadGone (before after : Dsp) (fe : DspFeHandler) : Prop :=
  feHeadEntry before fe ≠ none ∧ feHeadEntry after fe ≠ feHeadEntry before fe

def RingKept (before after : SwBeHandler) : Prop := after.headId = before.headId ∧ after.validBufNum = before.validBufNum

def RingAdvanced (before after : SwBeHandler) : Prop :=
  after.headId = (before.headId + 1) % before.bufNum ∧ after.validBufNum = before.validBufNum - 1

-- The mailbox was free and has got an id.
def Posted (before after : Dsp) : Prop := before.cmd.reportId = 0 ∧ after.cmd.reportId ≠ 0

def IsResult (item : ReportItem) : Prop := item.type = .result ∨ item.type = .resultWithExraParam

def IsDrop (item : ReportItem) : Prop := item.type = .noBuf ∨ item.type = .hwFrameDrop

def Carries (item : ReportItem) (buffer : CsiDspBuffer) : Prop := IsResult item ∧ item.data = buffer

-- What the front end, the ring and the host have to agree on after a run: one
-- buffer and its report for an entry, or a report that it was dropped.
structure FrameAccount (before after : Dsp) (fe : DspFeHandler) (slot : Int) : Prop where
  gone : HeadGone before after fe →
    Xor (RingAdvanced (before.swBe slot) (after.swBe slot) ∧ Posted before after ∧
        Carries after.payload ((before.swBe slot).bufs (before.swBe slot).headId))
      (RingKept (before.swBe slot) (after.swBe slot) ∧ Posted before after ∧ IsDrop after.payload)
  kept : ¬ HeadGone before after fe →
    RingKept (before.swBe slot) (after.swBe slot) ∧ ¬ (Posted before after ∧ IsResult after.payload)

def FrameAccounted (scratch : Scratch) (algo : AlgoResult) (dsp : Dsp) (pri : Nat) : Prop :=
  ∀ ran result, HwLeads scratch algo pri dsp .resetExtra ran result →
    FrameAccount dsp (reported pri ran result) (dsp.tasks pri).fe (dsp.tasks pri).be.id

-- A task from hardware to software as the host sets it up, and a back end
-- whose numbers are those of its fields.
structure HwToSwTask (dsp : Dsp) (pri : Nat) : Prop where
  type : (dsp.tasks pri).type = .hwToSw
  param : (dsp.tasks pri).algo.param ≠ none
  host : (dsp.tasks pri).be.ops = some .host
  number : (dsp.swBe (dsp.tasks pri).be.id).bufNum < 256
  valid : (dsp.swBe (dsp.tasks pri).be.id).validBufNum < 128

section Runs

variable (scratch : Scratch) (algo : AlgoResult) (pri : Nat)

theorem hw_leads_unique (dsp first second : Dsp) (pc : HwPc) (one two : TaskResult) (left : HwLeads scratch algo pri dsp pc first one)
    (right : HwLeads scratch algo pri dsp pc second two) : first = second ∧ one = two := by
  induction left with
  | done dsp result =>
      cases right with
      | done => exact ⟨rfl, rfl⟩
      | step _ next _ _ after _ going => exact absurd going (Nat.lt_irrefl 0)
  | step dsp next last pc after result going taken rest ih =>
      cases right with
      | done => exact absurd going (Nat.lt_irrefl 0)
      | step _ other _ _ later _ _ same more =>
          cases taken.symm.trans same
          exact ih more

theorem sched_hw_step (dsp : Dsp) (pc : HwPc) (going : 0 < pc.left) :
    schedStep ⟨dsp, .hw pri pc⟩ scratch algo = (hwStep scratch algo dsp pri pc).map fun step => ⟨step.1, .hw pri step.2⟩ := by
  cases pc with
  | finish answer => exact absurd going (Nat.lt_irrefl 0)
  | _ => rfl

-- A run that comes to a call through NULL or to a trap in a driver.
inductive HwTraps : Dsp → HwPc → Prop where
  | here (dsp : Dsp) (pc : HwPc) (trap : hwStep scratch algo dsp pri pc = none) : HwTraps dsp pc
  | step (dsp next : Dsp) (pc after : HwPc) (taken : hwStep scratch algo dsp pri pc = some (next, after)) (rest : HwTraps next after) :
      HwTraps dsp pc

theorem hw_step_left (dsp next : Dsp) (pc after : HwPc) (going : 0 < pc.left)
    (taken : hwStep scratch algo dsp pri pc = some (next, after)) : after.left < pc.left := by
  cases pc with
  | finish answer => exact absurd going (Nat.lt_irrefl 0)
  | resetExtra =>
      rw [hwStep] at taken
      split at taken <;> cases taken
      decide
  | dropReport | resultReport out =>
      cases taken
      exact Nat.zero_lt_one
  | overflowFe | overflowBe | recoveredFe | recoveredBe | dropEntry entry | entryDone entry out =>
      obtain ⟨middle, -, same⟩ := Option.map_eq_some_iff.mp taken
      cases same
      simp only [HwPc.left]
      decide
  | runAlgo entry out =>
      simp only [hwStep] at taken
      split at taken <;> cases taken <;> (simp only [HwPc.left]; decide)
  | getEntry =>
      obtain ⟨⟨middle, entry, found⟩, -, same⟩ := Option.bind_eq_some_iff.mp taken
      cases same
      cases found <;> (simp only [HwPc.left, if_true, Bool.false_eq_true, if_false]; decide)
  | beGetEntry entry =>
      obtain ⟨⟨middle, out, found⟩, -, same⟩ := Option.bind_eq_some_iff.mp taken
      cases same
      cases found
      · rw [if_neg Bool.false_ne_true]
        split <;> (simp only [HwPc.left]; decide)
      · simp only [HwPc.left, if_true]
        decide
  | checkOverflow | checkRecovering | checkRecovered | feCheck out =>
      obtain ⟨state, -, same⟩ := Option.bind_eq_some_iff.mp taken
      cases same
      split <;> (simp only [HwPc.left]; decide)
  | beCheck =>
      obtain ⟨state, -, same⟩ := Option.bind_eq_some_iff.mp taken
      cases same
      exact Nat.zero_lt_one
  | entryStart out =>
      obtain ⟨⟨middle, started⟩, -, same⟩ := Option.bind_eq_some_iff.mp taken
      cases same
      cases started
      · simp only [HwPc.left, if_true]
        decide
      · simp only [Bool.true_eq_false, if_false]
        split <;> (simp only [HwPc.left]; decide)

-- Every run returns or traps.
theorem hw_run_ends (left : Nat) (dsp : Dsp) (pc : HwPc) (short : pc.left ≤ left) :
    (∃ ran result, HwLeads scratch algo pri dsp pc ran result) ∨ HwTraps scratch algo pri dsp pc := by
  induction left generalizing dsp pc with
  | zero =>
      cases pc with
      | finish answer => exact .inl ⟨dsp, answer, .done dsp answer⟩
      | _ => exact absurd short (by simp only [HwPc.left]; decide)
  | succ left ih =>
      rcases left_or_finish pc with going | ⟨answer, rfl⟩
      · cases taken : hwStep scratch algo dsp pri pc with
        | none => exact .inr (.here dsp pc taken)
        | some step =>
            have fewer := hw_step_left scratch algo pri dsp step.1 pc step.2 going taken
            rcases ih step.1 step.2 (by omega) with ⟨ran, result, leads⟩ | traps
            · exact .inl ⟨ran, result, .step dsp step.1 ran pc step.2 result going taken leads⟩
            · exact .inr (.step dsp step.1 pc step.2 taken traps)
      · exact .inl ⟨dsp, answer, .done dsp answer⟩

-- The scheduler takes the task through the run, step by step, and then sends its report.
theorem hw_leads_scheduled (dsp ran : Dsp) (pc : HwPc) (result : TaskResult) (leads : HwLeads scratch algo pri dsp pc ran result) :
    ∃ steps, run loopStep ⟨dsp, .hw pri pc⟩ (List.replicate steps (.schedule scratch algo)) =
      some ⟨reported pri ran result, .clear pri⟩ := by
  induction leads with
  | done dsp result =>
      cases answer : result.withReport with
      | true =>
          refine ⟨2, ?_⟩
          simp only [List.replicate, run, loopStep, schedStep, answer, if_true, Option.bind_some, reported]
      | false =>
          refine ⟨1, ?_⟩
          simp only [List.replicate, run, loopStep, schedStep, answer, Bool.false_eq_true, if_false, Option.bind_some, reported]
  | step dsp next last pc after result going taken rest ih =>
      obtain ⟨steps, ran⟩ := ih
      refine ⟨steps + 1, ?_⟩
      have stepped : loopStep ⟨dsp, .hw pri pc⟩ (.schedule scratch algo) = some ⟨next, .hw pri after⟩ := by
        rw [loopStep, sched_hw_step scratch algo pri dsp pc going, taken]
        rfl
      rw [List.replicate_succ, run, stepped]
      exact ran

end Runs

-- The front end's functions leave everything but its driver alone.
structure FeOnly (before after : Dsp) : Prop where
  tasks : after.tasks = before.tasks
  swBe : after.swBe = before.swBe
  cmd : after.cmd = before.cmd
  payload : after.payload = before.payload
  extra : after.extraReport = before.extraReport

section FrontEnd

variable (scratch : Scratch) (dsp next : Dsp) (fe : DspFeHandler)

theorem fe_get_only (entry : EntryStruct) (found : Bool) (done : feGetNextEntry scratch dsp fe = some (next, entry, found)) :
    FeOnly dsp next := by
  rw [feGetNextEntry] at done
  split at done
  · cases done
  · obtain ⟨⟨handler, answer⟩, -, same⟩ := Option.map_eq_some_iff.mp done
    cases same
    exact ⟨rfl, rfl, rfl, rfl, rfl⟩
  · obtain ⟨⟨handler, answer⟩, -, same⟩ := Option.map_eq_some_iff.mp done
    cases same
    exact ⟨rfl, rfl, rfl, rfl, rfl⟩

theorem fe_update_only (done : feUpdateState dsp fe = some next) : FeOnly dsp next := by
  rw [feUpdateState] at done
  split at done
  · cases done
  · obtain ⟨handler, -, rfl⟩ := Option.map_eq_some_iff.mp done
    exact ⟨rfl, rfl, rfl, rfl, rfl⟩
  · obtain ⟨handler, -, rfl⟩ := Option.map_eq_some_iff.mp done
    exact ⟨rfl, rfl, rfl, rfl, rfl⟩

theorem fe_done_only (entry : EntryStruct) (done : feEntryDone dsp fe entry = some next) : FeOnly dsp next := by
  rw [feEntryDone] at done
  split at done
  · cases done
  · cases done
    exact ⟨rfl, rfl, rfl, rfl, rfl⟩
  · obtain ⟨handler, -, rfl⟩ := Option.map_eq_some_iff.mp done
    exact ⟨rfl, rfl, rfl, rfl, rfl⟩

-- Looking for an entry takes none away.
theorem fe_get_head (entry : EntryStruct) (found : Bool) (done : feGetNextEntry scratch dsp fe = some (next, entry, found)) :
    feHeadEntry next fe = feHeadEntry dsp fe := by
  rw [feGetNextEntry] at done
  split at done
  · cases done
  · rename_i ops
    obtain ⟨⟨handler, answer⟩, looked, same⟩ := Option.map_eq_some_iff.mp done
    cases same
    obtain ⟨⟨middle, list, got⟩, entry_, rest⟩ := Option.bind_eq_some_iff.mp looked
    have kept : handler.customerPingPongFlag = dsp.isp.customerPingPongFlag ∧ handler.fifo = dsp.isp.fifo := by
      have same : handler = middle := by
        dsimp only at rest
        split at rest
        · cases rest
          rfl
        · split at rest <;> (cases rest; rfl)
      rw [same]
      rcases get_outcome dsp.isp middle scratch.list list got entry_ with rfl | ⟨-, rfl⟩
      · exact ⟨rfl, rfl⟩
      · exact ⟨rfl, rfl⟩
    simp only [feHeadEntry, ops, kept.1, kept.2]
  · rename_i ops
    obtain ⟨⟨handler, answer⟩, looked, same⟩ := Option.map_eq_some_iff.mp done
    cases same
    obtain ⟨⟨middle, buffer, got⟩, entry_, rest⟩ := Option.bind_eq_some_iff.mp looked
    have kept := vipre_next_entry_fifo dsp.vipre middle _ _ _ _ entry_
    have same : handler = middle := by
      dsimp only at rest
      split at rest
      · cases rest
        rfl
      · obtain ⟨content, -, last⟩ := Option.bind_eq_some_iff.mp rest
        cases last
        rfl
    rw [← same] at kept
    simp only [feHeadEntry, ops, kept.1, kept.2]

end FrontEnd

def taskRing (dsp : Dsp) (pri : Nat) : SwBeHandler := dsp.swBe (dsp.tasks pri).be.id

-- sw_be_entry_start takes the back end for invalid.
def RingBroken (ring : SwBeHandler) : Prop := ring.report = none ∨ 1 < ring.validBufNum ∧ ring.bufNum ≤ ring.headId

instance (ring : SwBeHandler) : Decidable (RingBroken ring) := inferInstanceAs (Decidable (_ ∨ _))

def ResultFits (dsp : Dsp) (pri : Nat) (extra : List UInt8) : Prop :=
  (dsp.tasks pri).report.buf ≠ none ∧ bufferSize + extra.length < maxReportSize

-- What keeps the account when entry_done leaves the front end in the state done.
def PoppedKept (dsp : Dsp) (pri : Nat) (buffer : CsiDspBuffer) (extra : List UInt8) (done : Dsp) : Prop :=
  let gone := HeadGone dsp done (dsp.tasks pri).fe
  if feGetState done (dsp.tasks pri).fe ≠ some 0 then ¬ gone
  else if RingBroken (taskRing dsp pri) then
    (gone → dsp.cmd.reportId = 0 ∧ IsDrop dsp.payload) ∧ (¬ gone → ¬ (dsp.cmd.reportId = 0 ∧ IsResult dsp.payload))
  else if (taskRing dsp pri).validBufNum ≤ 1 then gone → dsp.cmd.reportId = 0
  else if dsp.cmd.reportId = 0 then gone ∧ (ResultFits dsp pri extra ∨ Carries dsp.payload buffer)
  else ¬ gone

-- The same for an entry that was found.
def FoundKept (algo : AlgoResult) (dsp : Dsp) (pri : Nat) (got : Dsp) (entry : EntryStruct) : Prop :=
  match getSwBeNextEntry (taskRing dsp pri) with
  | none => ∀ done, feEntryDone got (dsp.tasks pri).fe entry = some done → ¬ HeadGone dsp done (dsp.tasks pri).fe
  | some buffer =>
      match (dsp.tasks pri).algo.algoProcess, algo with
      | none, _ | _, .failure => True
      | some _, .done extra => ∀ done, feEntryDone { got with extraReport := extra } (dsp.tasks pri).fe entry = some done →
          PoppedKept dsp pri buffer extra done

-- And for the recovery without an entry, from the state updated and with the
-- back end in the state status.
def RecoveryKept (dsp : Dsp) (pri : Nat) (updated : Dsp) (status : Int) : Prop :=
  if feGetState updated (dsp.tasks pri).fe = some EhwErrorCode.recoverying.code ∧ status = EhwErrorCode.recoveryDone.code then
    ∀ last, feUpdateState updated (dsp.tasks pri).fe = some last →
      (HeadGone dsp last (dsp.tasks pri).fe → dsp.cmd.reportId = 0 ∧ ((dsp.tasks pri).report.buf ≠ none ∨ IsDrop dsp.payload)) ∧
        (¬ HeadGone dsp last (dsp.tasks pri).fe →
          ¬ (dsp.cmd.reportId = 0 ∧ (dsp.tasks pri).report.buf = none ∧ IsResult dsp.payload))
  else ¬ HeadGone dsp updated (dsp.tasks pri).fe

def MissingKept (dsp : Dsp) (pri : Nat) (got : Dsp) : Prop :=
  if feGetState got (dsp.tasks pri).fe = some EhwErrorCode.overFlow.code then
    ∀ updated, feUpdateState got (dsp.tasks pri).fe = some updated →
      RecoveryKept dsp pri updated (swRecoveryStateUpdate (taskRing dsp pri)).status
  else RecoveryKept dsp pri got (taskRing dsp pri).status

def AccountKept (scratch : Scratch) (algo : AlgoResult) (dsp : Dsp) (pri : Nat) : Prop :=
  match feGetNextEntry scratch { dsp with extraReport := [] } (dsp.tasks pri).fe with
  | none => True
  | some (got, entry, true) => FoundKept algo dsp pri got entry
  | some (got, _, false) => MissingKept dsp pri got

section Steps

variable (scratch : Scratch) (algo : AlgoResult) (pri : Nat) (dsp last : Dsp) (pc : HwPc) (result : TaskResult)

theorem hw_leads_step (next : Dsp) (after : HwPc) (going : 0 < pc.left)
    (taken : hwStep scratch algo dsp pri pc = some (next, after)) :
    HwLeads scratch algo pri dsp pc last result ↔ HwLeads scratch algo pri next after last result := by
  constructor
  · intro leads
    cases leads with
    | done => exact absurd going (Nat.lt_irrefl 0)
    | step _ other _ _ later _ _ same rest =>
        cases taken.symm.trans same
        exact rest
  · exact fun rest => .step dsp next last pc after result going taken rest

theorem hw_leads_trap (going : 0 < pc.left) (trap : hwStep scratch algo dsp pri pc = none) :
    ¬ HwLeads scratch algo pri dsp pc last result := by
  intro leads
  cases leads with
  | done => exact absurd going (Nat.lt_irrefl 0)
  | step _ other _ _ later _ _ taken rest =>
      rw [trap] at taken
      cases taken

theorem hw_leads_finish (answer : TaskResult) :
    HwLeads scratch algo pri dsp (.finish answer) last result ↔ last = dsp ∧ result = answer := by
  constructor
  · intro leads
    cases leads with
    | done => exact ⟨rfl, rfl⟩
    | step _ _ _ _ _ _ going => exact absurd going (Nat.lt_irrefl 0)
  · rintro ⟨rfl, rfl⟩
    exact .done last result

end Steps

def hwRun (scratch : Scratch) (algo : AlgoResult) (pri : Nat) : Nat → Dsp → HwPc → Option (Dsp × TaskResult)
  | 0, _, _ => none
  | _ + 1, dsp, .finish result => some (dsp, result)
  | fuel + 1, dsp, pc => (hwStep scratch algo dsp pri pc).bind fun step => hwRun scratch algo pri fuel step.1 step.2

theorem hw_run_leads (scratch : Scratch) (algo : AlgoResult) (pri fuel : Nat) (dsp ran : Dsp) (pc : HwPc) (result : TaskResult)
    (done : hwRun scratch algo pri fuel dsp pc = some (ran, result)) : HwLeads scratch algo pri dsp pc ran result := by
  induction fuel generalizing dsp pc with
  | zero => cases done
  | succ fuel ih =>
      rcases left_or_finish pc with going | ⟨answer, rfl⟩
      · rw [hwRun] at done
        · obtain ⟨⟨next, after⟩, taken, rest⟩ := Option.bind_eq_some_iff.mp done
          exact .step dsp next ran pc after result going taken (ih next after rest)
        · rintro answer rfl
          exact absurd going (Nat.lt_irrefl 0)
      · cases done
        exact .done ran result

-- What a run has left when it returns.
structure RanFrom (dsp ran : Dsp) (slot : Int) (ring : SwBeHandler) (item : ReportItem) (fe : DspFeHandler)
    (head : Option (Bool × Nat)) : Prop where
  cmd : ran.cmd = dsp.cmd
  tasks : ran.tasks = dsp.tasks
  ring : ran.swBe slot = ring
  item : ran.payload = item
  head : feHeadEntry ran fe = head

theorem report_id_set (id : BitVec 32) : id ||| reportToHostFlag ≠ 0 := by
  intro zero
  have bit := congrArg (fun word => word.getLsbD 28) zero
  simp only [BitVec.getLsbD_or] at bit
  rw [show reportToHostFlag.getLsbD 28 = true by decide, Bool.or_true] at bit
  exact absurd bit (by decide)

-- The report step posts what is in the payload when the mailbox is free.
theorem reported_account (pri : Nat) (dsp ran : Dsp) (result : TaskResult) (slot : Int) (ring : SwBeHandler) (item : ReportItem)
    (fe : DspFeHandler) (head : Option (Bool × Nat)) (ran_ : RanFrom dsp ran slot ring item fe head) :
    FrameAccount dsp (reported pri ran result) fe slot ↔
      (feHeadEntry dsp fe ≠ none ∧ head ≠ feHeadEntry dsp fe →
        Xor (RingAdvanced (dsp.swBe slot) ring ∧ (result.withReport = true ∧ dsp.cmd.reportId = 0) ∧
            Carries item ((dsp.swBe slot).bufs (dsp.swBe slot).headId))
          (RingKept (dsp.swBe slot) ring ∧ (result.withReport = true ∧ dsp.cmd.reportId = 0) ∧ IsDrop item)) ∧
      (¬ (feHeadEntry dsp fe ≠ none ∧ head ≠ feHeadEntry dsp fe) →
        RingKept (dsp.swBe slot) ring ∧ ¬ ((result.withReport = true ∧ dsp.cmd.reportId = 0) ∧ IsResult item)) := by
  have kept : (reported pri ran result).swBe = ran.swBe ∧ (reported pri ran result).payload = ran.payload ∧
      feHeadEntry (reported pri ran result) fe = feHeadEntry ran fe := by
    rw [reported]
    split
    · exact ⟨rfl, rfl, rfl⟩
    · exact ⟨rfl, rfl, rfl⟩
  have posted : Posted dsp (reported pri ran result) ↔ result.withReport = true ∧ dsp.cmd.reportId = 0 := by
    rw [Posted, reported]
    cases result.withReport with
    | false =>
        simp only [Bool.false_eq_true, if_false, ran_.cmd, false_and, iff_false]
        exact fun both => both.2 both.1
    | true =>
        simp only [if_true, sendReport, xrpSendReport, ran_.cmd, true_and]
        refine ⟨fun both => both.1, fun free => ⟨free, ?_⟩⟩
        rw [if_neg (not_not_intro free)]
        exact report_id_set _
  constructor
  · rintro ⟨gone, stays⟩
    rw [HeadGone, kept.1, kept.2.1, kept.2.2, posted, ran_.ring, ran_.item, ran_.head] at gone stays
    exact ⟨gone, stays⟩
  · rintro ⟨gone, stays⟩
    constructor
    · rw [HeadGone, kept.1, kept.2.1, kept.2.2, posted, ran_.ring, ran_.item, ran_.head]
      exact gone
    · rw [HeadGone, kept.1, kept.2.1, kept.2.2, posted, ran_.ring, ran_.item, ran_.head]
      exact stays

section Accounts

variable (pri : Nat) (dsp ran : Dsp) (result : TaskResult) (slot : Int) (ring : SwBeHandler) (item : ReportItem)
variable (fe : DspFeHandler) (head : Option (Bool × Nat)) (left : RanFrom dsp ran slot ring item fe head)

include left

theorem silent_account (silent : result.withReport = false) (kept : RingKept (dsp.swBe slot) ring) :
    FrameAccount dsp (reported pri ran result) fe slot ↔ ¬ (feHeadEntry dsp fe ≠ none ∧ head ≠ feHeadEntry dsp fe) := by
  rw [reported_account pri dsp ran result slot ring item fe head left]
  simp only [silent, Bool.false_eq_true, false_and, and_false, xor_self, not_false_eq_true, and_true, kept, implies_true]

theorem notice_account (sends : result.withReport = true) (kept : RingKept (dsp.swBe slot) ring) :
    FrameAccount dsp (reported pri ran result) fe slot ↔
      (feHeadEntry dsp fe ≠ none ∧ head ≠ feHeadEntry dsp fe → dsp.cmd.reportId = 0 ∧ IsDrop item) ∧
        (¬ (feHeadEntry dsp fe ≠ none ∧ head ≠ feHeadEntry dsp fe) → ¬ (dsp.cmd.reportId = 0 ∧ IsResult item)) := by
  have still : ¬ RingAdvanced (dsp.swBe slot) ring := by
    intro advanced
    have less := advanced.2
    have same := kept.2
    omega
  rw [reported_account pri dsp ran result slot ring item fe head left]
  simp only [sends, true_and, still, false_and, kept, Xor, not_false_eq_true, and_true, false_or]

theorem result_account (sends : result.withReport = true) (advanced : RingAdvanced (dsp.swBe slot) ring) :
    FrameAccount dsp (reported pri ran result) fe slot ↔
      (feHeadEntry dsp fe ≠ none ∧ head ≠ feHeadEntry dsp fe) ∧ dsp.cmd.reportId = 0 ∧
        Carries item ((dsp.swBe slot).bufs (dsp.swBe slot).headId) := by
  have moved : ¬ RingKept (dsp.swBe slot) ring := by
    intro kept
    have less := advanced.2
    have same := kept.2
    omega
  rw [reported_account pri dsp ran result slot ring item fe head left]
  simp only [sends, true_and, moved, false_and, advanced, Xor, not_false_eq_true, and_true, or_false]
  by_cases gone : feHeadEntry dsp fe ≠ none ∧ head ≠ feHeadEntry dsp fe
  · simp only [gone, not_true_eq_false, true_and, false_implies, and_true, ne_eq, not_false_eq_true, true_implies, and_self]
  · simp only [gone, not_false_eq_true, true_implies, false_implies, true_and, false_and]

end Accounts

section EntryStart

variable (ring : SwBeHandler) (item : ReportItem) (available : Bool) (running : ring.status = bufStatusAllocted)

include running

theorem start_broken (broken : RingBroken ring) :
    swBeEntryStart available ring item = ({ ring with status := bufStatusInvalid }, item, false) := by
  rw [swBeEntryStart]
  by_cases none_ : ring.report = none
  · rw [if_pos none_]
  · obtain ⟨several, outside⟩ := broken.resolve_left none_
    rw [if_neg none_, if_neg (not_not_intro running), if_neg (Int.not_le.mpr several), if_pos outside]

theorem start_short (sound : ¬ RingBroken ring) (short : ring.validBufNum ≤ 1) :
    swBeEntryStart available ring item = ({ ring with status := bufStatusNoMemory }, { item with type := .noBuf }, false) := by
  rw [RingBroken, not_or] at sound
  obtain ⟨address, report⟩ := Option.ne_none_iff_exists'.mp sound.1
  rw [swBeEntryStart, if_neg sound.1, if_neg (not_not_intro running), if_pos short, report]
  rfl

theorem start_ready (sound : ¬ RingBroken ring) (several : ¬ ring.validBufNum ≤ 1) :
    swBeEntryStart true ring item = ({ ring with
      headId := u8 ((ring.headId + 1) % ring.bufNum : Nat)
      validBufNum := i8 (ring.validBufNum - 1) }, item, true) := by
  rw [RingBroken, not_or] at sound
  rw [swBeEntryStart, if_neg sound.1, if_neg (not_not_intro running), if_neg several,
    if_neg fun outside => sound.2 ⟨Int.not_le.mp several, outside⟩]
  rfl

theorem start_busy (sound : ¬ RingBroken ring) (several : ¬ ring.validBufNum ≤ 1) :
    swBeEntryStart false ring item = (ring, psFillReport ring.report .hwFrameDrop item, false) := by
  rw [RingBroken, not_or] at sound
  rw [swBeEntryStart, if_neg sound.1, if_neg (not_not_intro running), if_neg several,
    if_neg fun outside => sound.2 ⟨Int.not_le.mp several, outside⟩]
  rfl

end EntryStart

theorem result_carries (buf : Option Nat) (buffer : CsiDspBuffer) (extra : List UInt8) (item : ReportItem) :
    Carries (csiDspResultReport buf buffer extra item).1 buffer ↔
      (buf ≠ none ∧ bufferSize + extra.length < maxReportSize) ∨ Carries item buffer := by
  cases buf with
  | none => simp [csiDspResultReport]
  | some address =>
      rw [csiDspResultReport]
      by_cases fits : bufferSize + extra.length < maxReportSize
      · rw [if_pos fits]
        refine iff_of_true ?_ (.inl ⟨Option.some_ne_none address, fits⟩)
        split
        · exact ⟨.inl rfl, rfl⟩
        · exact ⟨.inr rfl, rfl⟩
      · rw [if_neg fits]
        simp [fits]

theorem fe_state_known (dsp done : Dsp) (fe : DspFeHandler) (entry : EntryStruct) (popped : feEntryDone dsp fe entry = some done) :
    ∃ state, feGetState done fe = some state := by
  rw [feEntryDone] at popped
  rw [feGetState]
  split at popped
  · cases popped
  · exact ⟨_, rfl⟩
  · exact ⟨_, rfl⟩

section Paths

variable (scratch : Scratch) (algo : AlgoResult) (dsp : Dsp) (pri : Nat) (task : HwToSwTask dsp pri)

include task

theorem leads_looked (got ran : Dsp) (entry : EntryStruct) (found : Bool) (result : TaskResult)
    (looked : feGetNextEntry scratch { dsp with extraReport := [] } (dsp.tasks pri).fe = some (got, entry, found)) :
    HwLeads scratch algo pri dsp .resetExtra ran result ↔
      HwLeads scratch algo pri got (if found then .beGetEntry entry else .checkOverflow) ran result := by
  obtain ⟨block, param⟩ := Option.ne_none_iff_exists'.mp task.param
  rw [hw_leads_step scratch algo pri dsp ran .resetExtra result { dsp with extraReport := [] } .getEntry (Nat.zero_lt_succ _)
      (by rw [hwStep, param])]
  refine hw_leads_step scratch algo pri _ ran .getEntry result got _ (Nat.zero_lt_succ _) ?_
  simp only [hwStep, looked, Option.bind_eq_bind, Option.bind_some]

theorem looked_trap (ran : Dsp) (result : TaskResult)
    (trap : feGetNextEntry scratch { dsp with extraReport := [] } (dsp.tasks pri).fe = none) :
    ¬ HwLeads scratch algo pri dsp .resetExtra ran result := by
  obtain ⟨block, param⟩ := Option.ne_none_iff_exists'.mp task.param
  rw [hw_leads_step scratch algo pri dsp ran .resetExtra result { dsp with extraReport := [] } .getEntry (Nat.zero_lt_succ _)
      (by rw [hwStep, param])]
  refine hw_leads_trap scratch algo pri _ ran .getEntry result (Nat.zero_lt_succ _) ?_
  simp only [hwStep, trap, Option.bind_eq_bind, Option.bind_none]

omit task in
theorem accounted_at (last : Dsp) (answer : TaskResult)
    (leads : ∀ ran result, HwLeads scratch algo pri dsp .resetExtra ran result ↔ ran = last ∧ result = answer) :
    FrameAccounted scratch algo dsp pri ↔ FrameAccount dsp (reported pri last answer) (dsp.tasks pri).fe (dsp.tasks pri).be.id := by
  constructor
  · exact fun accounted => accounted last answer ((leads last answer).mpr ⟨rfl, rfl⟩)
  · rintro account ran result led
    obtain ⟨rfl, rfl⟩ := (leads ran result).mp led
    exact account

omit task in
theorem accounted_trap (trap : ∀ ran result, ¬ HwLeads scratch algo pri dsp .resetExtra ran result) :
    FrameAccounted scratch algo dsp pri := fun ran result leads => absurd leads (trap ran result)

section Found

variable (got : Dsp) (entry : EntryStruct)
variable (looked : feGetNextEntry scratch { dsp with extraReport := [] } (dsp.tasks pri).fe = some (got, entry, true))

include looked

omit task in
-- The state after entry_done differs from the one before the run in the driver of the front end.
theorem popped_only (extra : List UInt8) (done : Dsp)
    (popped : feEntryDone { got with extraReport := extra } (dsp.tasks pri).fe entry = some done) :
    done.tasks = dsp.tasks ∧ done.swBe = dsp.swBe ∧ done.cmd = dsp.cmd ∧ done.payload = dsp.payload ∧ done.extraReport = extra := by
  have first := fe_get_only scratch _ got _ entry true looked
  have second := fe_done_only _ done _ entry popped
  exact ⟨second.tasks.trans first.tasks, second.swBe.trans first.swBe, second.cmd.trans first.cmd, second.payload.trans first.payload,
    second.extra⟩

theorem unbuffered_kept (empty : getSwBeNextEntry (taskRing dsp pri) = none) : FrameAccounted scratch algo dsp pri ↔
    ∀ done, feEntryDone got (dsp.tasks pri).fe entry = some done → ¬ HeadGone dsp done (dsp.tasks pri).fe := by
  have only := fe_get_only scratch _ got _ entry true looked
  have start (ran : Dsp) (result : TaskResult) := leads_looked scratch algo dsp pri task got ran entry true result looked
  have dropped : hwStep scratch algo got pri (.beGetEntry entry) = some (got, .dropEntry entry) := by
    rw [taskRing] at empty
    simp only [hwStep, beGetNextEntry, only.tasks, only.swBe, task.host, task.type, empty, Option.bind_eq_bind, Option.bind_some,
      Bool.false_eq_true, if_false, if_true]
  cases popped : feEntryDone got (dsp.tasks pri).fe entry with
  | none =>
      refine iff_of_true (accounted_trap scratch algo dsp pri fun ran result leads => ?_) fun done given => (by cases given)
      rw [start, if_pos rfl,
        hw_leads_step scratch algo pri got ran (.beGetEntry entry) result got (.dropEntry entry) (Nat.zero_lt_succ _) dropped] at leads
      exact hw_leads_trap scratch algo pri got ran (.dropEntry entry) result (Nat.zero_lt_succ _) (by rw [hwStep, only.tasks, popped]; rfl) leads
  | some done =>
      have after := fe_done_only got done _ entry popped
      have account := accounted_at scratch algo dsp pri done .failure fun ran result => by
        rw [start, if_pos rfl,
        hw_leads_step scratch algo pri got ran (.beGetEntry entry) result got (.dropEntry entry) (Nat.zero_lt_succ _) dropped,
          hw_leads_step scratch algo pri got ran (.dropEntry entry) result done (.finish .failure) (Nat.zero_lt_succ _)
            (by rw [hwStep, only.tasks, popped]; rfl), hw_leads_finish]
      have left : RanFrom dsp done (dsp.tasks pri).be.id (taskRing dsp pri) dsp.payload (dsp.tasks pri).fe
          (feHeadEntry done (dsp.tasks pri).fe) :=
        ⟨after.cmd.trans only.cmd, after.tasks.trans only.tasks,
          by rw [after.swBe, only.swBe]; rfl, after.payload.trans only.payload, rfl⟩
      rw [account, silent_account pri dsp done .failure _ _ _ _ _ left rfl ⟨rfl, rfl⟩]
      refine ⟨fun kept other given => ?_, fun kept => kept done rfl⟩
      cases given
      exact kept

-- Without an algorithm, or when it fails, nothing has happened.
theorem unprocessed_kept (buffer : CsiDspBuffer) (filled : getSwBeNextEntry (taskRing dsp pri) = some buffer)
    (stops : (dsp.tasks pri).algo.algoProcess = none ∨ algo = .failure) : FrameAccounted scratch algo dsp pri := by
  have only := fe_get_only scratch _ got _ entry true looked
  have running : hwStep scratch algo got pri (.beGetEntry entry) = some (got, .runAlgo entry buffer) := by
    rw [taskRing] at filled
    simp only [hwStep, beGetNextEntry, only.tasks, only.swBe, task.host, filled, Option.bind_eq_bind, Option.bind_some, if_true]
  have stopped : hwStep scratch algo got pri (.runAlgo entry buffer) = some (got, .finish .failure) := by
    rcases stops with none_ | rfl
    · simp only [hwStep, only.tasks, none_]
    · simp only [hwStep]
      cases (got.tasks pri).algo.algoProcess <;> rfl
  rw [accounted_at scratch algo dsp pri got .failure fun ran result => by
    rw [leads_looked scratch algo dsp pri task got ran entry true result looked, if_pos rfl,
      hw_leads_step scratch algo pri got ran (.beGetEntry entry) result got (.runAlgo entry buffer) (Nat.zero_lt_succ _) running,
      hw_leads_step scratch algo pri got ran (.runAlgo entry buffer) result got (.finish .failure) (Nat.zero_lt_succ _) stopped, hw_leads_finish]]
  have left : RanFrom dsp got (dsp.tasks pri).be.id (taskRing dsp pri) dsp.payload (dsp.tasks pri).fe
      (feHeadEntry got (dsp.tasks pri).fe) := ⟨only.cmd, only.tasks, by rw [only.swBe]; rfl, only.payload, rfl⟩
  rw [silent_account pri dsp got .failure _ _ _ _ _ left rfl ⟨rfl, rfl⟩, fe_get_head scratch _ got _ entry true looked]
  exact fun gone => gone.2 rfl

section Popped

variable (buffer : CsiDspBuffer) (filled : getSwBeNextEntry (taskRing dsp pri) = some buffer)
variable (runs : (dsp.tasks pri).algo.algoProcess ≠ none) (extra : List UInt8) (processed : algo = .done extra)

include filled runs processed

theorem leads_processed (ran : Dsp) (result : TaskResult) : HwLeads scratch algo pri dsp .resetExtra ran result ↔
    HwLeads scratch algo pri { got with extraReport := extra } (.entryDone entry buffer) ran result := by
  have only := fe_get_only scratch _ got _ entry true looked
  obtain ⟨process, some_⟩ := Option.ne_none_iff_exists'.mp runs
  have running : hwStep scratch algo got pri (.beGetEntry entry) = some (got, .runAlgo entry buffer) := by
    rw [taskRing] at filled
    simp only [hwStep, beGetNextEntry, only.tasks, only.swBe, task.host, filled, Option.bind_eq_bind, Option.bind_some, if_true]
  have ended : hwStep scratch algo got pri (.runAlgo entry buffer) =
    some ({ got with extraReport := extra }, .entryDone entry buffer) := by
    simp only [hwStep, only.tasks, some_, processed]
  rw [leads_looked scratch algo dsp pri task got ran entry true result looked, if_pos rfl,
    hw_leads_step scratch algo pri got ran (.beGetEntry entry) result got (.runAlgo entry buffer) (Nat.zero_lt_succ _) running]
  exact hw_leads_step scratch algo pri got ran (.runAlgo entry buffer) result _ _ (Nat.zero_lt_succ _) ended

variable (done : Dsp) (popped : feEntryDone { got with extraReport := extra } (dsp.tasks pri).fe entry = some done)

include popped

theorem leads_checked (state : Int) (checked : feGetState done (dsp.tasks pri).fe = some state) (ran : Dsp) (result : TaskResult) :
    HwLeads scratch algo pri dsp .resetExtra ran result ↔
      HwLeads scratch algo pri done (if state ≠ 0 then .finish .failure else .entryStart buffer) ran result := by
  have only := fe_get_only scratch _ got _ entry true looked
  have after := popped_only scratch dsp pri got entry looked extra done popped
  have entry_ : ({ got with extraReport := extra } : Dsp).tasks pri = dsp.tasks pri := congrFun only.tasks pri
  rw [leads_processed scratch algo dsp pri task got entry looked buffer filled runs extra processed,
    hw_leads_step scratch algo pri _ ran (.entryDone entry buffer) result done (.feCheck buffer) (Nat.zero_lt_succ _)
      (by rw [hwStep, entry_, popped]; rfl)]
  refine hw_leads_step scratch algo pri done ran (.feCheck buffer) result done _ (Nat.zero_lt_succ _) ?_
  simp only [hwStep, after.1, checked, Option.bind_eq_bind, Option.bind_some]

theorem faulted_kept (state : Int) (checked : feGetState done (dsp.tasks pri).fe = some state) (fault : state ≠ 0) :
    FrameAccounted scratch algo dsp pri ↔ ¬ HeadGone dsp done (dsp.tasks pri).fe := by
  have after := popped_only scratch dsp pri got entry looked extra done popped
  rw [accounted_at scratch algo dsp pri done .failure fun ran result => by
    rw [leads_checked scratch algo dsp pri task got entry looked buffer filled runs extra processed done popped state checked,
      if_pos fault, hw_leads_finish]]
  exact silent_account pri dsp done .failure _ (taskRing dsp pri) dsp.payload _ _
    ⟨after.2.2.1, after.1, by rw [after.2.1]; rfl, after.2.2.2.1, rfl⟩ rfl ⟨rfl, rfl⟩

variable (checked : feGetState done (dsp.tasks pri).fe = some 0)

include checked

-- The ring refuses: the run ends with a report if the back end is in an error.
theorem refused_leads (handler : SwBeHandler) (item : ReportItem)
    (refused : swBeEntryStart (psReportAvaiable dsp) (taskRing dsp pri) dsp.payload = (handler, item, false)) (ran : Dsp)
    (result : TaskResult) : HwLeads scratch algo pri dsp .resetExtra ran result ↔
      ran = { done with swBe := Function.update done.swBe (dsp.tasks pri).be.id handler, payload := item } ∧
        result = if handler.status < 0 then .failureWithReport else .failure := by
  obtain ⟨tasks, swBe, cmd, payload, -⟩ := popped_only scratch dsp pri got entry looked extra done popped
  have available : psReportAvaiable done = psReportAvaiable dsp := by
    rw [psReportAvaiable, psReportAvaiable, cmd]
  rw [taskRing] at refused
  rw [leads_checked scratch algo dsp pri task got entry looked buffer filled runs extra processed done popped 0 checked,
    if_neg (not_not_intro rfl),
    hw_leads_step scratch algo pri done ran (.entryStart buffer) result
      { done with swBe := Function.update done.swBe (dsp.tasks pri).be.id handler, payload := item } .beCheck (Nat.zero_lt_succ _)
      (by simp only [hwStep, beEntryStart, tasks, task.host, available, swBe, payload, refused, Option.bind_eq_bind, Option.bind_some, if_true]),
    hw_leads_step scratch algo pri _ ran .beCheck result
      { done with swBe := Function.update done.swBe (dsp.tasks pri).be.id handler, payload := item }
      (.finish (if handler.status < 0 then .failureWithReport else .failure)) (Nat.zero_lt_succ _)
      (by simp only [hwStep, beGetState, tasks, task.host, swBeGetExeptional, Function.update_self, Option.bind_eq_bind, Option.bind_some]),
    hw_leads_finish]

theorem started_leads (handler : SwBeHandler) (item : ReportItem)
    (started : swBeEntryStart (psReportAvaiable dsp) (taskRing dsp pri) dsp.payload = (handler, item, true)) (ran : Dsp)
    (result : TaskResult) : HwLeads scratch algo pri dsp .resetExtra ran result ↔
      ran = { done with
        swBe := Function.update done.swBe (dsp.tasks pri).be.id handler
        payload := (csiDspResultReport (dsp.tasks pri).report.buf buffer extra item).1 } ∧ result = .successWithReport := by
  obtain ⟨tasks, swBe, cmd, payload, same⟩ := popped_only scratch dsp pri got entry looked extra done popped
  have available : psReportAvaiable done = psReportAvaiable dsp := by
    rw [psReportAvaiable, psReportAvaiable, cmd]
  rw [taskRing] at started
  rw [leads_checked scratch algo dsp pri task got entry looked buffer filled runs extra processed done popped 0 checked,
    if_neg (not_not_intro rfl),
    hw_leads_step scratch algo pri done ran (.entryStart buffer) result
      { done with swBe := Function.update done.swBe (dsp.tasks pri).be.id handler, payload := item } (.resultReport buffer) (Nat.zero_lt_succ _)
      (by simp only [hwStep, beEntryStart, tasks, task.host, task.type, available, swBe, payload, started, Option.bind_eq_bind,
        Option.bind_some, Bool.true_eq_false, if_false, if_true]),
    hw_leads_step scratch algo pri _ ran (.resultReport buffer) result { done with
      swBe := Function.update done.swBe (dsp.tasks pri).be.id handler
      payload := (csiDspResultReport (dsp.tasks pri).report.buf buffer extra item).1 } (.finish .successWithReport) (Nat.zero_lt_succ _)
      (by simp only [hwStep, tasks, same]),
    hw_leads_finish]

-- A run that ends in a refusal of the ring.
theorem refused_account (handler : SwBeHandler) (item : ReportItem)
    (refused : swBeEntryStart (psReportAvaiable dsp) (taskRing dsp pri) dsp.payload = (handler, item, false))
    (kept : RingKept (taskRing dsp pri) handler) : FrameAccounted scratch algo dsp pri ↔
      if handler.status < 0 then
        (HeadGone dsp done (dsp.tasks pri).fe → dsp.cmd.reportId = 0 ∧ IsDrop item) ∧
          (¬ HeadGone dsp done (dsp.tasks pri).fe → ¬ (dsp.cmd.reportId = 0 ∧ IsResult item))
      else ¬ HeadGone dsp done (dsp.tasks pri).fe := by
  obtain ⟨tasks, swBe, cmd, payload, -⟩ := popped_only scratch dsp pri got entry looked extra done popped
  have left : RanFrom dsp { done with swBe := Function.update done.swBe (dsp.tasks pri).be.id handler, payload := item }
      (dsp.tasks pri).be.id handler item (dsp.tasks pri).fe (feHeadEntry done (dsp.tasks pri).fe) :=
    ⟨cmd, tasks, Function.update_self .., rfl, rfl⟩
  rw [accounted_at scratch algo dsp pri _ _ fun ran result =>
    refused_leads scratch algo dsp pri task got entry looked buffer filled runs extra processed done popped checked handler item refused ran
      result]
  by_cases error : handler.status < 0
  · rw [if_pos error, if_pos error]
    exact notice_account pri dsp _ .failureWithReport _ handler item _ _ left rfl kept
  · rw [if_neg error, if_neg error]
    exact silent_account pri dsp _ .failure _ handler item _ _ left rfl kept

theorem settled_kept : FrameAccounted scratch algo dsp pri ↔ PoppedKept dsp pri buffer extra done := by
  obtain ⟨tasks, swBe, cmd, payload, -⟩ := popped_only scratch dsp pri got entry looked extra done popped
  obtain ⟨some_, front⟩ := next_entry_head (taskRing dsp pri) buffer filled
  have running : (taskRing dsp pri).status = bufStatusAllocted := by
    by_contra stopped
    rw [getSwBeNextEntry, if_pos stopped] at filled
    cases filled
  have refused (handler : SwBeHandler) (item : ReportItem) :=
    refused_account scratch algo dsp pri task got entry looked buffer filled runs extra processed done popped checked handler item
  simp only [PoppedKept, checked, ne_eq, not_true_eq_false, if_false]
  by_cases broken : RingBroken (taskRing dsp pri)
  · rw [if_pos broken, refused _ _ (start_broken _ _ _ running broken) ⟨rfl, rfl⟩, if_pos (by dsimp only; decide)]
  · rw [if_neg broken]
    by_cases short : (taskRing dsp pri).validBufNum ≤ 1
    · rw [if_pos short, refused _ _ (start_short _ _ _ running broken short) ⟨rfl, rfl⟩, if_pos (by dsimp only; decide)]
      simp [IsDrop, IsResult]
    · rw [if_neg short]
      by_cases free : dsp.cmd.reportId = 0
      · have available : psReportAvaiable dsp = true := by
          rw [psReportAvaiable, xrpGetReportStatus, if_neg (not_not_intro free)]
          rfl
        have ready := start_ready (taskRing dsp pri) dsp.payload running broken short
        nth_rewrite 1 [← available] at ready
        have number := task.number
        have valid := task.valid
        have sound := broken
        rw [RingBroken, not_or] at sound
        have inside : (taskRing dsp pri).headId < (taskRing dsp pri).bufNum := by
          by_contra outside
          exact sound.2 ⟨by omega, by omega⟩
        have below := Nat.mod_lt ((taskRing dsp pri).headId + 1) (Nat.lt_of_le_of_lt (Nat.zero_le _) inside)
        obtain ⟨rest, less⟩ := Int.eq_ofNat_of_zero_le (show 0 ≤ (taskRing dsp pri).validBufNum - 1 by omega)
        have advanced : RingAdvanced (taskRing dsp pri) { taskRing dsp pri with
            headId := u8 (((taskRing dsp pri).headId + 1) % (taskRing dsp pri).bufNum : Nat)
            validBufNum := i8 ((taskRing dsp pri).validBufNum - 1) } := by
          refine ⟨u8_fits _ (Nat.lt_trans below number), ?_⟩
          dsimp only
          rw [less, i8_fits rest (by rw [taskRing] at less; omega)]
        have account := accounted_at scratch algo dsp pri _ _ fun ran result =>
          started_leads scratch algo dsp pri task got entry looked buffer filled runs extra processed done popped checked _ _ ready ran result
        have left : RanFrom dsp { done with
            swBe := Function.update done.swBe (dsp.tasks pri).be.id { taskRing dsp pri with
              headId := u8 (((taskRing dsp pri).headId + 1) % (taskRing dsp pri).bufNum : Nat)
              validBufNum := i8 ((taskRing dsp pri).validBufNum - 1) }
            payload := (csiDspResultReport (dsp.tasks pri).report.buf buffer extra dsp.payload).1 } (dsp.tasks pri).be.id _ _
            (dsp.tasks pri).fe (feHeadEntry done (dsp.tasks pri).fe) := ⟨cmd, tasks, Function.update_self .., rfl, rfl⟩
        rw [if_pos free, account]
        refine (result_account pri dsp _ .successWithReport _ _ _ _ _ left rfl advanced).trans ?_
        rw [taskRing] at front
        rw [front, result_carries]
        exact and_congr_right fun _ => and_iff_right free
      · have busy : psReportAvaiable dsp = false := by
          rw [psReportAvaiable, xrpGetReportStatus, if_pos free]
          rfl
        rw [if_neg free, refused _ _ (by rw [busy]; exact start_busy _ _ running broken short) ⟨rfl, rfl⟩,
          if_neg (by rw [running]; decide)]

omit checked in
theorem popped_kept : FrameAccounted scratch algo dsp pri ↔ PoppedKept dsp pri buffer extra done := by
  obtain ⟨state, checked⟩ := fe_state_known _ done _ entry popped
  by_cases fault : state = 0
  · subst fault
    exact settled_kept scratch algo dsp pri task got entry looked buffer filled runs extra processed done popped checked
  · rw [PoppedKept, checked, if_pos fun same => fault (Option.some.inj same)]
    exact faulted_kept scratch algo dsp pri task got entry looked buffer filled runs extra processed done popped state checked fault

end Popped

theorem found_kept : FrameAccounted scratch algo dsp pri ↔ FoundKept algo dsp pri got entry := by
  rw [FoundKept]
  cases filled : getSwBeNextEntry (taskRing dsp pri) with
  | none => exact unbuffered_kept scratch algo dsp pri task got entry looked filled
  | some buffer =>
      cases runs : (dsp.tasks pri).algo.algoProcess with
      | none => exact iff_of_true (unprocessed_kept scratch algo dsp pri task got entry looked buffer filled (.inl runs)) trivial
      | some process =>
          have runs_ : (dsp.tasks pri).algo.algoProcess ≠ none := by
            rw [runs]
            exact Option.some_ne_none process
          cases answer : algo with
          | failure =>
              subst answer
              exact iff_of_true (unprocessed_kept scratch _ dsp pri task got entry looked buffer filled (.inr rfl)) trivial
          | done extra =>
              subst answer
              dsimp only
              cases popped : feEntryDone { got with extraReport := extra } (dsp.tasks pri).fe entry with
              | none =>
                  refine iff_of_true (accounted_trap scratch _ dsp pri fun ran result leads => ?_) fun done given => (by cases given)
                  rw [leads_processed scratch _ dsp pri task got entry looked buffer filled runs_ extra rfl] at leads
                  have only := fe_get_only scratch _ got _ entry true looked
                  have entry_ : ({ got with extraReport := extra } : Dsp).tasks pri = dsp.tasks pri := congrFun only.tasks pri
                  exact hw_leads_trap scratch _ pri _ ran (.entryDone entry buffer) result (Nat.zero_lt_succ _)
                    (by rw [hwStep, entry_, popped]; rfl) leads
              | some done =>
                  rw [popped_kept scratch _ dsp pri task got entry looked buffer filled runs_ extra rfl done popped]
                  refine ⟨fun kept other given => ?_, fun kept => kept done rfl⟩
                  cases given
                  exact kept

end Found

section Missing

variable (mid : Dsp) (handler : SwBeHandler) (tasks : mid.tasks = dsp.tasks) (cmd : mid.cmd = dsp.cmd)
    (payload : mid.payload = dsp.payload)
variable (ring : mid.swBe (dsp.tasks pri).be.id = handler) (kept : RingKept (taskRing dsp pri) handler)
variable (leads : ∀ ran result, HwLeads scratch algo pri dsp .resetExtra ran result ↔ HwLeads scratch algo pri mid .checkRecovering ran result)

include tasks cmd payload ring kept leads

theorem unrecovered_kept (after : HwPc) (taken : hwStep scratch algo mid pri .checkRecovering = some (mid, after))
    (ends : after = .finish .failure ∨ after = .checkRecovered ∧ handler.status ≠ EhwErrorCode.recoveryDone.code) :
    FrameAccounted scratch algo dsp pri ↔ ¬ HeadGone dsp mid (dsp.tasks pri).fe := by
  have ended (ran : Dsp) (result : TaskResult) : HwLeads scratch algo pri dsp .resetExtra ran result ↔ ran = mid ∧ result = .failure := by
    rw [leads, hw_leads_step scratch algo pri mid ran .checkRecovering result mid after (Nat.zero_lt_succ _) taken]
    rcases ends with rfl | ⟨rfl, other⟩
    · exact hw_leads_finish scratch algo pri mid ran result .failure
    · rw [hw_leads_step scratch algo pri mid ran .checkRecovered result mid (.finish .failure) (Nat.zero_lt_succ _)
        (by simp only [hwStep, beGetState, tasks, task.host, ring, swBeGetExeptional, Option.bind_eq_bind, Option.bind_some, if_neg other]),
        hw_leads_finish]
  rw [accounted_at scratch algo dsp pri mid .failure ended]
  exact silent_account pri dsp mid .failure _ handler dsp.payload _ _ ⟨cmd, tasks, ring, payload, rfl⟩ rfl kept

theorem recovered_kept (taken : hwStep scratch algo mid pri .checkRecovering = some (mid, .checkRecovered))
    (done : handler.status = EhwErrorCode.recoveryDone.code) : FrameAccounted scratch algo dsp pri ↔
      ∀ last, feUpdateState mid (dsp.tasks pri).fe = some last →
        (HeadGone dsp last (dsp.tasks pri).fe → dsp.cmd.reportId = 0 ∧ ((dsp.tasks pri).report.buf ≠ none ∨ IsDrop dsp.payload)) ∧
          (¬ HeadGone dsp last (dsp.tasks pri).fe →
            ¬ (dsp.cmd.reportId = 0 ∧ (dsp.tasks pri).report.buf = none ∧ IsResult dsp.payload)) := by
  have both : hwStep scratch algo mid pri .checkRecovered = some (mid, .recoveredFe) := by
    simp only [hwStep, beGetState, tasks, task.host, ring, swBeGetExeptional, Option.bind_eq_bind, Option.bind_some, if_pos done]
  cases updated : feUpdateState mid (dsp.tasks pri).fe with
  | none =>
      refine iff_of_true (accounted_trap scratch algo dsp pri fun ran result led => ?_) fun last given => (by cases given)
      rw [leads, hw_leads_step scratch algo pri mid ran .checkRecovering result mid .checkRecovered (Nat.zero_lt_succ _) taken,
        hw_leads_step scratch algo pri mid ran .checkRecovered result mid .recoveredFe (Nat.zero_lt_succ _) both] at led
      exact hw_leads_trap scratch algo pri mid ran .recoveredFe result (Nat.zero_lt_succ _) (by rw [hwStep, tasks, updated]; rfl) led
  | some last =>
      have only := fe_update_only mid last _ updated
      have lastTasks : last.tasks = dsp.tasks := only.tasks.trans tasks
      have ended (ran : Dsp) (result : TaskResult) : HwLeads scratch algo pri dsp .resetExtra ran result ↔
          ran = { last with
            swBe := Function.update last.swBe (dsp.tasks pri).be.id (swRecoveryStateUpdate handler)
            payload := psFillReport (dsp.tasks pri).report.buf .hwFrameDrop last.payload } ∧ result = .failureWithReport := by
        rw [leads, hw_leads_step scratch algo pri mid ran .checkRecovering result mid .checkRecovered (Nat.zero_lt_succ _) taken,
          hw_leads_step scratch algo pri mid ran .checkRecovered result mid .recoveredFe (Nat.zero_lt_succ _) both,
          hw_leads_step scratch algo pri mid ran .recoveredFe result last .recoveredBe (Nat.zero_lt_succ _) (by rw [hwStep, tasks, updated]; rfl),
          hw_leads_step scratch algo pri last ran .recoveredBe result
            { last with swBe := Function.update last.swBe (dsp.tasks pri).be.id (swRecoveryStateUpdate handler) } .dropReport (Nat.zero_lt_succ _)
            (by simp only [hwStep, beUpdateState, lastTasks, task.host, only.swBe, ring, Option.map_some]),
          hw_leads_step scratch algo pri _ ran .dropReport result
            { last with
              swBe := Function.update last.swBe (dsp.tasks pri).be.id (swRecoveryStateUpdate handler)
              payload := psFillReport (dsp.tasks pri).report.buf .hwFrameDrop last.payload } (.finish .failureWithReport) (Nat.zero_lt_succ _)
            (by simp only [hwStep, lastTasks]),
          hw_leads_finish]
      have left : RanFrom dsp { last with
          swBe := Function.update last.swBe (dsp.tasks pri).be.id (swRecoveryStateUpdate handler)
          payload := psFillReport (dsp.tasks pri).report.buf .hwFrameDrop last.payload } (dsp.tasks pri).be.id
          (swRecoveryStateUpdate handler) (psFillReport (dsp.tasks pri).report.buf .hwFrameDrop dsp.payload) (dsp.tasks pri).fe
          (feHeadEntry last (dsp.tasks pri).fe) :=
        ⟨only.cmd.trans cmd, lastTasks, Function.update_self .., by rw [only.payload, payload], rfl⟩
      rw [accounted_at scratch algo dsp pri _ _ ended]
      refine (notice_account pri dsp _ .failureWithReport _ _ _ _ _ left rfl kept).trans ?_
      have account : (HeadGone dsp last (dsp.tasks pri).fe → dsp.cmd.reportId = 0 ∧
            IsDrop (psFillReport (dsp.tasks pri).report.buf .hwFrameDrop dsp.payload)) ∧
          (¬ HeadGone dsp last (dsp.tasks pri).fe → ¬ (dsp.cmd.reportId = 0 ∧
            IsResult (psFillReport (dsp.tasks pri).report.buf .hwFrameDrop dsp.payload))) ↔
          (HeadGone dsp last (dsp.tasks pri).fe → dsp.cmd.reportId = 0 ∧ ((dsp.tasks pri).report.buf ≠ none ∨ IsDrop dsp.payload)) ∧
            (¬ HeadGone dsp last (dsp.tasks pri).fe →
              ¬ (dsp.cmd.reportId = 0 ∧ (dsp.tasks pri).report.buf = none ∧ IsResult dsp.payload)) := by
        cases (dsp.tasks pri).report.buf with
        | none => simp [psFillReport]
        | some address => simp [psFillReport, IsDrop, IsResult]
      refine account.trans ⟨fun good other given => ?_, fun good => good last rfl⟩
      cases given
      exact good

theorem recovery_kept (state : Int) (known : feGetState mid (dsp.tasks pri).fe = some state) :
    FrameAccounted scratch algo dsp pri ↔ RecoveryKept dsp pri mid handler.status := by
  have taken : hwStep scratch algo mid pri .checkRecovering =
      some (mid, if state = EhwErrorCode.recoverying.code then .checkRecovered else .finish .failure) := by
    simp only [hwStep, tasks, known, Option.bind_eq_bind, Option.bind_some]
  rw [RecoveryKept, known]
  by_cases recovering : state = EhwErrorCode.recoverying.code
  · rw [if_pos recovering] at taken
    by_cases done : handler.status = EhwErrorCode.recoveryDone.code
    · rw [if_pos ⟨congrArg some recovering, done⟩]
      exact recovered_kept scratch algo dsp pri task mid handler tasks cmd payload ring kept leads taken done
    · rw [if_neg fun both => done both.2]
      exact unrecovered_kept scratch algo dsp pri task mid handler tasks cmd payload ring kept leads _ taken (.inr ⟨rfl, done⟩)
  · rw [if_neg recovering] at taken
    rw [if_neg fun both => recovering (Option.some.inj both.1)]
    exact unrecovered_kept scratch algo dsp pri task mid handler tasks cmd payload ring kept leads _ taken (.inl rfl)

end Missing

omit task in
-- The back end is none of the front end's business.
theorem fe_update_swBe (updated : Dsp) (fe : DspFeHandler) (swBe : Int → SwBeHandler) :
    feUpdateState { updated with swBe := swBe } fe = (feUpdateState updated fe).map fun last => { last with swBe := swBe } := by
  rw [feUpdateState, feUpdateState]
  cases fe.ops with
  | none => rfl
  | some ops =>
      cases ops with
      | isp =>
          exact answer_seen (ispRecoveryStateUpdate updated.isp) _ _ _ fun _ => rfl
      | vipre =>
          exact answer_seen (vipreRecoveryStateUpdate updated.vipre) _ _ _ fun _ => rfl

omit task in
theorem recovery_kept_swBe (updated : Dsp) (status : Int) (swBe : Int → SwBeHandler) :
    RecoveryKept dsp pri { updated with swBe := swBe } status ↔ RecoveryKept dsp pri updated status := by
  have state : feGetState { updated with swBe := swBe } (dsp.tasks pri).fe = feGetState updated (dsp.tasks pri).fe := rfl
  rw [RecoveryKept, RecoveryKept, state, fe_update_swBe]
  by_cases both : feGetState updated (dsp.tasks pri).fe = some EhwErrorCode.recoverying.code ∧ status = EhwErrorCode.recoveryDone.code
  · rw [if_pos both, if_pos both]
    cases feUpdateState updated (dsp.tasks pri).fe with
    | none => simp
    | some last => simp only [Option.map_some, Option.some.injEq, forall_eq']; exact Iff.rfl
  · rw [if_neg both, if_neg both]
    exact Iff.rfl

theorem missing_kept (got : Dsp) (entry : EntryStruct)
    (looked : feGetNextEntry scratch { dsp with extraReport := [] } (dsp.tasks pri).fe = some (got, entry, false)) :
    FrameAccounted scratch algo dsp pri ↔ MissingKept dsp pri got := by
  have only := fe_get_only scratch _ got _ entry false looked
  have known (state : Dsp) : ∃ code, feGetState state (dsp.tasks pri).fe = some code := by
    rw [feGetNextEntry] at looked
    rw [feGetState]
    split at looked
    · cases looked
    · exact ⟨_, rfl⟩
    · exact ⟨_, rfl⟩
  have start (ran : Dsp) (result : TaskResult) := leads_looked scratch algo dsp pri task got ran entry false result looked
  obtain ⟨state, checked⟩ := known got
  have taken : hwStep scratch algo got pri .checkOverflow =
      some (got, if state = EhwErrorCode.overFlow.code then .overflowFe else .checkRecovering) := by
    simp only [hwStep, only.tasks, checked, Option.bind_eq_bind, Option.bind_some]
  have first (ran : Dsp) (result : TaskResult) : HwLeads scratch algo pri dsp .resetExtra ran result ↔
      HwLeads scratch algo pri got (if state = EhwErrorCode.overFlow.code then .overflowFe else .checkRecovering) ran result := by
    rw [start, if_neg Bool.false_ne_true]
    exact hw_leads_step scratch algo pri got ran .checkOverflow result got _ (Nat.zero_lt_succ _) taken
  rw [MissingKept, checked]
  by_cases overflowed : state = EhwErrorCode.overFlow.code
  · rw [if_pos (congrArg some overflowed)]
    simp only [if_pos overflowed] at first
    cases updated : feUpdateState got (dsp.tasks pri).fe with
    | none =>
        refine iff_of_true (accounted_trap scratch algo dsp pri fun ran result leads => ?_) fun other given => (by cases given)
        rw [first] at leads
        exact hw_leads_trap scratch algo pri got ran .overflowFe result (Nat.zero_lt_succ _) (by rw [hwStep, only.tasks, updated]; rfl) leads
    | some after =>
        have change := fe_update_only got after _ updated
        have tasks : after.tasks = dsp.tasks := change.tasks.trans only.tasks
        have swBe : after.swBe = dsp.swBe := change.swBe.trans only.swBe
        obtain ⟨code, later⟩ := known after
        have leads (ran : Dsp) (result : TaskResult) : HwLeads scratch algo pri dsp .resetExtra ran result ↔
            HwLeads scratch algo pri
              { after with swBe := Function.update after.swBe (dsp.tasks pri).be.id (swRecoveryStateUpdate (taskRing dsp pri)) }
              .checkRecovering ran result := by
          rw [first, hw_leads_step scratch algo pri got ran .overflowFe result after .overflowBe (Nat.zero_lt_succ _)
            (by rw [hwStep, only.tasks, updated]; rfl)]
          refine hw_leads_step scratch algo pri after ran .overflowBe result _ .checkRecovering (Nat.zero_lt_succ _) ?_
          simp only [hwStep, beUpdateState, tasks, task.host, swBe, Option.map_some, taskRing]
        have kept := recovery_kept scratch algo dsp pri task
          { after with swBe := Function.update after.swBe (dsp.tasks pri).be.id (swRecoveryStateUpdate (taskRing dsp pri)) }
          (swRecoveryStateUpdate (taskRing dsp pri)) tasks (change.cmd.trans only.cmd) (change.payload.trans only.payload)
          (Function.update_self ..) ⟨rfl, rfl⟩ leads code later
        rw [kept, recovery_kept_swBe]
        refine ⟨fun good other given => ?_, fun good => good after rfl⟩
        cases given
        exact good
  · rw [if_neg fun same => overflowed (Option.some.inj same)]
    simp only [if_neg overflowed] at first
    exact recovery_kept scratch algo dsp pri task got (taskRing dsp pri) only.tasks only.cmd only.payload (by rw [only.swBe]; rfl)
      ⟨rfl, rfl⟩ first state checked

end Paths

-- The account in terms of the states the run goes through.
theorem account_kept (scratch : Scratch) (algo : AlgoResult) (dsp : Dsp) (pri : Nat) (task : HwToSwTask dsp pri) :
    FrameAccounted scratch algo dsp pri ↔ AccountKept scratch algo dsp pri := by
  rw [AccountKept]
  cases looked : feGetNextEntry scratch { dsp with extraReport := [] } (dsp.tasks pri).fe with
  | none =>
      exact iff_of_true (accounted_trap scratch algo dsp pri fun ran result => looked_trap scratch algo dsp pri task ran result looked) trivial
  | some answer =>
      obtain ⟨got, entry, found⟩ := answer
      cases found with
      | true => exact found_kept scratch algo dsp pri task got entry looked
      | false => exact missing_kept scratch algo dsp pri task got entry looked

end CsiDsp
