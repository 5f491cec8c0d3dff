import CsiDsp.Task

set_option autoImplicit false

namespace CsiDsp

open CInt

-- What lies on the stack of dsp_process_hw_task and of the functions it calls
-- before they write to it.
structure Scratch where
  list : SispBuffer × SispBuffer
  vipreBuffer : SvipreBuffer
  entry : EntryStruct
  postEntry : SispBuffer
  out : CsiDspBuffer

def zeroScratch : Scratch :=
  ⟨(⟨0, 0, 0, 0, 0⟩, ⟨0, 0, 0, 0, 0⟩), ⟨0, 0, 0, 0, fun _ => 0⟩, ⟨0, 0, 0, 0, 0, 0, 0, zeroMeta⟩, ⟨0, 0, 0, 0, 0⟩,
    zeroBuffer⟩

-- What algo_process answers. An algorithm that succeeds leaves the bytes of its
-- extra report behind.
inductive AlgoResult where
  | failure
  | done (extra : List UInt8)
deriving DecidableEq, Repr

inductive TaskResult where
  | success
  | failure
  | successWithReport
  | failureWithReport
deriving DecidableEq, Repr

-- status & DSP_REPORT_TO_HOST_FLAG
def TaskResult.withReport : TaskResult → Bool
  | .successWithReport | .failureWithReport => true
  | .success | .failure => false

-- The places of dsp_process_hw_task between two calls of a driver, where an
-- interrupt may come.
inductive HwPc where
  | resetExtra
  | getEntry
  | checkOverflow
  | overflowFe
  | overflowBe
  | checkRecovering
  | checkRecovered
  | recoveredFe
  | recoveredBe
  | dropReport
  | beGetEntry (entry : EntryStruct)
  | dropEntry (entry : EntryStruct)
  | runAlgo (entry : EntryStruct) (out : CsiDspBuffer)
  | entryDone (entry : EntryStruct) (out : CsiDspBuffer)
  | feCheck (out : CsiDspBuffer)
  | entryStart (out : CsiDspBuffer)
  | beCheck
  | resultReport (out : CsiDspBuffer)
  | finish (result : TaskResult)
deriving DecidableEq, Repr

section Operations

variable (scratch : Scratch) (dsp : Dsp)

-- Putting a driver's answer into the state and looking at the whole is the same
-- as putting it into what is looked at.
theorem answer_seen {Answer State View : Type} (answer : Option Answer) (place : Answer → State) (view : State → View)
    (seen : Answer → View) (same : ∀ given, seen given = view (place given)) : answer.map seen = (answer.map place).map view := by
  rw [Option.map_map]
  exact congrArg (fun make => answer.map make) (funext same)

-- The functions of a task's front end. A call through a NULL pointer, or a trap
-- in the driver, is none.
def feGetNextEntry (fe : DspFeHandler) : Option (Dsp × EntryStruct × Bool) :=
  match fe.ops with
  | none => none
  | some .isp =>
      (getIspNextEntry scratch.list dsp.isp scratch.entry).map fun (handler, answer) => ({ dsp with isp := handler }, answer)
  | some .vipre =>
      (getVipreNextEntry scratch.vipreBuffer fe.id dsp.vipre scratch.entry).map fun (handler, answer) =>
        ({ dsp with vipre := handler }, answer)

def feGetState (fe : DspFeHandler) : Option Int :=
  match fe.ops with
  | none => none
  | some .isp => some (ispGetStatus dsp.isp)
  | some .vipre => some (vipreCheckExeptional dsp.vipre)

def feUpdateState (fe : DspFeHandler) : Option Dsp :=
  match fe.ops with
  | none => none
  | some .isp => (ispRecoveryStateUpdate dsp.isp).map fun handler => { dsp with isp := handler }
  | some .vipre => (vipreRecoveryStateUpdate dsp.vipre).map fun handler => { dsp with vipre := handler }

-- vipre_pop_new_entry takes a number of lines, and gets the id of the front end.
def feEntryDone (fe : DspFeHandler) (entry : EntryStruct) : Option Dsp :=
  match fe.ops with
  | none => none
  | some .isp => some { dsp with isp := (ispEntryDone dsp.isp entry).1 }
  | some .vipre => (viprePopNewEntry dsp.vipre (i16 fe.id)).map fun popped => { dsp with vipre := popped.1 }

def beGetNextEntry (be : DspBeHandler) : Option (Dsp × CsiDspBuffer × Bool) :=
  match be.ops with
  | none => none
  | some .host =>
      match getSwBeNextEntry (dsp.swBe be.id) with
      | none => some (dsp, scratch.out, false)
      | some buffer => some (dsp, buffer, true)
  | some .postIsp =>
      (getPostIspNextEntry scratch.postEntry dsp.postIsp scratch.out).map fun (handler, answer) =>
        ({ dsp with postIsp := handler }, answer)

def beGetState (be : DspBeHandler) : Option Int :=
  match be.ops with
  | none => none
  | some .host => some (swBeGetExeptional (dsp.swBe be.id))
  | some .postIsp => some (postIspGetStatus dsp.postIsp)

def beUpdateState (be : DspBeHandler) : Option Dsp :=
  match be.ops with
  | none => none
  | some .host => some { dsp with swBe := Function.update dsp.swBe be.id (swRecoveryStateUpdate (dsp.swBe be.id)) }
  | some .postIsp => (postIspRecoveryStateUpdate dsp.postIsp).map fun handler => { dsp with postIsp := handler }

def psReportAvaiable : Bool := xrpGetReportStatus dsp.cmd == .success

def beEntryStart (be : DspBeHandler) (out : CsiDspBuffer) : Option (Dsp × Bool) :=
  match be.ops with
  | none => none
  | some .host =>
      let (handler, payload, started) := swBeEntryStart (psReportAvaiable dsp) (dsp.swBe be.id) dsp.payload
      some ({ dsp with swBe := Function.update dsp.swBe be.id handler, payload := payload }, started)
  | some .postIsp =>
      (postIspEntryStart dsp.postIsp out).map fun (handler, started) => ({ dsp with postIsp := handler }, started)

end Operations

-- One step of dsp_process_hw_task for the entry pri. A finished run stays where
-- it is.
def hwStep (scratch : Scratch) (algo : AlgoResult) (dsp : Dsp) (pri : Nat) : HwPc → Option (Dsp × HwPc)
  | .resetExtra =>
      match (dsp.tasks pri).algo.param with
      | none => none
      | some _ => some ({ dsp with extraReport := [] }, .getEntry)
  | .getEntry => do
      let (dsp, entry, found) ← feGetNextEntry scratch dsp (dsp.tasks pri).fe
      some (dsp, if found then .beGetEntry entry else .checkOverflow)
  | .checkOverflow => do
      let state ← feGetState dsp (dsp.tasks pri).fe
      some (dsp, if state = EhwErrorCode.overFlow.code then .overflowFe else .checkRecovering)
  | .overflowFe => (feUpdateState dsp (dsp.tasks pri).fe).map fun dsp => (dsp, .overflowBe)
  | .overflowBe => (beUpdateState dsp (dsp.tasks pri).be).map fun dsp => (dsp, .checkRecovering)
  | .checkRecovering => do
      let state ← feGetState dsp (dsp.tasks pri).fe
      some (dsp, if state = EhwErrorCode.recoverying.code then .checkRecovered else .finish .failure)
  | .checkRecovered => do
      let state ← beGetState dsp (dsp.tasks pri).be
      some (dsp, if state = EhwErrorCode.recoveryDone.code then .recoveredFe else .finish .failure)
  | .recoveredFe => (feUpdateState dsp (dsp.tasks pri).fe).map fun dsp => (dsp, .recoveredBe)
  | .recoveredBe => (beUpdateState dsp (dsp.tasks pri).be).map fun dsp => (dsp, .dropReport)
  | .dropReport =>
      some ({ dsp with payload := psFillReport (dsp.tasks pri).report.buf .hwFrameDrop dsp.payload }, .finish .failureWithReport)
  | .beGetEntry entry => do
      let (dsp, out, found) ← beGetNextEntry scratch dsp (dsp.tasks pri).be
      some (dsp, if found then .runAlgo entry out
        else if (dsp.tasks pri).type = .hwToSw then .dropEntry entry else .finish .failure)
  | .dropEntry entry => (feEntryDone dsp (dsp.tasks pri).fe entry).map fun dsp => (dsp, .finish .failure)
  | .runAlgo entry out =>
      match (dsp.tasks pri).algo.algoProcess, algo with
      | none, _ | _, .failure => some (dsp, .finish .failure)
      | some _, .done extra => some ({ dsp with extraReport := extra }, .entryDone entry out)
  | .entryDone entry out => (feEntryDone dsp (dsp.tasks pri).fe entry).map fun dsp => (dsp, .feCheck out)
  | .feCheck out => do
      let state ← feGetState dsp (dsp.tasks pri).fe
      some (dsp, if state ≠ 0 then .finish .failure else .entryStart out)
  | .entryStart out => do
      let (dsp, started) ← beEntryStart dsp (dsp.tasks pri).be out
      some (dsp, if started = false then .beCheck
        else if (dsp.tasks pri).type = .hwToSw then .resultReport out else .finish .success)
  | .beCheck => do
      let state ← beGetState dsp (dsp.tasks pri).be
      some (dsp, .finish (if state < 0 then .failureWithReport else .failure))
  | .resultReport out =>
      let (payload, _) := csiDspResultReport (dsp.tasks pri).report.buf out dsp.extraReport dsp.payload
      some ({ dsp with payload := payload }, .finish .successWithReport)
  | .finish result => some (dsp, .finish result)

-- What a run of a task leaves alone: everything but the drivers, the report and
-- the extra report.
def HwFrame (dsp next : Dsp) : Prop :=
  next = { dsp with
    isp := next.isp, postIsp := next.postIsp, vipre := next.vipre, swBe := next.swBe, payload := next.payload
    extraReport := next.extraReport }

def HwPc.mayReport : HwPc → Bool
  | .dropReport | .entryStart _ | .resultReport _ => true
  | _ => false

-- What one step may change. The driver of an empty VIPRE stays empty.
inductive HwChange (dsp : Dsp) (task : DspTask) (pc : HwPc) (next : Dsp) : Prop where
  | extra (bytes : List UInt8) (same : next = { dsp with extraReport := bytes })
  | isp (handler : SispHandler) (ops : task.fe.ops = some .isp) (same : next = { dsp with isp := handler })
  | vipre (handler : SvipreHandler) (ops : task.fe.ops = some .vipre)
      (empty : vipreIsEmpty dsp.vipre = true → vipreIsEmpty handler = true) (same : next = { dsp with vipre := handler })
  | backEnd (postIsp : SispHandler) (swBe : Int → SwBeHandler) (same : next = { dsp with postIsp := postIsp, swBe := swBe })
  | report (swBe : Int → SwBeHandler) (payload : ReportItem) (place : pc.mayReport = true)
      (same : next = { dsp with swBe := swBe, payload := payload })

section Vipre

variable (handler next : SvipreHandler)

theorem vipre_entry_to_pop_fifo (lineNum : Nat) (buffer result : SvipreBuffer) (found : Bool)
    (done : vipreGetEntryToPop handler lineNum buffer = some (next, result, found)) :
    next.fifo = handler.fifo ∧ next.customerPingPongFlag = handler.customerPingPongFlag := by
  simp only [vipreGetEntryToPop] at done
  split at done
  · cases done
    exact ⟨rfl, rfl⟩
  · split at done
    · cases done
      exact ⟨rfl, rfl⟩
    · split at done
      · cases done
        exact ⟨rfl, rfl⟩
      · obtain ⟨head, -, same⟩ := Option.bind_eq_some_iff.mp done
        cases same
        exact ⟨rfl, rfl⟩

theorem vipre_next_entry_fifo (id : Nat) (buffer result : SvipreBuffer) (found : Bool)
    (done : vipreGetNextEntry handler id buffer = some (next, result, found)) :
    next.fifo = handler.fifo ∧ next.customerPingPongFlag = handler.customerPingPongFlag := by
  have taken (line : Nat) (popped : ((vipreGetEntryToPop handler line buffer).bind fun step =>
      if step.2.2.toInt < 0 then some (step.1, step.2.1, false) else some (step.1, step.2.1, true)) = some (next, result, found)) :
      next.fifo = handler.fifo ∧ next.customerPingPongFlag = handler.customerPingPongFlag := by
    obtain ⟨⟨middle, middleBuffer, middleFound⟩, entry, same⟩ := Option.bind_eq_some_iff.mp popped
    have kept := vipre_entry_to_pop_fifo handler middle line buffer middleBuffer middleFound entry
    dsimp only at same
    split at same <;> (cases same; exact kept)
  simp only [vipreGetNextEntry] at done
  split at done
  · cases done
    exact ⟨rfl, rfl⟩
  · split at done
    · obtain ⟨head, -, same⟩ := Option.bind_eq_some_iff.mp done
      split at same <;> (cases same; exact ⟨rfl, rfl⟩)
    · split at done
      · exact taken _ done
      · split at done
        · exact taken _ done
        · cases done
          exact ⟨rfl, rfl⟩

theorem next_entry_keeps_empty (buffer : SvipreBuffer) (id : Int) (entry result : EntryStruct) (found : Bool)
    (done : getVipreNextEntry buffer id handler entry = some (next, result, found)) : vipreIsEmpty next = vipreIsEmpty handler := by
  obtain ⟨⟨middle, middleBuffer, middleFound⟩, looked, rest⟩ := Option.bind_eq_some_iff.mp done
  obtain ⟨fifo, flag⟩ := vipre_next_entry_fifo handler middle (u16 id) buffer middleBuffer middleFound looked
  have kept : next = middle := by
    dsimp only at rest
    split at rest
    · cases rest
      rfl
    · obtain ⟨content, -, same⟩ := Option.bind_eq_some_iff.mp rest
      cases same
      rfl
  rw [vipreIsEmpty, vipreIsEmpty, kept, fifo, flag]

theorem pop_empty (lineNum : Int) (empty : vipreIsEmpty handler = true) : viprePopNewEntry handler lineNum = some (handler, false) := by
  rw [vipreIsEmpty] at empty
  simp only [viprePopNewEntry, empty, if_true]

theorem recovery_keeps_empty (empty : vipreIsEmpty handler = true) (done : vipreRecoveryStateUpdate handler = some next) :
    vipreIsEmpty next = true := by
  unfold vipreRecoveryStateUpdate at done
  split at done
  · rw [pop_empty handler 1 empty] at done
    cases done
    exact empty
  · cases done
    exact empty
  · cases done
    exact empty
  · cases done
    exact empty

end Vipre

section Change

variable (scratch : Scratch) (dsp next : Dsp) (task : DspTask) (pc : HwPc)

theorem hw_change_same : HwChange dsp task pc dsp := .backEnd dsp.postIsp dsp.swBe rfl

theorem fe_entry_change (entry : EntryStruct) (found : Bool) (done : feGetNextEntry scratch dsp task.fe = some (next, entry, found)) :
    HwChange dsp task pc next := by
  unfold feGetNextEntry at done
  split at done
  · cases done
  · rename_i ops
    obtain ⟨⟨handler, answer⟩, -, same⟩ := Option.map_eq_some_iff.mp done
    cases same
    exact .isp handler ops rfl
  · rename_i ops
    obtain ⟨⟨handler, answer, taken⟩, looked, same⟩ := Option.map_eq_some_iff.mp done
    cases same
    exact .vipre handler ops (fun empty => (next_entry_keeps_empty dsp.vipre handler _ _ _ _ _ looked).trans empty) rfl

theorem fe_update_change (done : feUpdateState dsp task.fe = some next) : HwChange dsp task pc next := by
  unfold feUpdateState at done
  split at done
  · cases done
  · rename_i ops
    obtain ⟨handler, -, rfl⟩ := Option.map_eq_some_iff.mp done
    exact .isp handler ops rfl
  · rename_i ops
    obtain ⟨handler, updated, rfl⟩ := Option.map_eq_some_iff.mp done
    exact .vipre handler ops (fun empty => recovery_keeps_empty dsp.vipre handler empty updated) rfl

theorem fe_done_change (entry : EntryStruct) (done : feEntryDone dsp task.fe entry = some next) : HwChange dsp task pc next := by
  unfold feEntryDone at done
  split at done
  · cases done
  · rename_i ops
    cases done
    exact .isp _ ops rfl
  · rename_i ops
    obtain ⟨⟨handler, popped⟩, taken, rfl⟩ := Option.map_eq_some_iff.mp done
    refine .vipre handler ops (fun empty => ?_) rfl
    rw [pop_empty dsp.vipre _ empty] at taken
    cases taken
    exact empty

theorem be_entry_change (out : CsiDspBuffer) (found : Bool) (done : beGetNextEntry scratch dsp task.be = some (next, out, found)) :
    HwChange dsp task pc next := by
  unfold beGetNextEntry at done
  split at done
  · cases done
  · split at done <;> (cases done; exact hw_change_same dsp task pc)
  · obtain ⟨⟨handler, answer⟩, -, same⟩ := Option.map_eq_some_iff.mp done
    cases same
    exact .backEnd handler dsp.swBe rfl

theorem be_update_change (done : beUpdateState dsp task.be = some next) : HwChange dsp task pc next := by
  unfold beUpdateState at done
  split at done
  · cases done
  · cases done
    exact .backEnd dsp.postIsp _ rfl
  · obtain ⟨handler, -, rfl⟩ := Option.map_eq_some_iff.mp done
    exact .backEnd handler dsp.swBe rfl

theorem be_start_change (out : CsiDspBuffer) (started : Bool) (place : pc.mayReport = true)
    (done : beEntryStart dsp task.be out = some (next, started)) : HwChange dsp task pc next := by
  unfold beEntryStart at done
  split at done
  · cases done
  · cases done
    exact .report _ _ place rfl
  · obtain ⟨⟨handler, answer⟩, -, same⟩ := Option.map_eq_some_iff.mp done
    cases same
    exact .backEnd handler dsp.swBe rfl

theorem hw_step_change (algo : AlgoResult) (pri : Nat) (after : HwPc) (done : hwStep scratch algo dsp pri pc = some (next, after)) :
    HwChange dsp (dsp.tasks pri) pc next := by
  cases pc with
  | resetExtra =>
      simp only [hwStep] at done
      split at done <;> cases done
      exact .extra [] rfl
  | getEntry =>
      obtain ⟨⟨middle, entry, found⟩, looked, same⟩ := Option.bind_eq_some_iff.mp done
      cases same
      exact fe_entry_change scratch dsp _ _ _ entry found looked
  | checkOverflow | checkRecovering | feCheck out =>
      obtain ⟨state, -, same⟩ := Option.bind_eq_some_iff.mp done
      cases same
      exact hw_change_same dsp _ _
  | checkRecovered | beCheck =>
      obtain ⟨state, -, same⟩ := Option.bind_eq_some_iff.mp done
      cases same
      exact hw_change_same dsp _ _
  | overflowFe | recoveredFe =>
      obtain ⟨middle, updated, same⟩ := Option.map_eq_some_iff.mp done
      cases same
      exact fe_update_change dsp _ _ _ updated
  | overflowBe | recoveredBe =>
      obtain ⟨middle, updated, same⟩ := Option.map_eq_some_iff.mp done
      cases same
      exact be_update_change dsp _ _ _ updated
  | dropReport =>
      cases done
      exact .report dsp.swBe _ rfl rfl
  | beGetEntry entry =>
      obtain ⟨⟨middle, out, found⟩, looked, same⟩ := Option.bind_eq_some_iff.mp done
      cases same
      exact be_entry_change scratch dsp _ _ _ out found looked
  | dropEntry entry | entryDone entry out =>
      obtain ⟨middle, popped, same⟩ := Option.map_eq_some_iff.mp done
      cases same
      exact fe_done_change dsp _ _ _ entry popped
  | runAlgo entry out =>
      simp only [hwStep] at done
      split at done
      · cases done
        exact hw_change_same dsp _ _
      · cases done
        exact hw_change_same dsp _ _
      · cases done
        exact .extra _ rfl
  | entryStart out =>
      obtain ⟨⟨middle, started⟩, begun, same⟩ := Option.bind_eq_some_iff.mp done
      cases same
      exact be_start_change dsp _ _ _ out started rfl begun
  | resultReport out =>
      cases done
      exact .report dsp.swBe _ rfl rfl
  | finish result =>
      cases done
      exact hw_change_same dsp _ _

theorem hw_change_frame (change : HwChange dsp task pc next) : HwFrame dsp next := by
  cases change <;> (rename_i same; subst same; rfl)

end Change

end CsiDsp
