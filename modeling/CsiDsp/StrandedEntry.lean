import CsiDsp.HeldEntry
import CsiDsp.VipreFrames

set_option autoImplicit false

namespace CsiDsp

open CInt

def FrontEndKept (fe : FeOps) (dsp : Dsp) : Prop :=
  match fe with
  | .isp => IspKept dsp.isp
  | .vipre => VipreKept dsp.vipre

def FrontEndHeld (fe : FeOps) (dsp : Dsp) : Prop :=
  match fe with
  | .isp => IspHeld dsp.isp
  | .vipre => VipreHeld dsp.vipre

def EntrySame (fe : FeOps) (dsp next : Dsp) : Prop :=
  match fe with
  | .isp => next.isp = dsp.isp
  | .vipre => SameFrames dsp.vipre next.vipre

structure EntryStill (fe : FeOps) (dsp next : Dsp) : Prop where
  kept : FrontEndKept fe next
  same : FrontEndHeld fe next → EntrySame fe dsp next

-- The task finds the entry when it looks.
def Takes (fe : FeOps) (dsp : Dsp) (pri : Nat) : Prop :=
  match fe with
  | .isp => True
  | .vipre => VipreTakes dsp.vipre (dsp.tasks pri).fe.id

-- entry_done with this entry takes away all that is in the FIFO.
def DrainsWith (fe : FeOps) (dsp : Dsp) (entry : EntryStruct) : Prop :=
  match fe with
  | .isp => ispHeadAfter dsp.isp (u16 entry.height) = (dsp.isp.fifo.get dsp.isp.customerPingPongFlag).tail
  | .vipre => True

-- The places of dsp_process_hw_task on the way to entry_done.
def HwPc.taking : HwPc → Bool
  | .resetExtra | .getEntry | .beGetEntry _ | .dropEntry _ | .runAlgo _ _ | .entryDone _ _ => true
  | _ => false

def SchedPc.asksBuffer (pri : Nat) : SchedPc → Bool
  | .hw id (.beGetEntry _) => id == pri
  | _ => false

def SchedPc.runsAlgo (pri : Nat) : SchedPc → Bool
  | .hw id (.runAlgo _ _) => id == pri
  | _ => false

-- A task that runs has not come past entry_done.
def StillTaking (pc : SchedPc) (pri : Nat) : Prop := pc.task = some pri → ∃ step, pc = .hw pri step ∧ step.taking = true

-- The back end has a buffer for the entry.
def BackEndGives (dsp : Dsp) (be : DspBeHandler) : Prop :=
  match be.ops with
  | none => True
  | some .host => (dsp.swBe be.id).status = bufStatusAllocted ∧ 0 < (dsp.swBe be.id).validBufNum
  | some .postIsp =>
      let side := dsp.postIsp.producePingPongFlag
      ∀ index ∈ getTailFifo (dsp.postIsp.fifo.get side), 0 ≤ index ∧ Int.tmod index (dsp.postIsp.info.get side).lineNumPerEntry = 0

-- The registers bring an entry, or what the driver takes for one.
def Captures (fe : FeOps) (dsp : Dsp) (registers : DeviceRegisters) : Prop :=
  match fe with
  | .isp => registers.isp.nLines = true ∧ dsp.isp.status = .ok
  | .vipre => registers.vipre.frameDone = true ∨ registers.vipre.nLineDone = true

def WholeEntry (fe : FeOps) (dsp : Dsp) (registers : DeviceRegisters) : Prop :=
  match fe with
  | .isp => IspWhole dsp.isp
  | .vipre => registers.vipre.frameDone = true ∧ VipreWhole dsp.vipre

section Entry

variable (fe : FeOps) (dsp next : Dsp)

theorem kept_cases (kept : FrontEndKept fe dsp) : consumerEmpty dsp fe = true ∨ FrontEndHeld fe dsp ∨ feStatus dsp fe ≠ .ok := by
  cases fe with
  | isp => exact kept.imp_right (Or.imp_right And.left)
  | vipre => exact kept.imp_right Or.inl

theorem kept_empty (empty : consumerEmpty dsp fe = true) : FrontEndKept fe dsp := by
  cases fe <;> exact .inl empty

theorem held_filled (held : FrontEndHeld fe dsp) : consumerEmpty dsp fe = false := by
  cases fe with
  | isp => exact held.filled
  | vipre => exact held.filled

theorem same_driver_entry (same : match fe with | .isp => next.isp = dsp.isp | .vipre => next.vipre = dsp.vipre) :
    EntrySame fe dsp next := by
  cases fe with
  | isp => exact same
  | vipre => exact ⟨by rw [same], by rw [same], by rw [same]⟩

theorem same_entry_still (same : EntrySame fe dsp next) (kept : FrontEndKept fe dsp) : EntryStill fe dsp next := by
  refine ⟨?_, fun _ => same⟩
  cases fe with
  | isp =>
      rw [FrontEndKept, show next.isp = dsp.isp from same]
      exact kept
  | vipre => exact (same_frames_still dsp.vipre next.vipre same kept).kept

theorem same_entry_held (same : EntrySame fe dsp next) (held : FrontEndHeld fe next) : FrontEndHeld fe dsp := by
  cases fe with
  | isp =>
      rw [FrontEndHeld, ← show next.isp = dsp.isp from same]
      exact held
  | vipre => exact same_frames_held next.vipre dsp.vipre (same_frames_symm _ _ same) held

theorem same_entry_takes (same : EntrySame fe dsp next) (tasks : next.tasks = dsp.tasks) (held : FrontEndHeld fe dsp) (pri : Nat)
    (takes : Takes fe dsp pri) : Takes fe next pri := by
  cases fe with
  | isp => trivial
  | vipre =>
      rw [Takes, tasks]
      exact same_frames_takes dsp.vipre next.vipre same _ held takes

theorem same_entry_drains (same : EntrySame fe dsp next) (entry : EntryStruct) (drains : DrainsWith fe dsp entry) :
    DrainsWith fe next entry := by
  cases fe with
  | isp =>
      rw [DrainsWith, show next.isp = dsp.isp from same]
      exact drains
  | vipre => trivial

-- What does not belong to the front end leaves its entry alone.
theorem hw_change_still (task : DspTask) (pc : HwPc) (change : HwChange dsp task pc next) (other : task.fe.ops ≠ some fe) :
    EntrySame fe dsp next := by
  refine same_driver_entry fe dsp next ?_
  cases change with
  | isp handler ops same =>
      subst same
      cases fe with
      | isp => exact absurd ops other
      | vipre => rfl
  | vipre handler ops empty same =>
      subst same
      cases fe with
      | isp => rfl
      | vipre => exact absurd ops other
  | extra | backEnd | report => rename_i same; subst same; cases fe <;> rfl

theorem run_driver_still (registers : DeviceRegisters) (handler : Handler) (ran : runDriver dsp registers handler = some next)
    (other : handler ≠ fe.driver) : EntrySame fe dsp next := by
  refine same_driver_entry fe dsp next ?_
  cases handler with
  | isp =>
      obtain ⟨result, -, rfl⟩ := Option.map_eq_some_iff.mp ran
      cases fe with
      | isp => exact absurd rfl other
      | vipre => rfl
  | vipre =>
      obtain ⟨result, -, rfl⟩ := Option.map_eq_some_iff.mp ran
      cases fe with
      | isp => rfl
      | vipre => exact absurd rfl other
  | postIsp =>
      obtain ⟨result, -, rfl⟩ := Option.map_eq_some_iff.mp ran
      cases fe <;> rfl
  | xrp | unhandled =>
      cases ran
      cases fe <;> rfl
  | null | trigger => cases ran

end Entry

section Driver

variable (fe : FeOps) (dsp next : Dsp) (handler : DspFeHandler) (ops : handler.ops = some fe) (kept : FrontEndKept fe dsp)

include ops kept

theorem fe_get_still (scratch : Scratch) (entry : EntryStruct) (found : Bool)
    (got : feGetNextEntry scratch dsp handler = some (next, entry, found)) : EntryStill fe dsp next ∧ (FrontEndHeld fe dsp →
      (match fe with | .isp => True | .vipre => VipreTakes dsp.vipre handler.id) → found = true) ∧
        (FrontEndHeld fe dsp → DrainsWith fe dsp entry) := by
  rw [feGetNextEntry, ops] at got
  cases fe with
  | isp =>
      obtain ⟨⟨driver, answer⟩, looked, same⟩ := Option.map_eq_some_iff.mp got
      cases same
      obtain ⟨still, taken⟩ := isp_get_kept dsp.isp driver scratch.list scratch.entry entry found kept looked
      exact ⟨⟨still.kept, still.same⟩, fun held _ => (taken held).1, fun held => (taken held).2⟩
  | vipre =>
      obtain ⟨⟨driver, answer⟩, looked, same⟩ := Option.map_eq_some_iff.mp got
      cases same
      obtain ⟨still, taken⟩ := vipre_get_kept dsp.vipre driver scratch.vipreBuffer handler.id scratch.entry entry found kept looked
      exact ⟨⟨still.kept, still.same⟩, taken, fun _ => trivial⟩

theorem fe_update_still (updated : feUpdateState dsp handler = some next) : EntryStill fe dsp next := by
  rw [feUpdateState, ops] at updated
  cases fe with
  | isp =>
      obtain ⟨driver, done, rfl⟩ := Option.map_eq_some_iff.mp updated
      have still := isp_recovery_still dsp.isp driver kept done
      exact ⟨still.kept, still.same⟩
  | vipre =>
      obtain ⟨driver, done, rfl⟩ := Option.map_eq_some_iff.mp updated
      have still := vipre_recovery_still dsp.vipre driver kept done
      exact ⟨still.kept, still.same⟩

theorem fe_done_taken (entry : EntryStruct) (drains : FrontEndHeld fe dsp → DrainsWith fe dsp entry)
    (done : feEntryDone dsp handler entry = some next) : FrontEndKept fe next ∧ ¬ FrontEndHeld fe next := by
  rw [feEntryDone, ops] at done
  cases fe with
  | isp =>
      cases done
      exact isp_pop_taken dsp.isp (u16 entry.height) kept drains
  | vipre =>
      obtain ⟨⟨driver, popped⟩, taken, rfl⟩ := Option.map_eq_some_iff.mp done
      have empty := vipre_pop_empties dsp.vipre driver _ kept popped taken
      refine ⟨.inl empty, fun held => ?_⟩
      rw [vipreIsEmpty, held.filled] at empty
      cases empty

end Driver

theorem fe_interrupt_kept (fe : FeOps) (dsp next : Dsp) (kept : FrontEndKept fe dsp) (registers : DeviceRegisters) (ran : runDriver dsp registers fe.driver = some next)
    (inTime : Captures fe dsp registers → consumerEmpty dsp fe = true ∧ WholeEntry fe dsp registers) :
    FrontEndKept fe next ∧ (¬ Captures fe dsp registers → EntryStill fe dsp next) := by
  cases fe with
  | isp =>
      obtain ⟨driver, served, rfl⟩ := Option.map_eq_some_iff.mp ran
      obtain ⟨after, still⟩ := isp_interrupt_kept dsp.isp driver registers.isp kept
        (fun signalled ok => inTime ⟨signalled, ok⟩) served
      exact ⟨after, fun never => ⟨after, (still never).same⟩⟩
  | vipre =>
      obtain ⟨driver, served, rfl⟩ := Option.map_eq_some_iff.mp ran
      have frames : registers.vipre.frameDone = false → registers.vipre.nLineDone = false := fun quiet => by
        refine Bool.eq_false_iff.mpr fun lines => ?_
        have frame := (inTime (.inr lines)).2.1
        rw [quiet] at frame
        cases frame
      obtain ⟨after, still⟩ := vipre_interrupt_kept dsp.vipre driver registers.vipre kept
        (fun signalled => ⟨(inTime (.inl signalled)).1, (inTime (.inl signalled)).2.2⟩) frames served
      exact ⟨after, fun never => ⟨after, (still (Bool.eq_false_iff.mpr fun frame => never (.inl frame))).same⟩⟩

-- An entry comes when the front end is empty and none of its tasks has looked
-- into it in the run it is in; and the task that has got the entry finds a
-- buffer for it and an algorithm that succeeds.
def KeepsUp (fe : FeOps) (line : Irq) (attached : List Nat) (state : Sched) : LoopEvent → Prop
  | .interrupt irq registers => irq = line → Captures fe state.dsp registers →
      consumerEmpty state.dsp fe = true ∧ WholeEntry fe state.dsp registers ∧
        ∀ pri ∈ attached, state.pc.task = some pri → state.pc = .hw pri .resetExtra ∨ state.pc = .hw pri .getEntry
  | .schedule _ algo => ∀ pri ∈ attached,
      (state.pc.asksBuffer pri = true →
        (state.dsp.tasks pri).type = .hwToSw ∨ BackEndGives state.dsp (state.dsp.tasks pri).be) ∧
      (state.pc.runsAlgo pri = true → (state.dsp.tasks pri).algo.algoProcess ≠ none ∧ algo ≠ .failure)
  | .hostAck => True

-- Or one of the tasks looks again before its bit goes.
def TakenInTime (fe : FeOps) (line : Irq) (attached : List Nat) (state : Sched) (event : LoopEvent) : Prop :=
  Rechecked fe attached state.dsp ∨ KeepsUp fe line attached state event

instance (dsp : Dsp) : ∀ be, Decidable (BackEndGives dsp be)
  | ⟨_, _, none⟩ => inferInstanceAs (Decidable True)
  | ⟨_, _, some .host⟩ => inferInstanceAs (Decidable (_ ∧ _))
  | ⟨_, _, some .postIsp⟩ => inferInstanceAs (Decidable (∀ _ ∈ _, _ ∧ _))

instance (dsp : Dsp) (registers : DeviceRegisters) : ∀ fe, Decidable (Captures fe dsp registers)
  | .isp => inferInstanceAs (Decidable (_ ∧ _))
  | .vipre => inferInstanceAs (Decidable (_ ∨ _))

instance (dsp : Dsp) (registers : DeviceRegisters) : ∀ fe, Decidable (WholeEntry fe dsp registers)
  | .isp => inferInstanceAs (Decidable (IspWhole _))
  | .vipre => inferInstanceAs (Decidable (_ ∧ _))

instance (fe : FeOps) (line : Irq) (attached : List Nat) (state : Sched) : ∀ event, Decidable (KeepsUp fe line attached state event)
  | .interrupt _ _ => inferInstanceAs (Decidable (_ → _ → _ ∧ _ ∧ ∀ pri ∈ attached, _ → _ ∨ _))
  | .schedule _ _ => inferInstanceAs (Decidable (∀ pri ∈ attached, (_ → _ ∨ _) ∧ (_ → _ ∧ _)))
  | .hostAck => inferInstanceAs (Decidable True)

instance (fe : FeOps) (line : Irq) (attached : List Nat) (state : Sched) (event : LoopEvent) :
    Decidable (TakenInTime fe line attached state event) := inferInstanceAs (Decidable (_ ∨ _))

section Step

variable (fe : FeOps) (scratch : Scratch) (algo : AlgoResult) (dsp next : Dsp) (pri : Nat) (pc after : HwPc)

structure TaskStill (fe : FeOps) (dsp next : Dsp) (pri : Nat) (pc after : HwPc) : Prop where
  still : EntryStill fe dsp next
  taking : FrontEndHeld fe next → Takes fe dsp pri → pc.taking = true → after.taking = true
  drains : FrontEndHeld fe next → ∀ entry, after.held = some entry → DrainsWith fe next entry

theorem be_entry_gives (be : DspBeHandler) (gives : BackEndGives dsp be) (out : CsiDspBuffer) (found : Bool)
    (got : beGetNextEntry scratch dsp be = some (next, out, found)) : found = true := by
  rw [beGetNextEntry] at got
  rw [BackEndGives] at gives
  split at got
  · cases got
  · rename_i ops
    rw [ops] at gives
    have some_ : getSwBeNextEntry (dsp.swBe be.id) = some ((dsp.swBe be.id).bufs (dsp.swBe be.id).headId) := by
      rw [getSwBeNextEntry, if_neg (not_not_intro gives.1), if_neg (Int.not_le.mpr gives.2)]
    rw [some_] at got
    cases got
    rfl
  · rename_i ops
    rw [ops] at gives
    obtain ⟨⟨handler, answer⟩, looked, same⟩ := Option.map_eq_some_iff.mp got
    cases same
    obtain ⟨⟨middle, entry, ret⟩, next_, rest⟩ := Option.bind_eq_some_iff.mp looked
    obtain ⟨index, tail, taken⟩ := Option.bind_eq_some_iff.mp next_
    obtain ⟨positive, aligned⟩ := gives index tail
    rw [if_neg (Int.not_lt.mpr positive)] at taken
    split at taken
    · cases taken
    · rw [if_neg (not_not_intro aligned)] at taken
      cases taken
      cases rest
      rfl

variable (ops : (dsp.tasks pri).fe.ops = some fe) (kept : FrontEndKept fe dsp)
variable (drains : FrontEndHeld fe dsp → ∀ entry, pc.held = some entry → DrainsWith fe dsp entry)
variable (done : hwStep scratch algo dsp pri pc = some (next, after))

include ops kept drains done

theorem task_step_still
    (gives : ∀ entry, pc = .beGetEntry entry → (dsp.tasks pri).type = .hwToSw ∨ BackEndGives dsp (dsp.tasks pri).be)
    (succeeds : ∀ entry out, pc = .runAlgo entry out → (dsp.tasks pri).algo.algoProcess ≠ none ∧ algo ≠ .failure) :
    TaskStill fe dsp next pri pc after := by
  -- A call to the back end is one of a task without a front end.
  have silent (change : HwChange dsp { dsp.tasks pri with fe := ⟨(dsp.tasks pri).fe.type, (dsp.tasks pri).fe.id, none⟩ } pc next) :
      EntrySame fe dsp next := hw_change_still fe dsp next _ pc change (by simp)
  have quiet (same : EntrySame fe dsp next) (off : pc.taking = true → after.taking = true) (free : after.held = none) :
      TaskStill fe dsp next pri pc after :=
    ⟨same_entry_still fe dsp next same kept, fun _ _ => off, fun _ entry found => by rw [free] at found; cases found⟩
  have carries (same : EntrySame fe dsp next) (on : after.taking = true) (holds : after.held = pc.held) :
      TaskStill fe dsp next pri pc after :=
    ⟨same_entry_still fe dsp next same kept, fun _ _ _ => on, fun held entry found =>
      same_entry_drains fe dsp next same entry (drains (same_entry_held fe dsp next same held) entry (holds ▸ found))⟩
  cases pc with
  | resetExtra =>
      simp only [hwStep] at done
      split at done
      · cases done
      · cases done
        exact quiet (silent (.extra [] rfl)) (fun _ => rfl) rfl
  | getEntry =>
      obtain ⟨⟨middle, entry, found⟩, looked, same⟩ := Option.bind_eq_some_iff.mp done
      cases same
      obtain ⟨still, taken, drained⟩ := fe_get_still fe dsp next _ ops kept scratch entry found looked
      refine ⟨still, fun held takes _ => ?_, fun held other got => ?_⟩
      · have before := same_entry_held fe dsp next (still.same held) held
        rw [taken before (by cases fe <;> exact takes)]
        rfl
      · split at got
        · cases got
          exact same_entry_drains fe dsp next (still.same held) _ (drained (same_entry_held fe dsp next (still.same held) held))
        · cases got
  | checkOverflow | checkRecovering | feCheck =>
      obtain ⟨state, -, same⟩ := Option.bind_eq_some_iff.mp done
      cases same
      exact quiet (silent (hw_change_same dsp _ _)) (fun off => by cases off) (by split <;> rfl)
  | checkRecovered | beCheck =>
      obtain ⟨state, -, same⟩ := Option.bind_eq_some_iff.mp done
      cases same
      exact quiet (silent (hw_change_same dsp _ _)) (fun off => by cases off) (by first | rfl | (split <;> rfl))
  | overflowFe | recoveredFe =>
      obtain ⟨middle, updated, same⟩ := Option.map_eq_some_iff.mp done
      cases same
      exact ⟨fe_update_still fe dsp next _ ops kept updated, fun _ _ off => (by cases off), fun _ entry found => by cases found⟩
  | overflowBe | recoveredBe =>
      obtain ⟨middle, updated, same⟩ := Option.map_eq_some_iff.mp done
      cases same
      exact quiet (silent (be_update_change dsp next _ _ updated)) (fun off => by cases off) rfl
  | dropReport =>
      cases done
      exact quiet (silent (.report dsp.swBe _ rfl rfl)) (fun off => by cases off) rfl
  | beGetEntry entry =>
      obtain ⟨⟨middle, out, found⟩, looked, same⟩ := Option.bind_eq_some_iff.mp done
      cases same
      have entered := silent (be_entry_change scratch dsp next _ _ out found looked)
      cases found with
      | true => exact carries entered rfl rfl
      | false =>
          rcases gives entry rfl with host | gives
          · rw [← (be_entry_vipre dsp next scratch _ out false looked).1] at host
            exact carries entered (by rw [host]; rfl) (by rw [host]; rfl)
          · have given := be_entry_gives scratch dsp next _ gives out false looked
            cases given
  | dropEntry entry | entryDone entry out =>
      obtain ⟨middle, popped, same⟩ := Option.map_eq_some_iff.mp done
      cases same
      obtain ⟨still, gone⟩ := fe_done_taken fe dsp next _ ops kept entry (fun held => drains held entry rfl) popped
      exact ⟨⟨still, fun held => absurd held gone⟩, fun held => absurd held gone, fun held => absurd held gone⟩
  | runAlgo entry out =>
      obtain ⟨present, succeeded⟩ := succeeds entry out rfl
      simp only [hwStep] at done
      split at done
      · rename_i missing
        exact absurd missing present
      · exact absurd rfl succeeded
      · cases done
        exact carries (silent (.extra _ rfl)) rfl rfl
  | entryStart out =>
      obtain ⟨⟨middle, started⟩, begun, same⟩ := Option.bind_eq_some_iff.mp done
      cases same
      refine quiet (silent (be_start_change dsp next _ _ out started rfl begun)) (fun off => by cases off) ?_
      split
      · rfl
      · split <;> rfl
  | resultReport out =>
      cases done
      exact quiet (silent (.report dsp.swBe _ rfl rfl)) (fun off => by cases off) rfl
  | finish result =>
      cases done
      exact quiet (silent (hw_change_same dsp _ _)) (fun off => by cases off) rfl

end Step

theorem held_taken (fe : FeOps) (line : Irq) (attached : List Nat) (start : Sched) (setup : FrontEndSetup fe line attached start)
    (dsp : Dsp) (held : FrontEndHeld fe dsp) (tasks : dsp.tasks = start.dsp.tasks) : ∃ pri ∈ attached, Takes fe dsp pri := by
  cases fe with
  | isp =>
      obtain ⟨first, member⟩ := List.exists_mem_of_ne_nil _ setup.nonempty
      exact ⟨first, member, trivial⟩
  | vipre =>
      obtain ⟨first, firstMember, second, secondMember, covers⟩ := setup.covers rfl
      rw [← tasks] at covers
      rcases vipre_taken dsp.vipre held _ _ covers with takes | takes
      · exact ⟨first, firstMember, takes⟩
      · exact ⟨second, secondMember, takes⟩

structure KeepInv (fe : FeOps) (attached : List Nat) (start : Dsp) (state : Sched) : Prop where
  inv : FrontEndInv fe attached start state
  kept : FrontEndKept fe state.dsp
  taking : FrontEndHeld fe state.dsp →
    ∃ pri ∈ attached, Takes fe state.dsp pri ∧ isReady state.dsp.ready pri = true ∧ StillTaking state.pc pri
  carried : FrontEndHeld fe state.dsp → ∀ pri ∈ attached, ∀ step entry, state.pc = .hw pri step → step.held = some entry →
    DrainsWith fe state.dsp entry

section Loop

variable (fe : FeOps) (line : Irq) (attached : List Nat) (start : Sched) (setup : FrontEndSetup fe line attached start)
variable (state next : Sched) (keep : KeepInv fe attached start.dsp state)

include keep

-- The bit of the task that takes the entry does not go before the entry does.
theorem keep_clears (event : LoopEvent) : ClearsInTime fe attached state event := by
  cases event with
  | interrupt irq registers => trivial
  | hostAck => trivial
  | schedule scratch algo =>
      intro pri member place
      rcases kept_cases fe state.dsp keep.kept with empty | held | failed
      · exact .inr (.inl empty)
      · obtain ⟨taker, takerMember, -, ready, still⟩ := keep.taking held
        refine .inr (.inr (.inr ⟨taker, takerMember, fun same => ?_, ready⟩))
        subst same
        obtain ⟨step, other, -⟩ := still (by rw [place]; rfl)
        rw [place] at other
        cases other
      · exact .inr (.inr (.inl failed))

theorem keep_inv_still (inv : FrontEndInv fe attached start.dsp next) (still : EntryStill fe state.dsp next.dsp)
    (tasks : next.dsp.tasks = state.dsp.tasks)
    (ready : ∀ pri ∈ attached, StillTaking state.pc pri → isReady state.dsp.ready pri = true → isReady next.dsp.ready pri = true)
    (taking : FrontEndHeld fe next.dsp → ∀ pri ∈ attached, Takes fe state.dsp pri → StillTaking state.pc pri → StillTaking next.pc pri)
    (carried : FrontEndHeld fe next.dsp → ∀ pri ∈ attached, ∀ step entry, next.pc = .hw pri step → step.held = some entry →
      DrainsWith fe next.dsp entry) : KeepInv fe attached start.dsp next := by
  refine ⟨inv, still.kept, fun held => ?_, carried⟩
  have same := still.same held
  have before := same_entry_held fe state.dsp next.dsp same held
  obtain ⟨pri, member, takes, set, open_⟩ := keep.taking before
  exact ⟨pri, member, same_entry_takes fe state.dsp next.dsp same tasks before pri takes, ready pri member open_ set,
    taking held pri member takes open_⟩

include setup

theorem keep_interrupt_inv (irq : Irq) (registers : DeviceRegisters) (keeps : KeepsUp fe line attached state (.interrupt irq registers))
    (taken : takeInterrupt state.dsp irq registers = some next.dsp) (same : next.pc = state.pc)
    (inv : FrontEndInv fe attached start.dsp next) : KeepInv fe attached start.dsp next := by
  obtain ⟨driven, visited, last, effect⟩ := interrupt_effect state.dsp next.dsp irq registers taken
  have limit : psMaxTaskType < 64 := by decide
  have bits : ∀ pri ∈ attached, isReady next.dsp.ready pri = true ↔ pri ∈ visited ∨ isReady state.dsp.ready pri = true := by
    intro pri member
    have small := (setup.members pri member).inTable
    have ready : next.dsp.ready = visited.reverse.foldl setReadyTask state.dsp.ready := by rw [effect.same]
    rw [ready, ready_fold _ _ pri (fun id found => ?_) (by omega), List.mem_reverse]
    have below := effect.inTable id (List.mem_reverse.mp found)
    omega
  have tasks := loop_frame_tasks state.dsp next.dsp (interrupt_frame state.dsp next.dsp irq registers taken)
  have settled : EntrySame fe driven next.dsp := same_driver_entry fe _ _ (by rw [effect.same]; cases fe <;> rfl)
  have unmoved (still : EntryStill fe state.dsp driven) : KeepInv fe attached start.dsp next := by
    have after : EntryStill fe state.dsp next.dsp := ⟨(same_entry_still fe _ _ settled still.kept).kept, fun held => by
      rw [effect.same]
      exact still.same (same_entry_held fe _ _ settled held)⟩
    refine keep_inv_still fe attached start state next keep inv after tasks (fun pri member _ set => (bits pri member).mpr (.inr set))
      (fun _ _ _ _ open_ => by rw [same]; exact open_) fun held pri member step entry place found => ?_
    have kept := after.same held
    exact same_entry_drains fe _ _ kept entry
      (keep.carried (same_entry_held fe _ _ kept held) pri member step entry (same ▸ place) found)
  by_cases here : irq = line
  · obtain ⟨arg, walked⟩ := setup.walked
    have visits := effect.walked
    rw [loop_frame_walk start.dsp state.dsp keep.inv.frame, here, walked] at visits
    cases visits
    obtain ⟨kept, still⟩ := fe_interrupt_kept fe state.dsp driven keep.kept registers effect.ran
      fun captured => ⟨(keeps here captured).1, (keeps here captured).2.1⟩
    by_cases captured : Captures fe state.dsp registers
    · obtain ⟨-, -, looking⟩ := keeps here captured
      refine ⟨inv, (same_entry_still fe _ _ settled kept).kept, fun held => ?_, fun held pri member step entry place found => ?_⟩
      · obtain ⟨pri, member, takes⟩ := held_taken fe line attached start setup next.dsp held
          (tasks.trans (loop_frame_tasks start.dsp state.dsp keep.inv.frame))
        refine ⟨pri, member, takes, (bits pri member).mpr (.inl member), fun running => ?_⟩
        rw [same] at running ⊢
        rcases looking pri member running with place | place
        · exact ⟨_, place, rfl⟩
        · exact ⟨_, place, rfl⟩
      · rw [same] at place
        rcases looking pri member (by rw [place]; rfl) with other | other
        · cases place.symm.trans other
          cases found
        · cases place.symm.trans other
          cases found
    · exact unmoved (still captured)
  · have apart := setup.alone irq visited last here
      ((loop_frame_walk start.dsp state.dsp keep.inv.frame irq).symm.trans effect.walked)
    exact unmoved (same_entry_still fe _ _ (run_driver_still fe state.dsp driven registers last.handler effect.ran apart) keep.kept)

theorem keep_schedule_inv (scratch : Scratch) (algo : AlgoResult) (keeps : KeepsUp fe line attached state (.schedule scratch algo))
    (taken : schedStep state scratch algo = some next) (inv : FrontEndInv fe attached start.dsp next) :
    KeepInv fe attached start.dsp next := by
  have tasks := loop_frame_tasks state.dsp next.dsp (loop_step_frame state next (.schedule scratch algo) taken)
  have resting (same : EntrySame fe state.dsp next.dsp) (ready : next.dsp.ready = state.dsp.ready)
      (moves : ∀ pri ∈ attached, StillTaking state.pc pri → StillTaking next.pc pri)
      (free : ∀ pri ∈ attached, ∀ step, next.pc = .hw pri step → step.held = none) : KeepInv fe attached start.dsp next :=
    keep_inv_still fe attached start state next keep inv (same_entry_still fe _ _ same keep.kept) tasks
      (fun _ _ _ set => ready ▸ set) (fun _ pri member _ => moves pri member)
      fun _ pri member step entry place found => by rw [free pri member step place] at found; cases found
  have itself : EntrySame fe state.dsp state.dsp := same_driver_entry fe _ _ (by cases fe <;> rfl)
  have sentSame (pri : Nat) : EntrySame fe state.dsp (sendReport state.dsp pri) := same_driver_entry fe _ _ (by cases fe <;> rfl)
  have clearSame (pri : Nat) : EntrySame fe state.dsp (clearTask state.dsp pri) := same_driver_entry fe _ _ (by cases fe <;> rfl)
  cases sched_outcome state next scratch algo taken with
  | stayed place same =>
      subst same
      exact keep
  | picked place waiting pro same =>
      subst same
      refine resting itself rfl (fun pri _ _ found => ?_) fun pri _ step found => ?_
      · cases found
        exact ⟨.resetExtra, rfl, rfl⟩
      · cases found
        rfl
  | passed place waiting pro same =>
      subst same
      refine resting itself rfl (fun pri member _ found => ?_) fun pri _ step found => by cases found
      cases found
      refine absurd ?_ pro
      rw [loop_frame_tasks start.dsp state.dsp keep.inv.frame]
      exact (setup.members _ member).pro
  | ran pri pc after dsp place done same =>
      subst same
      have own (other : Nat) (step : HwPc) (there : state.pc = .hw other step) : other = pri ∧ step = pc := by
        cases place.symm.trans there
        exact ⟨rfl, rfl⟩
      have change := hw_step_change scratch state.dsp dsp pc algo pri after done
      have ready : dsp.ready = state.dsp.ready := by rw [hw_change_frame state.dsp dsp _ pc change]
      by_cases attached_ : (state.dsp.tasks pri).fe.ops = some fe
      · have member : pri ∈ attached := setup.complete pri (keep.inv.small pri (by rw [place]; rfl)) (keep.inv.chosen pri pc place)
          (by rw [← loop_frame_tasks start.dsp state.dsp keep.inv.frame, attached_])
        obtain ⟨still, moves, drains⟩ := task_step_still fe scratch algo state.dsp dsp pri pc after attached_ keep.kept
          (fun held entry found => keep.carried held pri member pc entry place found) done
          (fun entry here => (keeps pri member).1 (by rw [place, here, SchedPc.asksBuffer, beq_self_eq_true]))
          (fun entry out here => (keeps pri member).2 (by rw [place, here, SchedPc.runsAlgo, beq_self_eq_true]))
        refine keep_inv_still fe attached start state _ keep inv still tasks (fun other member _ set => ?_)
          (fun held other _ takes open_ found => ?_) fun held other _ step entry there found => ?_
        · exact ready ▸ set
        · cases found
          obtain ⟨step, there, on⟩ := open_ (by rw [place]; rfl)
          obtain ⟨-, rfl⟩ := own pri step there
          exact ⟨after, rfl, moves held takes on⟩
        · cases there
          exact drains held entry found
      · have outsider : pri ∉ attached := fun member => attached_
          (by rw [loop_frame_tasks start.dsp state.dsp keep.inv.frame, (setup.members pri member).ops])
        refine resting (hw_change_still fe state.dsp dsp _ pc change attached_) ready (fun other member _ found => ?_)
          fun other member step found => ?_
        · cases found
          exact absurd member outsider
        · cases found
          exact absurd member outsider
  | finished pri result place same =>
      subst same
      refine resting itself rfl (fun other _ still found => ?_) fun other _ step found => ?_
      · obtain ⟨step, there, on⟩ := still (by rw [place, ← found]; dsimp only; split <;> rfl)
        cases place.symm.trans there
        cases on
      · dsimp only at found
        split at found <;> cases found
  | left pri place same =>
      subst same
      refine resting itself rfl (fun other _ still found => ?_) fun other _ step found => by cases found
      obtain ⟨step, there, -⟩ := still (by rw [place, ← found]; rfl)
      cases place.symm.trans there
  | sent pri place same =>
      subst same
      refine resting (sentSame pri) rfl (fun other _ still found => ?_) fun other _ step found => by cases found
      obtain ⟨step, there, -⟩ := still (by rw [place, ← found]; rfl)
      cases place.symm.trans there
  | cleared pri place same =>
      subst same
      have task : state.pc.task = some pri := by rw [place]; rfl
      refine keep_inv_still fe attached start state _ keep inv (same_entry_still fe _ _ (clearSame pri) keep.kept) tasks
        (fun other member still set => ?_) (fun _ _ _ _ _ found => by cases found) fun _ _ _ _ _ found => by cases found
      have limit : psMaxTaskType < 64 := by decide
      have otherSmall := (setup.members other member).inTable
      refine clear_keeps_ready state.dsp pri other (keep.inv.small pri task) (by omega) (fun equal => ?_) set
      subst equal
      obtain ⟨step, there, -⟩ := still task
      cases place.symm.trans there

theorem keep_step_inv (event : LoopEvent) (keeps : KeepsUp fe line attached state event)
    (taken : loopStep state event = some next) : KeepInv fe attached start.dsp next := by
  have inv := front_end_step_inv fe line attached start setup state next keep.inv event
    (keep_clears fe attached start state keep event) taken
  cases event with
  | interrupt irq registers =>
      simp only [loopStep, Option.ite_none_right_eq_some, Option.map_eq_some_iff] at taken
      obtain ⟨-, dsp, interrupted, rfl⟩ := taken
      exact keep_interrupt_inv fe line attached start setup state _ keep irq registers keeps interrupted rfl inv
  | schedule scratch algo => exact keep_schedule_inv fe line attached start setup state next keep scratch algo keeps taken inv
  | hostAck =>
      simp only [loopStep, Option.ite_none_left_eq_some] at taken
      obtain ⟨-, same⟩ := taken
      cases same
      have same : EntrySame fe state.dsp { state.dsp with cmd := { state.dsp.cmd with reportId := 0 } } :=
        same_driver_entry fe _ _ (by cases fe <;> rfl)
      exact keep_inv_still fe attached start state _ keep inv (same_entry_still fe _ _ same keep.kept) rfl (fun _ _ _ set => set)
        (fun _ _ _ _ still => still) fun held pri member step entry place found =>
          same_entry_drains fe _ _ same entry (keep.carried (same_entry_held fe _ _ same held) pri member step entry place found)

end Loop

section Run

variable (fe : FeOps) (line : Irq) (attached : List Nat) (start finish : Sched) (events : List LoopEvent)
variable (setup : FrontEndSetup fe line attached start)

include setup

theorem keep_start_inv (empty : consumerEmpty start.dsp fe = true) : KeepInv fe attached start.dsp start := by
  have free : ¬ FrontEndHeld fe start.dsp := fun held => by
    rw [held_filled fe start.dsp held] at empty
    cases empty
  exact ⟨front_end_start_inv fe line attached start setup, kept_empty fe start.dsp empty, fun held => absurd held free,
    fun held => absurd held free⟩

-- In a run that takes each entry before the next one comes, no entry is stranded.
theorem no_entry_stranded (begins : Rechecked fe attached start.dsp ∨ consumerEmpty start.dsp fe = true)
    (inTime : Runs.Guarded loopStep (TakenInTime fe line attached) start events)
    (ran : Runs.run loopStep start events = some finish) : NoEntryStranded fe finish := by
  by_cases rechecked : Rechecked fe attached start.dsp
  · exact rechecked_never_stranded fe line attached start finish events setup rechecked ran
  · have keep := Runs.guarded_run_invariant loopStep (TakenInTime fe line attached) (KeepInv fe attached start.dsp)
      (fun state event next keep timely taken => keep_step_inv fe line attached start setup state next keep event
        (timely.resolve_left fun again => rechecked (by
          rw [Rechecked, loop_frame_tasks start.dsp state.dsp keep.inv.frame, loop_frame_high start.dsp state.dsp keep.inv.frame] at again
          exact again)) taken)
      start finish events (keep_start_inv fe line attached start setup (begins.resolve_left rechecked)) inTime ran
    exact front_end_inv_served fe line attached start setup finish keep.inv

end Run

theorem no_entry_stranded_drained : NoEntryStranded .isp
    ((Runs.run loopStep ispTaskRunning (ispLines 4 :: wholeRun ++ [ispLines 8])).get (by decide)) :=
  no_entry_stranded .isp .isp0 [0] ispTaskRunning _ _ isp_task_setup (.inr (by decide)) (by decide) (Option.some_get _).symm

-- Two entries come before the task runs, and its bit goes with the first.
theorem entry_stranded : ¬ ∀ (fe : FeOps) (line : Irq) (attached : List Nat) (start finish : Sched) (events : List LoopEvent),
    FrontEndSetup fe line attached start → Runs.run loopStep start events = some finish → NoEntryStranded fe finish := by
  intro claim
  let events := ispLines 4 :: ispLines 8 :: wholeRun
  let finish := (Runs.run loopStep ispTaskRunning events).get (by decide)
  obtain ⟨pri, attached, ready⟩ := claim .isp .isp0 [0] ispTaskRunning finish events isp_task_setup (Option.some_get _).symm
    (by decide) (by decide) (by decide)
  have asleep : ∀ pri < psMaxTaskType, (finish.dsp.tasks pri).fe.ops = some .isp → isReady finish.dsp.ready pri = false := by decide
  rw [asleep pri attached.inTable attached.ops] at ready
  cases ready

end CsiDsp
