import Mathlib.Data.Bool.Basic
import CsiDsp.IspStream
import CsiDsp.VipreFrames

set_option autoImplicit false

namespace CsiDsp

open CInt

-- head and tail as their uint16_t hold them.
def FifoInRange (fifo : Sfifo) : Prop := fifo.head < 65536 ∧ fifo.tail < 65536

-- A filled FIFO that does not give up the entries that are asked for.
def FifoRefuses (fifo : Sfifo) (element : Nat) : Prop :=
  isOverflowFifo fifo = true ∨ isEnoughElementToPopFifo fifo element = false

-- What a pop has to say: true only when the head went on by the entries asked
-- for, and a refusal as an error that leaves the rings and the device alone.
structure PopReported (fifo after : Sfifo) (element : Nat) (refused ret popFail flagsKept silent : Prop) : Prop where
  advanced : ret → after.head = fifo.head + element
  refused : refused → ¬ ret ∧ popFail ∧ after.head = fifo.head ∧ after.tail = fifo.tail ∧ flagsKept ∧ silent

-- The driver of the ISP and that of the post ISP write no register when they pop.
def IspPopReported (handler : SispHandler) (lineNum : Nat) : Prop :=
  let side := handler.customerPingPongFlag
  let fifo := handler.fifo.get side
  let next := (ispcPopNewLine handler lineNum).1
  let ret := (ispcPopNewLine handler lineNum).2
  PopReported fifo (next.fifo.get side) lineNum (handler.status = .ok ∧ isEmptyFifo fifo = false ∧ FifoRefuses fifo lineNum) (ret = true)
    (next.status = .popFail)
    (next.customerPingPongFlag = handler.customerPingPongFlag ∧ next.producePingPongFlag = handler.producePingPongFlag) True

def poppedElement (handler : SvipreHandler) (lineNum : Int) : Nat :=
  match handler.vipreMode with
  | .mFrame => 1
  | .nLine => u16 lineNum

-- What a call of vipre_pop_new_entry tells the device: the channels, and the
-- buffer or the line they are read up to.
def vipreReadSignals (handler : SvipreHandler) (lineNum : Int) : List (Nat × Int) :=
  let fifo := handler.fifo.get handler.customerPingPongFlag
  if isEmptyFifo fifo then []
  else
    match handler.vipreMode with
    | .mFrame => (vipreReadDone handler).map fun signal => (signal.1, (signal.2 : Int))
    | .nLine => (activeChannels handler.activeChannle).map fun channel => (channel, getHeadIndexFifo (popFifo fifo (u16 lineNum)).1)

def ViprePopReported (handler : SvipreHandler) (lineNum : Int) : Prop :=
  let side := handler.customerPingPongFlag
  let fifo := handler.fifo.get side
  ∃ next ret, viprePopNewEntry handler lineNum = some (next, ret) ∧
    PopReported fifo (next.fifo.get side) (poppedElement handler lineNum)
      (isEmptyFifo fifo = false ∧ FifoRefuses fifo (poppedElement handler lineNum)) (ret = true) (next.status = .popFail)
      (next.customerPingPongFlag = handler.customerPingPongFlag ∧ next.producePingPongFlag = handler.producePingPongFlag)
      (vipreReadSignals handler lineNum = [])

section Fifo

variable (fifo : Sfifo) (element : Nat) (filled : isEmptyFifo fifo = false)

theorem pop_refused (refuses : FifoRefuses fifo element) : popFifo fifo element = (fifo, false) := by
  rw [popFifo]
  rcases refuses with marked | short
  · rw [marked, Bool.or_true, Bool.true_or, if_pos rfl]
  · rw [short, Bool.not_false, Bool.or_true, if_pos rfl]

include filled

theorem pop_granted (inRange : FifoInRange fifo) (grants : ¬ FifoRefuses fifo element) :
    popFifo fifo element = ({ fifo with head := fifo.head + element }, true) := by
  rw [FifoRefuses, not_or, Bool.not_eq_true, Bool.not_eq_false] at grants
  obtain ⟨healthy, enough⟩ := grants
  have ordered : fifo.head + element ≤ fifo.tail := of_decide_eq_true enough
  rw [popFifo, filled, healthy, enough, Bool.not_true, Bool.or_false, Bool.or_false, if_neg Bool.false_ne_true,
    u16_fits _ (Nat.lt_of_le_of_lt ordered inRange.2)]

end Fifo

section Isp

variable (handler : SispHandler) (lineNum : Nat)

theorem isp_pop_idle (idle : handler.status ≠ .ok ∨ isEmptyFifo (handler.fifo.get handler.customerPingPongFlag) = true) :
    ispcPopNewLine handler lineNum = (handler, false) := by
  rw [ispcPopNewLine]
  rcases idle with failed | empty
  · rw [if_pos failed]
  · by_cases failed : handler.status ≠ .ok
    · rw [if_pos failed]
    · rw [if_neg failed, if_pos empty]

-- The head of the consumer's FIFO is behind the end of its frame.
def HeadPastFrame (handler : SispHandler) : Prop :=
  getHeadIndexFifo (handler.fifo.get handler.customerPingPongFlag) > (handler.info.get handler.customerPingPongFlag).lineNumPerFrame

variable (ok : handler.status = .ok) (filled : isEmptyFifo (handler.fifo.get handler.customerPingPongFlag) = false)

include ok filled

theorem isp_pop_fifo : (ispcPopNewLine handler lineNum).1.fifo =
    handler.fifo.set handler.customerPingPongFlag (popFifo (handler.fifo.get handler.customerPingPongFlag) lineNum).1 := by
  rw [ispcPopNewLine]
  dsimp only
  split
  · rename_i failed
    exact absurd ok failed
  · split
    · rename_i empty
      rw [filled] at empty
      cases empty
    · split
      · rfl
      · split
        · rfl
        · split
          · split <;> rfl
          · rfl

theorem isp_granted (inRange : FifoInRange (handler.fifo.get handler.customerPingPongFlag))
    (grants : ¬ FifoRefuses (handler.fifo.get handler.customerPingPongFlag) lineNum) : IspPopReported handler lineNum := by
  refine ⟨fun _ => ?_, fun refused => absurd refused.2.2 grants⟩
  rw [isp_pop_fifo handler lineNum ok filled, PingPong.get_set_same, pop_granted _ lineNum filled inRange grants]

theorem isp_refused (refuses : FifoRefuses (handler.fifo.get handler.customerPingPongFlag) lineNum) :
    IspPopReported handler lineNum ↔ HeadPastFrame handler := by
  have popped := pop_refused _ lineNum refuses
  have asked : handler.status = .ok ∧ isEmptyFifo (handler.fifo.get handler.customerPingPongFlag) = false ∧
      FifoRefuses (handler.fifo.get handler.customerPingPongFlag) lineNum := ⟨ok, filled, refuses⟩
  rw [IspPopReported]
  by_cases past : HeadPastFrame handler
  · refine iff_of_true ⟨fun ret => ?_, fun _ => ?_⟩ past
    · rw [HeadPastFrame] at past
      simp only [ispcPopNewLine, ok, filled, popped, Bool.false_eq_true, if_false, ne_eq, not_true_eq_false,
        eisp_bool_never false, if_pos past] at ret
    · rw [HeadPastFrame] at past
      simp only [ispcPopNewLine, ok, filled, popped, Bool.false_eq_true, if_false, ne_eq, not_true_eq_false,
        eisp_bool_never false, if_pos past, PingPong.get_set_same, and_self,
        not_false_eq_true]
  · refine iff_of_false (fun reported => ?_) past
    obtain ⟨rejected, failed, -⟩ := reported.refused asked
    rw [HeadPastFrame] at past
    simp only [ispcPopNewLine, ok, filled, popped, Bool.false_eq_true, if_false, ne_eq, not_true_eq_false,
      eisp_bool_never false, if_neg past] at rejected failed
    split at rejected
    · rename_i last
      rw [if_pos last] at failed
      split at failed
      · cases failed
      · rename_i together
        rw [if_neg together] at rejected
        exact rejected rfl
    · exact rejected rfl

end Isp

theorem isp_pop_reported (handler : SispHandler) (lineNum : Nat)
    (inRange : FifoInRange (handler.fifo.get handler.customerPingPongFlag)) : IspPopReported handler lineNum ↔
      handler.status ≠ .ok ∨ isEmptyFifo (handler.fifo.get handler.customerPingPongFlag) = true ∨
        ¬ FifoRefuses (handler.fifo.get handler.customerPingPongFlag) lineNum ∨ HeadPastFrame handler := by
  by_cases idle : handler.status ≠ .ok ∨ isEmptyFifo (handler.fifo.get handler.customerPingPongFlag) = true
  · refine iff_of_true ?_ (idle.imp_right .inl)
    rw [IspPopReported, isp_pop_idle handler lineNum idle]
    refine ⟨fun ret => (by cases ret), fun refused => ?_⟩
    rcases idle with failed | empty
    · exact absurd refused.1 failed
    · rw [refused.2.1] at empty
      cases empty
  · rw [not_or, not_not, Bool.not_eq_true] at idle
    obtain ⟨ok, filled⟩ := idle
    by_cases refuses : FifoRefuses (handler.fifo.get handler.customerPingPongFlag) lineNum
    · rw [isp_refused handler lineNum ok filled refuses]
      simp [ok, filled, refuses]
    · exact iff_of_true (isp_granted handler lineNum ok filled inRange refuses) (.inr (.inr (.inl refuses)))

theorem vipre_pop_idle (handler : SvipreHandler) (lineNum : Int)
    (empty : isEmptyFifo (handler.fifo.get handler.customerPingPongFlag) = true) :
    viprePopNewEntry handler lineNum = some (handler, false) := by
  rw [viprePopNewEntry]
  exact if_pos empty

theorem vipre_pop_filled (handler : SvipreHandler) (lineNum : Int)
    (filled : isEmptyFifo (handler.fifo.get handler.customerPingPongFlag) = false)
    (deep : (handler.fifo.get handler.customerPingPongFlag).depth ≠ 0) : viprePopNewEntry handler lineNum = some (vipreFinishPop
      { handler with
        fifo := handler.fifo.set handler.customerPingPongFlag
          (popFifo (handler.fifo.get handler.customerPingPongFlag) (poppedElement handler lineNum)).1 }
      (popFifo (handler.fifo.get handler.customerPingPongFlag) (poppedElement handler lineNum)).1) := by
  rw [viprePopNewEntry, poppedElement]
  cases handler.vipreMode with
  | mFrame => simp only [filled, Bool.false_eq_true, if_false, if_neg deep, eisp_bool_never]
  | nLine => simp only [filled, Bool.false_eq_true, if_false, if_neg deep, eisp_bool_never]

theorem finish_pop_fifo (handler : SvipreHandler) (fifo : Sfifo) (next : SvipreHandler) (ret : Bool)
    (finished : vipreFinishPop handler fifo = (next, ret)) : next.fifo = handler.fifo := by
  rw [vipreFinishPop] at finished
  split at finished
  · dsimp only at finished
    split at finished <;> cases finished <;> rfl
  · cases finished
    rfl

-- A pop either leaves the consumer where it is and is done, or it takes it to
-- the other side.
theorem finish_pop_flag (handler : SvipreHandler) (fifo : Sfifo) (next : SvipreHandler) (ret : Bool)
    (finished : vipreFinishPop handler fifo = (next, ret)) :
    ret = true ∨ next.customerPingPongFlag = !handler.customerPingPongFlag := by
  rw [vipreFinishPop] at finished
  split at finished
  · dsimp only at finished
    split at finished
    · cases finished
      exact .inr rfl
    · cases finished
      exact .inl rfl
  · cases finished
    exact .inl rfl

theorem vipre_pop_reported (handler : SvipreHandler) (lineNum : Int)
    (inRange : FifoInRange (handler.fifo.get handler.customerPingPongFlag)) : ViprePopReported handler lineNum ↔
      isEmptyFifo (handler.fifo.get handler.customerPingPongFlag) = true ∨
        (handler.fifo.get handler.customerPingPongFlag).depth ≠ 0 ∧
          ¬ FifoRefuses (handler.fifo.get handler.customerPingPongFlag) (poppedElement handler lineNum) := by
  cases filled : isEmptyFifo (handler.fifo.get handler.customerPingPongFlag) with
  | true =>
      refine iff_of_true ⟨handler, false, vipre_pop_idle handler lineNum filled, fun ret => (by cases ret), fun refused => ?_⟩ (.inl rfl)
      exact Bool.noConfusion (filled.symm.trans refused.1)
  | false =>
      by_cases deep : (handler.fifo.get handler.customerPingPongFlag).depth = 0
      · refine iff_of_false ?_ (by simp [deep])
        rintro ⟨next, ret, popped, -⟩
        simp only [viprePopNewEntry, filled, deep, Bool.false_eq_true, if_false, if_true] at popped
        cases popped
      · have popped := vipre_pop_filled handler lineNum filled deep
        by_cases refuses : FifoRefuses (handler.fifo.get handler.customerPingPongFlag) (poppedElement handler lineNum)
        · refine iff_of_false ?_ (by simp [refuses])
          rintro ⟨next, ret, done, reported⟩
          rw [popped] at done
          obtain ⟨rejected, -, -, -, kept, -⟩ := reported.refused ⟨filled, refuses⟩
          have result := Option.some.inj done
          rcases finish_pop_flag _ _ next ret result with answered | flipped
          · exact rejected answered
          · rw [kept.1] at flipped
            exact Bool.self_ne_not _ flipped
        · obtain ⟨answer, finished⟩ : ∃ answer, vipreFinishPop
              { handler with
                fifo := handler.fifo.set handler.customerPingPongFlag
                  (popFifo (handler.fifo.get handler.customerPingPongFlag) (poppedElement handler lineNum)).1 }
              (popFifo (handler.fifo.get handler.customerPingPongFlag) (poppedElement handler lineNum)).1 = answer := ⟨_, rfl⟩
          rw [finished] at popped
          refine iff_of_true ⟨answer.1, answer.2, popped, fun _ => ?_, fun refused => absurd refused.2 refuses⟩ (.inr ⟨deep, refuses⟩)
          rw [finish_pop_fifo _ _ answer.1 answer.2 finished, PingPong.get_set_same, pop_granted _ _ filled inRange refuses]

-- A pop is reported as the driver means it if and only if it is not refused, or
-- the head of the line FIFO is behind the end of its frame anyway.
theorem refused_pop_reported (isp : SispHandler) (lineNum : Nat) (vipre : SvipreHandler) (lines : Int)
    (ispRange : FifoInRange (isp.fifo.get isp.customerPingPongFlag))
    (vipreRange : FifoInRange (vipre.fifo.get vipre.customerPingPongFlag)) :
    (IspPopReported isp lineNum ↔
      isp.status ≠ .ok ∨ isEmptyFifo (isp.fifo.get isp.customerPingPongFlag) = true ∨
        ¬ FifoRefuses (isp.fifo.get isp.customerPingPongFlag) lineNum ∨ HeadPastFrame isp) ∧
    (ViprePopReported vipre lines ↔
      isEmptyFifo (vipre.fifo.get vipre.customerPingPongFlag) = true ∨
        (vipre.fifo.get vipre.customerPingPongFlag).depth ≠ 0 ∧
          ¬ FifoRefuses (vipre.fifo.get vipre.customerPingPongFlag) (poppedElement vipre lines)) :=
  ⟨isp_pop_reported isp lineNum ispRange, vipre_pop_reported vipre lines vipreRange⟩

-- The ISP with the first four lines of its frame.
def fourLines : IspStream := (Runs.run streamStep (startStream (smallIsp 512)) [.nLines]).get (by decide)

theorem refused_pop_reported_four : IspPopReported fourLines.handler 4 ∧ ViprePopReported zeroVipre 4 := by
  obtain ⟨isp, vipre⟩ := refused_pop_reported fourLines.handler 4 zeroVipre 4 ⟨by decide, by decide⟩ ⟨by decide, by decide⟩
  refine ⟨isp.mpr (.inr (.inr (.inl fun refuses => ?_))), vipre.mpr (.inl (by decide))⟩
  rcases refuses with marked | short
  · exact absurd marked (by decide)
  · exact absurd short (by decide)

-- Eight lines are popped where there are four: the call returns true.
theorem short_pop_granted : ¬ ∀ (config : SispConfigPar) (start : SispHandler) (events : List StreamEvent) (finish : IspStream)
    (lineNum : Nat), ispHandlerConfig (zeroHandler 0) config = some (start, .ok) →
    Runs.run streamStep (startStream start) events = some finish → IspPopReported finish.handler lineNum := by
  intro claim
  have reported := claim (smallIspConfig 512) (smallIsp 512) [.nLines] fourLines 8 (by decide) (Option.some_get _).symm
  exact absurd (reported.advanced (by decide)) (by decide)

end CsiDsp
