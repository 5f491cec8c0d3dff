import CsiDsp.FrameAccount

set_option autoImplicit false

namespace CsiDsp

open CInt

-- What get_next_entry answers, read off the driver as it is before the run. An
-- entry comes with the lines that entry_done is told.
inductive Offer where
  | trap
  | missing
  | entry (lines : Nat)
deriving DecidableEq, Repr

def linesToPop (fifo : Sfifo) (full last : Nat) : Option Nat :=
  if isEnoughElementToPopFifo fifo full then some full
  else if isEnoughElementToPopFifo fifo last then some last
  else none

-- More lines than there can be leave the list on the caller's stack as it is,
-- and an entry with a second block is not taken.
def ispOffer (list : SispBuffer × SispBuffer) (handler : SispHandler) : Offer :=
  let info := handler.info.get handler.customerPingPongFlag
  let fifo := handler.fifo.get handler.customerPingPongFlag
  if handler.status ≠ .ok ∨ isEmptyFifo fifo then .missing
  else match linesToPop fifo info.lineNumPerEntry info.lineNumInLastEntry with
  | none => .missing
  | some lines =>
      if lines > fifo.depth ∨ lines > getElementNumFifo fifo then if list.2.size = 0 then .entry list.1.lineNum else .missing
      else match getHeadFifo fifo with
      | none => .trap
      | some head =>
          let upper := u16 ((fifo.depth : Int) - head)
          if head + lines ≤ fifo.depth then .entry lines
          else if u32 (u16 ((lines : Int) - upper) * info.sizePerLine : Nat) = 0 then .entry upper
          else .missing

def vipreOffer (id : Nat) (handler : SvipreHandler) : Offer :=
  let info := handler.info.get handler.customerPingPongFlag
  let fifo := handler.fifo.get handler.customerPingPongFlag
  if isEmptyFifo fifo then .missing
  else match handler.vipreMode with
  | .mFrame => match getHeadFifo fifo with
    | none => .trap
    | some head => if evenOddFrameMatch id head then .entry 0 else .missing
  | .nLine =>
      if linesToPop fifo info.lineNumPerEntry info.lineNumInLastEntry = none then .missing
      else if fifo.depth = 0 then .trap
      else .entry 0

def feOffer (scratch : Scratch) (dsp : Dsp) (fe : DspFeHandler) : Offer :=
  match fe.ops with
  | none => .trap
  | some .isp => ispOffer scratch.list dsp.isp
  | some .vipre => vipreOffer (u16 fe.id) dsp.vipre

-- Where pop_fifo leaves the head.
def headAfter (fifo : Sfifo) (element : Nat) : Nat :=
  if isEmptyFifo fifo || isOverflowFifo fifo || !isEnoughElementToPopFifo fifo element then fifo.head
  else u16 (fifo.head + element : Nat)

section Isp

variable (handler : SispHandler) (lines : Nat)

def ispHeadAfter : Nat := headAfter (handler.fifo.get handler.customerPingPongFlag) lines

def IspInFrame : Prop := i16 (ispHeadAfter handler lines) ≤ (handler.info.get handler.customerPingPongFlag).lineNumPerFrame

def IspLast : Prop := ispHeadAfter handler lines = (handler.fifo.get handler.customerPingPongFlag).maxIndex

def IspLoses : Prop :=
  ispHeadAfter handler lines ≠ (handler.fifo.get handler.customerPingPongFlag).head ∨ IspInFrame handler lines ∧ IspLast handler lines

def IspSound : Prop :=
  IspInFrame handler lines ∧ (IspLast handler lines → (!handler.customerPingPongFlag) = handler.producePingPongFlag)

end Isp

section Vipre

variable (handler : SvipreHandler) (lineNum : Int)

def vipreElement : Nat := match handler.vipreMode with
  | .mFrame => 1
  | .nLine => u16 lineNum

def vipreHeadAfter : Nat := headAfter (handler.fifo.get handler.customerPingPongFlag) (vipreElement handler lineNum)

def VipreLast : Prop := vipreHeadAfter handler lineNum = (handler.fifo.get handler.customerPingPongFlag).maxIndex

def VipreLoses : Prop :=
  isEmptyFifo (handler.fifo.get handler.customerPingPongFlag) = false ∧
    (vipreHeadAfter handler lineNum ≠ (handler.fifo.get handler.customerPingPongFlag).head ∨ VipreLast handler lineNum)

-- vipre_get_entry_to_pop notices an overflow of the FIFO, and takes no notice of it.
def VipreSound : Prop :=
  handler.status = .ok ∧ ¬ (handler.vipreMode = .nLine ∧ isOverflowFifo (handler.fifo.get handler.customerPingPongFlag) = true) ∧
    (VipreLast handler lineNum → (!handler.customerPingPongFlag) = handler.producePingPongFlag)

end Vipre

-- Whether entry_done takes the head entry, and whether the front end is in order after it.
def FeLoses (dsp : Dsp) (fe : DspFeHandler) (lines : Nat) : Prop :=
  match fe.ops with
  | none => False
  | some .isp => IspLoses dsp.isp (u16 (i16 lines))
  | some .vipre => VipreLoses dsp.vipre (i16 fe.id)

def FeSound (dsp : Dsp) (fe : DspFeHandler) (lines : Nat) : Prop :=
  match fe.ops with
  | none => False
  | some .isp => IspSound dsp.isp (u16 (i16 lines))
  | some .vipre => VipreSound dsp.vipre (i16 fe.id)

def MailboxFree (dsp : Dsp) : Prop := dsp.cmd.reportId = 0

instance (dsp : Dsp) : Decidable (MailboxFree dsp) := inferInstanceAs (Decidable (_ = _))

-- An entry for which the algorithm has run.
def ResultSent (dsp : Dsp) (pri : Nat) (extra : List UInt8) (lines : Nat) : Prop :=
  let ring := taskRing dsp pri
  let loses := FeLoses dsp (dsp.tasks pri).fe lines
  (¬ FeSound dsp (dsp.tasks pri).fe lines → ¬ loses) ∧
    (FeSound dsp (dsp.tasks pri).fe lines →
      if RingBroken ring then
        (loses → MailboxFree dsp ∧ IsDrop dsp.payload) ∧ (¬ loses → ¬ (MailboxFree dsp ∧ IsResult dsp.payload))
      else if ring.validBufNum ≤ 1 then loses → MailboxFree dsp
      else if MailboxFree dsp then loses ∧ (ResultFits dsp pri extra ∨ Carries dsp.payload (ring.bufs ring.headId))
      else ¬ loses)

def EntryFits (algo : AlgoResult) (dsp : Dsp) (pri : Nat) (lines : Nat) : Prop :=
  if (taskRing dsp pri).status ≠ bufStatusAllocted ∨ (taskRing dsp pri).validBufNum ≤ 0 then ¬ FeLoses dsp (dsp.tasks pri).fe lines
  else match algo with
  | .failure => True
  | .done extra => (dsp.tasks pri).algo.algoProcess ≠ none → ResultSent dsp pri extra lines

-- A recovery that is carried to its end.
def RecoverySent (dsp : Dsp) (pri : Nat) (loses : Prop) : Prop :=
  (loses → MailboxFree dsp ∧ ((dsp.tasks pri).report.buf ≠ none ∨ IsDrop dsp.payload)) ∧
    (¬ loses → ¬ (MailboxFree dsp ∧ (dsp.tasks pri).report.buf = none ∧ IsResult dsp.payload))

-- Front end and back end get to the second half of the recovery in this run.
def Recovers (status : EhwErrorCode) (ring : SwBeHandler) : Prop :=
  status = .overFlow ∧ ring.status ≠ EhwErrorCode.recoveryDone.code ∨
    status = .recoverying ∧ ring.status = EhwErrorCode.recoveryDone.code

def MissingFits (dsp : Dsp) (pri : Nat) : Prop :=
  match (dsp.tasks pri).fe.ops with
  | none => True
  | some .isp =>
      Recovers dsp.isp.status (taskRing dsp pri) → (dsp.isp.fifo.get dsp.isp.producePingPongFlag).depth ≠ 0 →
        RecoverySent dsp pri (isEmptyFifo (dsp.isp.fifo.get dsp.isp.customerPingPongFlag) = false)
  | some .vipre =>
      -- An overflow in the mode of N lines is not recovered from.
      let loses := dsp.vipre.vipreMode = .mFrame ∧ dsp.vipre.status = .overFlow ∧ VipreLoses dsp.vipre 1
      let recovers := Recovers dsp.vipre.status (taskRing dsp pri) ∧ ¬ (dsp.vipre.status = .overFlow ∧ dsp.vipre.vipreMode = .nLine)
      (recovers → RecoverySent dsp pri loses) ∧ (¬ recovers → ¬ loses)

def AccountFits (scratch : Scratch) (algo : AlgoResult) (dsp : Dsp) (pri : Nat) : Prop :=
  match feOffer scratch dsp (dsp.tasks pri).fe with
  | .trap => True
  | .missing => MissingFits dsp pri
  | .entry lines => EntryFits algo dsp pri lines

theorem pop_fifo_after (fifo : Sfifo) (element : Nat) : (popFifo fifo element).1 = { fifo with head := headAfter fifo element } := by
  rw [popFifo, headAfter]
  split
  · rfl
  · rfl

-- The head entry of a pair of FIFOs.
def headEntry (side : Bool) (fifo : PingPong Sfifo) : Option (Bool × Nat) :=
  if isEmptyFifo (fifo.get side) then none else some (side, (fifo.get side).head)

theorem head_entry_moved (side after : Bool) (fifo : PingPong Sfifo) (head : Nat) (filled : isEmptyFifo (fifo.get side) = false) :
    headEntry after (fifo.set side { fifo.get side with head := head }) ≠ headEntry side fifo ↔
      head ≠ (fifo.get side).head ∨ after ≠ side := by
  have some_ : headEntry side fifo = some (side, (fifo.get side).head) := by
    rw [headEntry, filled]
    rfl
  rw [some_, headEntry]
  by_cases same : after = side
  · subst same
    rw [PingPong.get_set_same]
    by_cases kept : head = (fifo.get after).head
    · subst kept
      have still : isEmptyFifo { fifo.get after with head := (fifo.get after).head } = false := filled
      simp [still]
    · split
      · simp [kept]
      · simp [kept]
  · split
    · simp [same]
    · simp [same]

section IspPop

variable (handler : SispHandler) (lines : Nat) (ok : handler.status = .ok)
variable (filled : isEmptyFifo (handler.fifo.get handler.customerPingPongFlag) = false)

include ok filled

theorem isp_pop_after :
    (ispcPopNewLine handler lines).1.fifo = handler.fifo.set handler.customerPingPongFlag
        { handler.fifo.get handler.customerPingPongFlag with head := ispHeadAfter handler lines } ∧
      ((ispcPopNewLine handler lines).1.customerPingPongFlag ≠ handler.customerPingPongFlag ↔
        IspInFrame handler lines ∧ IspLast handler lines) ∧
      ((ispcPopNewLine handler lines).1.status = .ok ↔ IspSound handler lines) := by
  have moved := pop_fifo_after (handler.fifo.get handler.customerPingPongFlag) lines
  have never := eisp_bool_never (popFifo (handler.fifo.get handler.customerPingPongFlag) lines).2
  have inFrame : IspInFrame handler lines ↔ ¬ i16 (ispHeadAfter handler lines) >
      (handler.info.get handler.customerPingPongFlag).lineNumPerFrame := Int.not_lt.symm
  have last : IspLast handler lines ↔ isLastEntryPopFifo
      { handler.fifo.get handler.customerPingPongFlag with head := ispHeadAfter handler lines } = true := beq_iff_eq.symm
  rw [IspSound, inFrame, last, ispcPopNewLine]
  simp only [ok, filled, ne_eq, not_true_eq_false, if_false, Bool.false_eq_true, moved, never, getHeadIndexFifo]
  rw [← ispHeadAfter]
  by_cases outside : i16 (ispHeadAfter handler lines) > (handler.info.get handler.customerPingPongFlag).lineNumPerFrame
  · simp [outside]
  · by_cases ends : isLastEntryPopFifo
        { handler.fifo.get handler.customerPingPongFlag with head := ispHeadAfter handler lines } = true
    · by_cases same : (!handler.customerPingPongFlag) = handler.producePingPongFlag
      · simp [outside, ends, ← same]
      · simp [outside, ends, same]
    · simp [outside, ends]

theorem isp_pop_loses : headEntry (ispcPopNewLine handler lines).1.customerPingPongFlag (ispcPopNewLine handler lines).1.fifo ≠
    headEntry handler.customerPingPongFlag handler.fifo ↔ IspLoses handler lines := by
  obtain ⟨fifo, side, -⟩ := isp_pop_after handler lines ok filled
  rw [fifo, head_entry_moved _ _ _ _ filled, side, IspLoses]

end IspPop

theorem vipre_finish_after (handler : SvipreHandler) (fifo : Sfifo) : (vipreFinishPop handler fifo).1.fifo = handler.fifo ∧
    (vipreFinishPop handler fifo).1.vipreMode = handler.vipreMode ∧
    ((vipreFinishPop handler fifo).1.customerPingPongFlag ≠ handler.customerPingPongFlag ↔ isLastEntryPopFifo fifo = true) ∧
    ((vipreFinishPop handler fifo).1.status = .ok ↔ (isLastEntryPopFifo fifo = true →
      (!handler.customerPingPongFlag) = handler.producePingPongFlag) ∧ handler.status = .ok) := by
  rw [vipreFinishPop]
  by_cases ends : isLastEntryPopFifo fifo = true
  · by_cases same : (!handler.customerPingPongFlag) = handler.producePingPongFlag
    · simp [ends, ← same]
    · simp [ends, same]
  · simp [ends]

section VipreHead

variable (handler : SvipreHandler) (lineNum : Int)
variable (filled : isEmptyFifo (handler.fifo.get handler.customerPingPongFlag) = false)
variable (ring : (handler.fifo.get handler.customerPingPongFlag).depth ≠ 0)

include filled ring

theorem vipre_pop_value : viprePopNewEntry handler lineNum = some (vipreFinishPop { handler with
      fifo := handler.fifo.set handler.customerPingPongFlag
        { handler.fifo.get handler.customerPingPongFlag with head := vipreHeadAfter handler lineNum } }
    { handler.fifo.get handler.customerPingPongFlag with head := vipreHeadAfter handler lineNum }) := by
  have moved := pop_fifo_after (handler.fifo.get handler.customerPingPongFlag) (vipreElement handler lineNum)
  have never := eisp_bool_never (popFifo (handler.fifo.get handler.customerPingPongFlag) (vipreElement handler lineNum)).2
  rw [vipreHeadAfter, ← moved]
  simp only [viprePopNewEntry, filled, ring, Bool.false_eq_true, if_false]
  exact if_neg never

theorem vipre_pop_after : ∃ after popped, viprePopNewEntry handler lineNum = some (after, popped) ∧
    (headEntry after.customerPingPongFlag after.fifo ≠ headEntry handler.customerPingPongFlag handler.fifo ↔
      VipreLoses handler lineNum) ∧
    (after.status = .ok ↔ (VipreLast handler lineNum → (!handler.customerPingPongFlag) = handler.producePingPongFlag) ∧
      handler.status = .ok) ∧ after.vipreMode = handler.vipreMode := by
  have last : VipreLast handler lineNum ↔ isLastEntryPopFifo
      { handler.fifo.get handler.customerPingPongFlag with head := vipreHeadAfter handler lineNum } = true := beq_iff_eq.symm
  obtain ⟨fifo, mode, side, status⟩ := vipre_finish_after { handler with
    fifo := handler.fifo.set handler.customerPingPongFlag
      { handler.fifo.get handler.customerPingPongFlag with head := vipreHeadAfter handler lineNum } }
    { handler.fifo.get handler.customerPingPongFlag with head := vipreHeadAfter handler lineNum }
  refine ⟨(vipreFinishPop _ _).1, (vipreFinishPop _ _).2, vipre_pop_value handler lineNum filled ring, ?_, ?_, mode⟩
  · rw [fifo, head_entry_moved _ _ _ _ filled, VipreLoses, last, filled]
    exact ⟨fun gone => ⟨rfl, gone.imp_right side.mp⟩, fun gone => gone.2.imp_right side.mpr⟩
  · rw [last]
    exact status

end VipreHead

-- What the ISP's get_next_entry answers is what was offered.
inductive IspOffered (list : SispBuffer × SispBuffer) (handler : SispHandler) (ctrlInfo : EntryStruct) : Offer → Prop where
  | trap (traps : getIspNextEntry list handler ctrlInfo = none) : IspOffered list handler ctrlInfo .trap
  | same (got : getIspNextEntry list handler ctrlInfo = some (handler, ctrlInfo, false)) : IspOffered list handler ctrlInfo .missing
  | failed (ok : handler.status = .ok)
      (got : getIspNextEntry list handler ctrlInfo = some ({ handler with status := .popFail }, ctrlInfo, false)) :
      IspOffered list handler ctrlInfo .missing
  | entry (lines : Nat) (found : EntryStruct) (ok : handler.status = .ok)
      (filled : isEmptyFifo (handler.fifo.get handler.customerPingPongFlag) = false) (height : found.height = i16 lines)
      (got : getIspNextEntry list handler ctrlInfo = some (handler, found, true)) : IspOffered list handler ctrlInfo (.entry lines)

-- The entry that the caller of isp_get_next_entry makes of the buffer list.
def ispEntry (handler : SispHandler) (list : SispBuffer × SispBuffer) : EntryStruct where
  x := 0
  y := u16 (ispGetPopedLineNum handler)
  height := i16 list.1.lineNum
  fmt := i16 list.2.fmt
  frameHeight := ispGetFrameHeight handler
  pitch := i16 list.1.lineSize
  pBuff := list.1.startAddr
  frameMeta := zeroMeta

theorem isp_looked (list : SispBuffer × SispBuffer) (handler : SispHandler) (ctrlInfo : EntryStruct) (ok : handler.status = .ok)
    (filled : isEmptyFifo (handler.fifo.get handler.customerPingPongFlag) = false) : getIspNextEntry list handler ctrlInfo =
      match linesToPop (handler.fifo.get handler.customerPingPongFlag) (handler.info.get handler.customerPingPongFlag).lineNumPerEntry
        (handler.info.get handler.customerPingPongFlag).lineNumInLastEntry with
      | none => some ({ handler with status := .popFail }, ctrlInfo, false)
      | some lines => (ispcGetEntryToPop handler lines list).map fun popped =>
          if popped.1.2.size = 0 then (handler, ispEntry handler popped.1, true) else (handler, ctrlInfo, false) := by
  have take (lines : Nat) : ((ispcGetEntryToPop handler lines list).bind fun popped =>
      if popped.2.toInt < 0 then some ({ handler with status := EhwErrorCode.popFail }, popped.1, false)
      else some (handler, popped.1, true)) = (ispcGetEntryToPop handler lines list).map fun popped => (handler, popped.1, true) := by
    cases ispcGetEntryToPop handler lines list with
    | none => rfl
    | some popped => exact if_neg (eisp_bool_never popped.2)
  have made (lines : Nat) : (((ispcGetEntryToPop handler lines list).map fun popped => (handler, popped.1, true)).bind fun answer =>
      if answer.2.2 = false then some (answer.1, ctrlInfo, false)
      else if answer.2.1.2.size ≠ 0 then some (answer.1, ctrlInfo, false)
      else some (answer.1, ispEntry answer.1 answer.2.1, true)) = (ispcGetEntryToPop handler lines list).map fun popped =>
          if popped.1.2.size = 0 then (handler, ispEntry handler popped.1, true) else (handler, ctrlInfo, false) := by
    cases ispcGetEntryToPop handler lines list with
    | none => rfl
    | some popped =>
        by_cases whole : popped.1.2.size = 0
        · simp [whole]
        · simp [whole]
  simp only [getIspNextEntry, ispGetNextEntry, ok, filled, linesToPop, ne_eq, not_true_eq_false, if_false, Bool.false_eq_true,
    Option.bind_eq_bind, take]
  split
  · exact made _
  · split
    · exact made _
    · rfl

theorem isp_offered (list : SispBuffer × SispBuffer) (handler : SispHandler) (ctrlInfo : EntryStruct) :
    IspOffered list handler ctrlInfo (ispOffer list handler) := by
  by_cases ok : handler.status = .ok
  · cases filled : isEmptyFifo (handler.fifo.get handler.customerPingPongFlag) with
    | true =>
        rw [ispOffer]
        simp only [ok, filled, or_true, if_true]
        exact .same (by simp [getIspNextEntry, ispGetNextEntry, ok, filled])
    | false =>
        have looked := isp_looked list handler ctrlInfo ok filled
        rw [ispOffer]
        simp only [ok, filled, ne_eq, not_true_eq_false, Bool.false_eq_true, or_self, if_false]
        cases lines_ : linesToPop (handler.fifo.get handler.customerPingPongFlag)
          (handler.info.get handler.customerPingPongFlag).lineNumPerEntry
          (handler.info.get handler.customerPingPongFlag).lineNumInLastEntry with
        | none =>
            rw [lines_] at looked
            exact .failed ok looked
        | some lines =>
            simp only [lines_, ispcGetEntryToPop, filled, Bool.false_eq_true, if_false, Bool.or_eq_true, decide_eq_true_eq,
              Option.bind_eq_bind] at looked
            by_cases many : lines > (handler.fifo.get handler.customerPingPongFlag).depth ∨
                lines > getElementNumFifo (handler.fifo.get handler.customerPingPongFlag)
            · simp only [if_pos many, Option.map_some] at looked ⊢
              by_cases whole : list.2.size = 0
              · rw [if_pos whole] at looked ⊢
                exact .entry _ _ ok filled (by rw [ispEntry]) looked
              · rw [if_neg whole] at looked ⊢
                exact .same looked
            · simp only [if_neg many] at looked ⊢
              cases start : getHeadFifo (handler.fifo.get handler.customerPingPongFlag) with
              | none =>
                  rw [start] at looked
                  exact .trap looked
              | some head =>
                  by_cases fits : head + lines ≤ (handler.fifo.get handler.customerPingPongFlag).depth
                  · simp only [start, Option.bind_some, ge_iff_le, if_pos fits, Option.map_some, if_true] at looked ⊢
                    exact .entry _ _ ok filled (by rw [ispEntry]) looked
                  · simp only [start, Option.bind_some, ge_iff_le, if_neg fits, Option.map_some] at looked ⊢
                    split
                    · rename_i whole
                      rw [if_pos whole] at looked
                      exact .entry _ _ ok filled (by rw [ispEntry]) looked
                    · rename_i whole
                      rw [if_neg whole] at looked
                      exact .same looked
  · rw [ispOffer]
    simp only [ok, ne_eq, not_false_eq_true, true_or, if_true]
    exact .same (by simp [getIspNextEntry, ispGetNextEntry, ok])

-- The status that looking for an entry leaves.
def vipreLooked (handler : SvipreHandler) : SvipreHandler :=
  if handler.vipreMode = .nLine ∧ isOverflowFifo (handler.fifo.get handler.customerPingPongFlag) = true then
    { handler with status := .overFlow }
  else handler

theorem vipre_looked_same (handler : SvipreHandler) : (vipreLooked handler).fifo = handler.fifo ∧
    (vipreLooked handler).customerPingPongFlag = handler.customerPingPongFlag ∧
    (vipreLooked handler).producePingPongFlag = handler.producePingPongFlag ∧ (vipreLooked handler).vipreMode = handler.vipreMode := by
  rw [vipreLooked]
  split <;> exact ⟨rfl, rfl, rfl, rfl⟩

-- What the VIPRE's get_next_entry answers is what was offered. Without a ring
-- the run traps, here or in entry_done.
inductive VipreOffered (buffer : SvipreBuffer) (id : Int) (handler : SvipreHandler) (ctrlInfo : EntryStruct) : Offer → Prop where
  | trap (traps : ∀ next entry found, getVipreNextEntry buffer id handler ctrlInfo = some (next, entry, found) →
      found = true ∧ ∀ lineNum, viprePopNewEntry next lineNum = none) : VipreOffered buffer id handler ctrlInfo .trap
  | missing (ring : isEmptyFifo (handler.fifo.get handler.customerPingPongFlag) = false → handler.vipreMode = .mFrame →
        (handler.fifo.get handler.customerPingPongFlag).depth ≠ 0)
      (got : getVipreNextEntry buffer id handler ctrlInfo = some (handler, ctrlInfo, false)) :
      VipreOffered buffer id handler ctrlInfo .missing
  | entry (lines : Nat) (found : EntryStruct) (filled : isEmptyFifo (handler.fifo.get handler.customerPingPongFlag) = false)
      (ring : (handler.fifo.get handler.customerPingPongFlag).depth ≠ 0)
      (got : getVipreNextEntry buffer id handler ctrlInfo = some (vipreLooked handler, found, true)) :
      VipreOffered buffer id handler ctrlInfo (.entry lines)

section VipreOffer

variable (buffer : SvipreBuffer) (id : Int) (handler : SvipreHandler) (ctrlInfo : EntryStruct)
variable (filled : isEmptyFifo (handler.fifo.get handler.customerPingPongFlag) = false)

include filled

theorem vipre_frame_offered (mode : handler.vipreMode = .mFrame) : VipreOffered buffer id handler ctrlInfo (vipreOffer (u16 id) handler) := by
  rw [vipreOffer]
  simp only [filled, mode, Bool.false_eq_true, if_false]
  cases start : getHeadFifo (handler.fifo.get handler.customerPingPongFlag) with
  | none =>
      refine .trap fun next entry found got => ?_
      simp [getVipreNextEntry, vipreGetNextEntry, filled, mode, start] at got
  | some head =>
      have ring : (handler.fifo.get handler.customerPingPongFlag).depth ≠ 0 := by
        rintro zero
        simp [getHeadFifo, zero] at start
      have looked : vipreLooked handler = handler := by simp [vipreLooked, mode]
      cases matched : evenOddFrameMatch (u16 id) head with
      | false =>
          simp only [matched, Bool.false_eq_true, if_false]
          exact .missing (fun _ _ => ring) (by simp [getVipreNextEntry, vipreGetNextEntry, filled, mode, start, matched])
      | true =>
          simp only [matched, if_true]
          have found : ∃ entry, getVipreNextEntry buffer id handler ctrlInfo = some (handler, entry, true) := by
            simp [getVipreNextEntry, vipreGetNextEntry, filled, mode, start, matched, vipreGetFrameMeta]
          obtain ⟨entry, got⟩ := found
          exact .entry 0 entry filled ring (by rw [looked, got])

theorem vipre_line_looked (mode : handler.vipreMode = .nLine) (lines : Nat) (result : SvipreBuffer) (found : Bool) (next : SvipreHandler)
    (popped : vipreGetEntryToPop handler lines buffer = some (next, result, found)) : next = vipreLooked handler := by
  simp only [vipreGetEntryToPop, filled, Bool.false_eq_true, if_false] at popped
  split at popped
  · rename_i full
    cases popped
    simp [vipreLooked, mode, full]
  · rename_i room
    have same : vipreLooked handler = handler := by simp [vipreLooked, room]
    rw [same]
    split at popped
    · cases popped
      rfl
    · obtain ⟨head, -, made⟩ := Option.bind_eq_some_iff.mp popped
      cases made
      rfl

theorem vipre_line_offered (mode : handler.vipreMode = .nLine) : VipreOffered buffer id handler ctrlInfo (vipreOffer (u16 id) handler) := by
  have take (lines : Nat) : ((vipreGetEntryToPop handler lines buffer).bind fun step =>
      if step.2.2.toInt < 0 then some (step.1, step.2.1, false) else some (step.1, step.2.1, true)) =
        (vipreGetEntryToPop handler lines buffer).map fun step => (step.1, step.2.1, true) := by
    cases vipreGetEntryToPop handler lines buffer with
    | none => rfl
    | some step => exact if_neg (eisp_bool_never step.2.2)
  have looked : vipreGetNextEntry handler (u16 id) buffer =
      match linesToPop (handler.fifo.get handler.customerPingPongFlag) (handler.info.get handler.customerPingPongFlag).lineNumPerEntry
        (handler.info.get handler.customerPingPongFlag).lineNumInLastEntry with
      | none => some (handler, buffer, false)
      | some lines => (vipreGetEntryToPop handler lines buffer).map fun step => (step.1, step.2.1, true) := by
    simp only [vipreGetNextEntry, filled, mode, linesToPop, Bool.false_eq_true, if_false, Option.bind_eq_bind, take]
    split
    · rfl
    · split <;> rfl
  rw [vipreOffer]
  simp only [filled, mode, Bool.false_eq_true, if_false]
  cases lines_ : linesToPop (handler.fifo.get handler.customerPingPongFlag)
    (handler.info.get handler.customerPingPongFlag).lineNumPerEntry
    (handler.info.get handler.customerPingPongFlag).lineNumInLastEntry with
  | none =>
      rw [lines_] at looked
      exact .missing (fun _ frames => by cases mode.symm.trans frames) (by simp [getVipreNextEntry, looked])
  | some lines =>
      simp only [lines_] at looked
      have seen := vipre_looked_same handler
      have found (next : SvipreHandler) (result : SvipreBuffer) (answer : Bool)
          (popped : vipreGetEntryToPop handler lines buffer = some (next, result, answer)) :
          ∃ entry, getVipreNextEntry buffer id handler ctrlInfo = some (vipreLooked handler, entry, true) := by
        rw [popped] at looked
        rw [vipre_line_looked buffer handler filled mode lines result answer next popped] at looked
        simp [getVipreNextEntry, looked, vipreGetFrameMeta, seen.2.2.2, mode]
      by_cases ring : (handler.fifo.get handler.customerPingPongFlag).depth = 0
      · simp only [reduceCtorEq, ring, if_true, if_false]
        refine .trap fun next entry answer got => ?_
        cases popped : vipreGetEntryToPop handler lines buffer with
        | none =>
            rw [popped] at looked
            simp [getVipreNextEntry, looked] at got
        | some step =>
            obtain ⟨entry_, same⟩ := found step.1 step.2.1 step.2.2 popped
            cases got.symm.trans same
            refine ⟨rfl, fun lineNum => ?_⟩
            simp [viprePopNewEntry, seen.1, seen.2.1, filled, ring]
      · simp only [reduceCtorEq, ring, if_false]
        have step : ∃ step, vipreGetEntryToPop handler lines buffer = some step := by
          simp only [vipreGetEntryToPop, filled, Bool.false_eq_true, if_false, getHeadFifo, ring, Option.bind_eq_bind, Option.bind_some]
          split
          · exact ⟨_, rfl⟩
          · split
            · exact ⟨_, rfl⟩
            · exact ⟨_, rfl⟩
        obtain ⟨step, popped⟩ := step
        obtain ⟨entry, got⟩ := found step.1 step.2.1 step.2.2 popped
        exact .entry 0 entry filled ring got

end VipreOffer

theorem vipre_offered (buffer : SvipreBuffer) (id : Int) (handler : SvipreHandler) (ctrlInfo : EntryStruct) :
    VipreOffered buffer id handler ctrlInfo (vipreOffer (u16 id) handler) := by
  cases filled : isEmptyFifo (handler.fifo.get handler.customerPingPongFlag) with
  | true =>
      simp only [vipreOffer, filled, if_true]
      exact .missing (fun filled_ => by cases filled.symm.trans filled_) (by simp [getVipreNextEntry, vipreGetNextEntry, filled])
  | false =>
      cases mode : handler.vipreMode with
      | mFrame => exact vipre_frame_offered buffer id handler ctrlInfo filled mode
      | nLine => exact vipre_line_offered buffer id handler ctrlInfo filled mode

theorem code_ok (status : EhwErrorCode) : status.code = 0 ↔ status = .ok := by
  cases status <;> decide

theorem fe_head_isp (dsp : Dsp) (fe : DspFeHandler) (ops : fe.ops = some .isp) :
    feHeadEntry dsp fe = headEntry dsp.isp.customerPingPongFlag dsp.isp.fifo := by
  rw [feHeadEntry, ops]
  rfl

theorem fe_head_vipre (dsp : Dsp) (fe : DspFeHandler) (ops : fe.ops = some .vipre) :
    feHeadEntry dsp fe = headEntry dsp.vipre.customerPingPongFlag dsp.vipre.fifo := by
  rw [feHeadEntry, ops]
  rfl

theorem head_entry_filled (side : Bool) (fifo : PingPong Sfifo) : headEntry side fifo ≠ none ↔ isEmptyFifo (fifo.get side) = false := by
  rw [headEntry]
  cases isEmptyFifo (fifo.get side) <;> simp

-- What entry_done does to an entry that was found.
def EntryPopped (dsp got : Dsp) (fe : DspFeHandler) (entry : EntryStruct) (lines : Nat) : Prop :=
  ∀ extra, ∃ done, feEntryDone { got with extraReport := extra } fe entry = some done ∧
    (HeadGone dsp done fe ↔ FeLoses dsp fe lines) ∧ (feGetState done fe = some 0 ↔ FeSound dsp fe lines)

section Front

variable (scratch : Scratch) (dsp : Dsp) (fe : DspFeHandler) (lines : Nat)

theorem isp_entry_popped (entry : EntryStruct) (ops : fe.ops = some .isp) (ok : dsp.isp.status = .ok)
    (filled : isEmptyFifo (dsp.isp.fifo.get dsp.isp.customerPingPongFlag) = false) (height : entry.height = i16 lines) (got : Dsp)
    (same : got.isp = dsp.isp) : EntryPopped dsp got fe entry lines := by
  intro extra
  obtain ⟨-, -, sound⟩ := isp_pop_after dsp.isp (u16 (i16 lines)) ok filled
  have loses := isp_pop_loses dsp.isp (u16 (i16 lines)) ok filled
  have filled_ := (head_entry_filled dsp.isp.customerPingPongFlag dsp.isp.fifo).mpr filled
  refine ⟨{ got with extraReport := extra, isp := (ispcPopNewLine dsp.isp (u16 (i16 lines))).1 }, ?_, ?_, ?_⟩
  · simp only [feEntryDone, ops, same, ispEntryDone, height, ispPopNLine]
  · rw [HeadGone, fe_head_isp dsp fe ops, fe_head_isp _ fe ops, FeLoses, ops]
    exact (and_iff_right filled_).trans loses
  · rw [feGetState, ops, FeSound, ops]
    exact Option.some_inj.trans ((code_ok _).trans sound)

theorem vipre_entry_popped (entry : EntryStruct) (ops : fe.ops = some .vipre)
    (filled : isEmptyFifo (dsp.vipre.fifo.get dsp.vipre.customerPingPongFlag) = false)
    (ring : (dsp.vipre.fifo.get dsp.vipre.customerPingPongFlag).depth ≠ 0) (got : Dsp) (same : got.vipre = vipreLooked dsp.vipre) :
    EntryPopped dsp got fe entry lines := by
  intro extra
  obtain ⟨fifo, customer, producer, mode⟩ := vipre_looked_same dsp.vipre
  obtain ⟨after, popped, done, loses, sound, -⟩ := vipre_pop_after (vipreLooked dsp.vipre) (i16 fe.id) (by rw [fifo, customer]; exact filled)
    (by rw [fifo, customer]; exact ring)
  have head : vipreHeadAfter (vipreLooked dsp.vipre) (i16 fe.id) = vipreHeadAfter dsp.vipre (i16 fe.id) := by
    rw [vipreHeadAfter, vipreHeadAfter, vipreElement, vipreElement, fifo, customer, mode]
  have filled_ := (head_entry_filled dsp.vipre.customerPingPongFlag dsp.vipre.fifo).mpr filled
  have status : (vipreLooked dsp.vipre).status = .ok ↔ dsp.vipre.status = .ok ∧ ¬ (dsp.vipre.vipreMode = .nLine ∧
      isOverflowFifo (dsp.vipre.fifo.get dsp.vipre.customerPingPongFlag) = true) := by
    rw [vipreLooked]
    split
    · rename_i full
      simp [full]
    · rename_i room
      simp [room]
  refine ⟨{ got with extraReport := extra, vipre := after }, ?_, ?_, ?_⟩
  · simp only [feEntryDone, ops, same, done, Option.map_some]
  · rw [HeadGone, fe_head_vipre dsp fe ops, fe_head_vipre _ fe ops, FeLoses, ops]
    rw [fifo, customer, VipreLoses, VipreLast, head, fifo, customer] at loses
    exact (and_iff_right filled_).trans loses
  · rw [feGetState, ops, FeSound, ops]
    rw [VipreLast, head, fifo, customer, producer, status] at sound
    refine Option.some_inj.trans ((code_ok _).trans (sound.trans ?_))
    rw [VipreSound, VipreLast]
    tauto

end Front

-- An entry that was found.
theorem entry_fits (algo : AlgoResult) (dsp got : Dsp) (pri : Nat) (entry : EntryStruct) (lines : Nat)
    (popped : EntryPopped dsp got (dsp.tasks pri).fe entry lines) : FoundKept algo dsp pri got entry ↔ EntryFits algo dsp pri lines := by
  have each (extra : List UInt8) (kept : Dsp → Prop) (value : Prop) (same : ∀ done,
      (HeadGone dsp done (dsp.tasks pri).fe ↔ FeLoses dsp (dsp.tasks pri).fe lines) →
      (feGetState done (dsp.tasks pri).fe = some 0 ↔ FeSound dsp (dsp.tasks pri).fe lines) → (kept done ↔ value)) :
      (∀ done, feEntryDone { got with extraReport := extra } (dsp.tasks pri).fe entry = some done → kept done) ↔ value := by
    obtain ⟨done, pops, gone, sound⟩ := popped extra
    rw [pops]
    simp only [Option.some.injEq, forall_eq']
    exact same done gone sound
  rw [FoundKept, EntryFits.eq_def, getSwBeNextEntry]
  by_cases stopped : (taskRing dsp pri).status ≠ bufStatusAllocted
  · rw [if_pos stopped, if_pos (.inl stopped)]
    exact each got.extraReport _ _ fun done gone _ => not_congr gone
  · by_cases none_ : (taskRing dsp pri).validBufNum ≤ 0
    · rw [if_neg stopped, if_pos none_, if_pos (.inr none_)]
      exact each got.extraReport _ _ fun done gone _ => not_congr gone
    · rw [if_neg stopped, if_neg none_, if_neg (not_or_intro stopped none_)]
      cases process : (dsp.tasks pri).algo.algoProcess with
      | none => cases algo <;> simp
      | some address =>
          cases algo with
          | failure => simp
          | done extra =>
              simp only [ne_eq, reduceCtorEq, not_false_eq_true, true_implies]
              refine each extra _ _ fun done gone sound => ?_
              rw [PoppedKept, ResultSent]
              by_cases ok : feGetState done (dsp.tasks pri).fe = some 0
              · simp only [ok, sound.mp ok, gone, ne_eq, not_true_eq_false, if_false, false_implies, true_implies, true_and, MailboxFree]
                exact Iff.rfl
              · simp only [ok, mt sound.mpr ok, gone, ne_eq, not_false_eq_true, if_true, true_implies, false_implies, and_true]

section Missing

variable (dsp got : Dsp) (pri : Nat)

-- The end of a recovery, where the front end has lost its entry or kept it.
theorem recovery_sent (updated last : Dsp) (loses : Prop) (state : feGetState updated (dsp.tasks pri).fe = some EhwErrorCode.recoverying.code)
    (status : Int) (ready : status = EhwErrorCode.recoveryDone.code) (done : feUpdateState updated (dsp.tasks pri).fe = some last)
    (gone : HeadGone dsp last (dsp.tasks pri).fe ↔ loses) : RecoveryKept dsp pri updated status ↔ RecoverySent dsp pri loses := by
  rw [RecoveryKept, if_pos ⟨state, ready⟩, done, RecoverySent]
  simp only [Option.some.injEq, forall_eq', gone, MailboxFree]

theorem recovery_stays (updated : Dsp) (status : Int) (other : feGetState updated (dsp.tasks pri).fe ≠ some EhwErrorCode.recoverying.code ∨
    status ≠ EhwErrorCode.recoveryDone.code) : RecoveryKept dsp pri updated status ↔ ¬ HeadGone dsp updated (dsp.tasks pri).fe := by
  rw [RecoveryKept, if_neg fun both => other.elim (fun never => never both.1) fun never => never both.2]

theorem sw_recovered (ring : SwBeHandler) : (swRecoveryStateUpdate ring).status = EhwErrorCode.recoveryDone.code ↔
    ring.status ≠ EhwErrorCode.recoveryDone.code := by
  rw [swRecoveryStateUpdate]
  by_cases done : ring.status = EhwErrorCode.recoveryDone.code
  · simp [done, EhwErrorCode.code]
  · simp [done]

section Isp

variable (ops : (dsp.tasks pri).fe.ops = some .isp)

include ops

theorem isp_state (state : Dsp) : feGetState state (dsp.tasks pri).fe = some state.isp.status.code := by
  rw [feGetState, ops]
  rfl

theorem isp_update (state : Dsp) : feUpdateState state (dsp.tasks pri).fe =
    (ispRecoveryStateUpdate state.isp).map fun handler => { state with isp := handler } := by
  rw [feUpdateState, ops]

theorem isp_gone (state : Dsp) : HeadGone dsp state (dsp.tasks pri).fe ↔
    isEmptyFifo (dsp.isp.fifo.get dsp.isp.customerPingPongFlag) = false ∧
      headEntry state.isp.customerPingPongFlag state.isp.fifo ≠ headEntry dsp.isp.customerPingPongFlag dsp.isp.fifo := by
  rw [HeadGone, fe_head_isp dsp _ ops, fe_head_isp state _ ops, head_entry_filled]

-- The reset leaves both sides on an empty FIFO.
theorem isp_recovery_sent (updated : Dsp) (status : Int) (phase : updated.isp.status = .recoverying)
    (fifo : updated.isp.fifo = dsp.isp.fifo) (producer : updated.isp.producePingPongFlag = dsp.isp.producePingPongFlag)
    (ready : status = EhwErrorCode.recoveryDone.code) : RecoveryKept dsp pri updated status ↔
      ((dsp.isp.fifo.get dsp.isp.producePingPongFlag).depth ≠ 0 →
        RecoverySent dsp pri (isEmptyFifo (dsp.isp.fifo.get dsp.isp.customerPingPongFlag) = false)) := by
  have state : feGetState updated (dsp.tasks pri).fe = some EhwErrorCode.recoverying.code := by rw [isp_state dsp pri ops, phase]
  have update := isp_update dsp pri ops updated
  simp only [ispRecoveryStateUpdate, phase, ispFifoReset, ispcFifoReset, nextBaseIndex, fifo, producer] at update
  by_cases ring : (dsp.isp.fifo.get dsp.isp.producePingPongFlag).depth = 0
  · simp only [ring, if_true, Option.bind_eq_bind, Option.bind_none, Option.map_none] at update
    rw [RecoveryKept, if_pos ⟨state, ready⟩, update]
    simp [ring]
  · simp only [ring, if_false, Option.bind_eq_bind, Option.bind_some, Option.map_some] at update
    have sent := recovery_sent dsp pri updated _ (isEmptyFifo (dsp.isp.fifo.get dsp.isp.customerPingPongFlag) = false) state status
      ready update (by
        rw [isp_gone dsp pri ops]
        refine and_iff_left_of_imp fun filled => ?_
        have some_ := (head_entry_filled dsp.isp.customerPingPongFlag dsp.isp.fifo).mpr filled
        simpa [headEntry, isEmptyFifo, resetFifo] using some_.symm)
    exact ⟨fun kept _ => sent.mp kept, fun given => sent.mpr (given ring)⟩

theorem isp_missing_fits (same : got.isp = dsp.isp) : MissingKept dsp pri got ↔ MissingFits dsp pri := by
  rw [MissingKept, MissingFits, ops, isp_state dsp pri ops, same]
  have still (status : Int) (other : dsp.isp.status ≠ .recoverying ∨ status ≠ EhwErrorCode.recoveryDone.code) :
      RecoveryKept dsp pri got status := by
    rw [recovery_stays dsp pri got status, isp_gone dsp pri ops, same]
    · exact fun gone => gone.2 rfl
    · rw [isp_state dsp pri ops, same]
      refine other.imp_left fun never code => never ?_
      cases status_ : dsp.isp.status <;> simp_all [EhwErrorCode.code]
  cases phase : dsp.isp.status with
  | overFlow =>
      have update := isp_update dsp pri ops got
      simp only [same, ispRecoveryStateUpdate, phase, Option.map_some] at update
      simp only [if_true, update, Option.some.injEq, forall_eq', Recovers, true_and, reduceCtorEq, false_and, or_false]
      by_cases ready : (taskRing dsp pri).status = EhwErrorCode.recoveryDone.code
      · simp only [ready, ne_eq, not_true_eq_false, false_implies, iff_true]
        rw [recovery_stays dsp pri _ _ (.inr fun done => (sw_recovered _).mp done ready), isp_gone dsp pri ops]
        exact fun gone => gone.2 rfl
      · simp only [ready, ne_eq, not_false_eq_true, true_implies]
        exact isp_recovery_sent dsp pri ops _ _ rfl rfl rfl ((sw_recovered _).mpr ready)
  | recoverying =>
      rw [if_neg (by decide)]
      simp only [Recovers, true_and, reduceCtorEq, false_and, false_or]
      by_cases ready : (taskRing dsp pri).status = EhwErrorCode.recoveryDone.code
      · refine Iff.trans ?_ (forall_prop_of_true ready).symm
        exact isp_recovery_sent dsp pri ops got _ (by rw [same, phase]) (by rw [same]) (by rw [same]) ready
      · exact iff_of_true (still _ (.inr ready)) fun done => absurd done ready
  | parmaInvalid | popFail | frameSwitchFail | ok | inputEmpry | recoveryDone =>
      rw [if_neg (by simp only [EhwErrorCode.code]; decide)]
      refine iff_of_true (still _ (.inl (by rw [phase]; exact EhwErrorCode.noConfusion))) fun recovers => ?_
      simp [Recovers] at recovers

theorem isp_failed_fits (ok : dsp.isp.status = .ok) (same : got.isp = { dsp.isp with status := .popFail }) :
    MissingKept dsp pri got ↔ MissingFits dsp pri := by
  have state : feGetState got (dsp.tasks pri).fe = some EhwErrorCode.popFail.code := by rw [isp_state dsp pri ops, same]
  rw [MissingKept, MissingFits, ops, state, if_neg (by decide),
    recovery_stays dsp pri got _ (.inl (by rw [state]; decide)), isp_gone dsp pri ops, same]
  exact iff_of_true (fun gone => gone.2 rfl) fun recovers => by simp [Recovers, ok] at recovers

end Isp

section Vipre

variable (ops : (dsp.tasks pri).fe.ops = some .vipre)

include ops

theorem vipre_state (state : Dsp) : feGetState state (dsp.tasks pri).fe = some state.vipre.status.code := by
  rw [feGetState, ops]
  rfl

theorem vipre_update (state : Dsp) : feUpdateState state (dsp.tasks pri).fe =
    (vipreRecoveryStateUpdate state.vipre).map fun handler => { state with vipre := handler } := by
  rw [feUpdateState, ops]

theorem vipre_gone (state : Dsp) : HeadGone dsp state (dsp.tasks pri).fe ↔
    isEmptyFifo (dsp.vipre.fifo.get dsp.vipre.customerPingPongFlag) = false ∧
      headEntry state.vipre.customerPingPongFlag state.vipre.fifo ≠ headEntry dsp.vipre.customerPingPongFlag dsp.vipre.fifo := by
  rw [HeadGone, fe_head_vipre dsp _ ops, fe_head_vipre state _ ops, head_entry_filled]

-- The first half of the recovery drops an entry, if there is one.
theorem vipre_drop (mode : dsp.vipre.vipreMode = .mFrame) (ring : isEmptyFifo (dsp.vipre.fifo.get dsp.vipre.customerPingPongFlag) = false →
    (dsp.vipre.fifo.get dsp.vipre.customerPingPongFlag).depth ≠ 0) : ∃ after popped, viprePopNewEntry dsp.vipre 1 = some (after, popped) ∧
      after.vipreMode = .mFrame ∧ ∀ state : Dsp, state.vipre.customerPingPongFlag = after.customerPingPongFlag →
        state.vipre.fifo = after.fifo → (HeadGone dsp state (dsp.tasks pri).fe ↔ VipreLoses dsp.vipre 1) := by
  cases filled : isEmptyFifo (dsp.vipre.fifo.get dsp.vipre.customerPingPongFlag) with
  | true =>
      refine ⟨dsp.vipre, false, pop_empty dsp.vipre 1 filled, mode, fun state customer fifo => ?_⟩
      rw [vipre_gone dsp pri ops, VipreLoses, filled]
      simp
  | false =>
      obtain ⟨after, popped, done, loses, -, kept⟩ := vipre_pop_after dsp.vipre 1 filled (ring filled)
      refine ⟨after, popped, done, kept.trans mode, fun state customer fifo => ?_⟩
      rw [vipre_gone dsp pri ops, customer, fifo, loses]
      exact and_iff_right_of_imp fun lost => lost.1

theorem vipre_stays (status : Int) (state : Dsp) (fifo : state.vipre.fifo = dsp.vipre.fifo)
    (customer : state.vipre.customerPingPongFlag = dsp.vipre.customerPingPongFlag)
    (other : state.vipre.status ≠ .recoverying ∨ status ≠ EhwErrorCode.recoveryDone.code) : RecoveryKept dsp pri state status := by
  rw [recovery_stays dsp pri state status, vipre_gone dsp pri ops, fifo, customer]
  · exact fun gone => gone.2 rfl
  · rw [vipre_state dsp pri ops]
    refine other.imp_left fun never code => never ?_
    cases phase : state.vipre.status <;> simp_all [EhwErrorCode.code]

theorem vipre_missing_fits (same : got.vipre = dsp.vipre)
    (ring : isEmptyFifo (dsp.vipre.fifo.get dsp.vipre.customerPingPongFlag) = false → dsp.vipre.vipreMode = .mFrame →
      (dsp.vipre.fifo.get dsp.vipre.customerPingPongFlag).depth ≠ 0) : MissingKept dsp pri got ↔ MissingFits dsp pri := by
  have update := vipre_update dsp pri ops
  rw [MissingKept, MissingFits, ops, vipre_state dsp pri ops, same]
  dsimp only
  cases phase : dsp.vipre.status with
  | overFlow =>
      rw [if_pos rfl, update, same]
      cases mode : dsp.vipre.vipreMode with
      | nLine =>
          simp only [vipreRecoveryStateUpdate, mode, Option.map_some, Option.some.injEq, forall_eq']
          refine iff_of_true (vipre_stays dsp pri ops _ _ rfl rfl (.inl ?_)) (by simp)
          dsimp only
          rw [phase]
          exact EhwErrorCode.noConfusion
      | mFrame =>
          obtain ⟨after, popped, done, kept, gone⟩ := vipre_drop dsp pri ops mode fun filled => ring filled mode
          simp only [vipreRecoveryStateUpdate, mode, phase, done, Option.map_some, Option.some.injEq, forall_eq', Recovers, true_and,
            reduceCtorEq, false_and, or_false, and_false, not_false_eq_true, and_true]
          by_cases ready : (taskRing dsp pri).status = EhwErrorCode.recoveryDone.code
          · rw [recovery_stays dsp pri _ _ (.inr fun both => (sw_recovered _).mp both ready), gone _ rfl rfl]
            simp [ready]
          · have sent := recovery_sent dsp pri { got with vipre := { after with status := .recoverying } } _ (VipreLoses dsp.vipre 1)
              (vipre_state dsp pri ops _) _ ((sw_recovered _).mpr ready)
              (by rw [update]; simp only [vipreRecoveryStateUpdate, kept, Option.map_some]; rfl) (gone _ rfl rfl)
            rw [sent]
            simp [ready]
  | recoverying =>
      rw [if_neg (by decide)]
      simp only [Recovers, true_and, reduceCtorEq, false_and, false_or, and_false, not_false_eq_true, and_true, implies_true]
      by_cases ready : (taskRing dsp pri).status = EhwErrorCode.recoveryDone.code
      · have next : ∃ next, feUpdateState got (dsp.tasks pri).fe = some next ∧ next.vipre.fifo = dsp.vipre.fifo ∧
            next.vipre.customerPingPongFlag = dsp.vipre.customerPingPongFlag := by
          rw [update, same]
          cases mode : dsp.vipre.vipreMode <;> simp [vipreRecoveryStateUpdate, mode, phase]
        obtain ⟨last, updated, fifo, customer⟩ := next
        have sent := recovery_sent dsp pri got last False (by rw [vipre_state dsp pri ops, same, phase]) _ ready updated
          (by rw [vipre_gone dsp pri ops, fifo, customer]; simp)
        rw [sent]
        simp [ready]
      · simp only [ready, false_implies, iff_true]
        exact vipre_stays dsp pri ops _ got (by rw [same]) (by rw [same]) (.inr ready)
  | parmaInvalid | popFail | frameSwitchFail | ok | inputEmpry | recoveryDone =>
      rw [if_neg (by simp only [EhwErrorCode.code]; decide)]
      refine iff_of_true (vipre_stays dsp pri ops _ got (by rw [same]) (by rw [same]) (.inl ?_)) (by simp [Recovers])
      rw [same, phase]
      exact EhwErrorCode.noConfusion

end Vipre

end Missing

-- Front end, ring and host stay in step in exactly the states and for exactly
-- the answers of the algorithm from which no entry goes without its report.
theorem frame_accounted (scratch : Scratch) (algo : AlgoResult) (dsp : Dsp) (pri : Nat) (task : HwToSwTask dsp pri) :
    FrameAccounted scratch algo dsp pri ↔ AccountFits scratch algo dsp pri := by
  rw [account_kept scratch algo dsp pri task, AccountKept, AccountFits, feOffer, feGetNextEntry]
  cases ops : (dsp.tasks pri).fe.ops with
  | none => exact Iff.rfl
  | some kind =>
      cases kind with
      | isp =>
          have offered := isp_offered scratch.list dsp.isp scratch.entry
          dsimp only
          generalize ispOffer scratch.list dsp.isp = offer at offered
          cases offered with
          | trap traps => simp [traps]
          | same got =>
              rw [got]
              exact isp_missing_fits dsp _ pri ops rfl
          | failed ok got =>
              rw [got]
              exact isp_failed_fits dsp _ pri ops ok rfl
          | entry lines found ok filled height got =>
              rw [got]
              exact entry_fits algo dsp _ pri found lines (isp_entry_popped dsp _ lines found ops ok filled height _ rfl)
      | vipre =>
          have offered := vipre_offered scratch.vipreBuffer (dsp.tasks pri).fe.id dsp.vipre scratch.entry
          dsimp only
          generalize vipreOffer (u16 (dsp.tasks pri).fe.id) dsp.vipre = offer at offered
          cases offered with
          | trap traps =>
              cases got : getVipreNextEntry scratch.vipreBuffer (dsp.tasks pri).fe.id dsp.vipre scratch.entry with
              | none => exact Iff.rfl
              | some answer =>
                  obtain ⟨next, entry, found⟩ := answer
                  obtain ⟨rfl, never⟩ := traps next entry found got
                  have stuck (state done : Dsp) (same : state.vipre = next) : feEntryDone state (dsp.tasks pri).fe entry ≠ some done := by
                    rw [feEntryDone, ops, same]
                    simp [never]
                  simp only [Option.map_some, FoundKept, iff_true]
                  split
                  · exact fun done popped => absurd popped (stuck _ done rfl)
                  · split
                    · trivial
                    · trivial
                    · exact fun done popped => absurd popped (stuck _ done rfl)
          | missing ring got =>
              rw [got]
              exact vipre_missing_fits dsp _ pri ops rfl ring
          | entry lines found filled ring got =>
              rw [got]
              exact entry_fits algo dsp _ pri found lines (vipre_entry_popped dsp _ lines found ops filled ring _ rfl)

instance (dsp : Dsp) (pri : Nat) : Decidable (HwToSwTask dsp pri) :=
  decidable_of_iff ((dsp.tasks pri).type = .hwToSw ∧ (dsp.tasks pri).algo.param ≠ none ∧ (dsp.tasks pri).be.ops = some .host ∧
      (dsp.swBe (dsp.tasks pri).be.id).bufNum < 256 ∧ (dsp.swBe (dsp.tasks pri).be.id).validBufNum < 128)
    ⟨fun ⟨type, param, host, number, valid⟩ => ⟨type, param, host, number, valid⟩,
      fun task => ⟨task.type, task.param, task.host, task.number, task.valid⟩⟩

-- The first entry is there, and the scheduler has picked its task.
def entryWaiting : Sched := (Runs.run loopStep ispTaskRunning [ispLines 4, .schedule zeroScratch .failure]).get (by decide)

theorem frame_accounted_failed : FrameAccounted zeroScratch .failure entryWaiting.dsp 0 :=
  (frame_accounted zeroScratch .failure entryWaiting.dsp 0 (by decide)).mpr trivial

-- The second entry comes while the host still has the report of the first.
def secondWaiting : Sched :=
  (Runs.run loopStep ispTaskRunning (ispLines 4 :: wholeRun ++ [ispLines 8, .schedule zeroScratch .failure])).get (by decide)

def secondRun : Dsp × TaskResult := (hwRun zeroScratch (.done []) 0 11 secondWaiting.dsp .resetExtra).get (by decide)

theorem unreported_drop : ¬ ∀ (scratch : Scratch) (algo : AlgoResult) (dsp : Dsp) (pri : Nat), HwToSwTask dsp pri →
    FrameAccounted scratch algo dsp pri := by
  intro claim
  have done : hwRun zeroScratch (.done []) 0 11 secondWaiting.dsp .resetExtra = some (secondRun.1, secondRun.2) :=
    Option.eq_some_of_isSome (by decide)
  have account := claim zeroScratch (.done []) secondWaiting.dsp 0 (by decide) _ _ (hw_run_leads _ _ _ 11 _ _ _ _ done)
  rcases account.gone ⟨by decide, by decide⟩ with ⟨⟨-, posted, -⟩, -⟩ | ⟨⟨-, posted, -⟩, -⟩
  · exact absurd posted.1 (by decide)
  · exact absurd posted.1 (by decide)

end CsiDsp
