import CsiDsp.FrameReports

set_option autoImplicit false

-- One entry in a front end: how it comes in, what looking finds of it, and that
-- one pop takes it away whole.
namespace CsiDsp

open CInt

theorem u16_i16 (value : Nat) (small : value < 65536) : u16 (i16 value) = value := by
  simp only [u16, i16, wrapU, wrapS, Nat.reducePow]
  rw [Int.bmod_def]
  split <;> omega

-- The entry is alone in the customer's FIFO, and when it is the last of its side
-- the other side is empty.
structure IspHeld (handler : SispHandler) : Prop where
  ok : handler.status = .ok
  filled : isEmptyFifo (handler.fifo.get handler.customerPingPongFlag) = false
  offered : ∀ list, ispOffer list handler = .entry (handler.info.get handler.customerPingPongFlag).lineNumPerEntry
  drains : ispHeadAfter handler (u16 (i16 (handler.info.get handler.customerPingPongFlag).lineNumPerEntry)) =
    (handler.fifo.get handler.customerPingPongFlag).tail
  fresh : (handler.fifo.get handler.customerPingPongFlag).tail = (handler.fifo.get handler.customerPingPongFlag).maxIndex →
    isEmptyFifo (handler.fifo.get (!handler.customerPingPongFlag)) = true

def ispEmpty (handler : SispHandler) : Bool := isEmptyFifo (handler.fifo.get handler.customerPingPongFlag)

-- The next entry has lines and is in one piece: it does not go over the ring's
-- end or over the end of the index.
def IspWhole (handler : SispHandler) : Prop :=
  let fifo := handler.fifo.get handler.producePingPongFlag
  let lines := (handler.info.get handler.producePingPongFlag).lineNumPerEntry
  lines ≠ 0 ∧ isOverflowFifo fifo = false ∧ fifo.tail + lines < 65536 ∧ fifo.depth ≠ 0 ∧
    (getHeadFifo fifo).getD 0 + lines ≤ fifo.depth

instance (handler : SispHandler) : Decidable (IspWhole handler) := inferInstanceAs (Decidable (_ ∧ _ ∧ _ ∧ _ ∧ _))

section IspPush

variable (handler : SispHandler) (empty : ispEmpty handler = true) (whole : IspWhole handler)

include empty whole

-- The FIFO after the push of a whole entry: the entry is found, and popped at once.
theorem isp_pushed_held (sides : handler.producePingPongFlag = handler.customerPingPongFlag)
    (next : SispHandler) (ok : next.status = .ok)
    (customer : next.customerPingPongFlag = handler.customerPingPongFlag)
    (info : next.info.get handler.customerPingPongFlag = handler.info.get handler.customerPingPongFlag)
    (fifo : next.fifo.get handler.customerPingPongFlag = { handler.fifo.get handler.customerPingPongFlag with
      tail := (handler.fifo.get handler.customerPingPongFlag).tail +
        (handler.info.get handler.customerPingPongFlag).lineNumPerEntry })
    (fresh : (handler.fifo.get handler.customerPingPongFlag).tail +
        (handler.info.get handler.customerPingPongFlag).lineNumPerEntry = (handler.fifo.get handler.customerPingPongFlag).maxIndex →
      isEmptyFifo (next.fifo.get (!handler.customerPingPongFlag)) = true) : IspHeld next := by
  simp only [IspWhole, sides] at whole
  simp only [ispEmpty] at empty
  obtain ⟨lines, clean, small, ring, piece⟩ := whole
  generalize handler.fifo.get handler.customerPingPongFlag = before at *
  generalize (handler.info.get handler.customerPingPongFlag) = base at *
  have start : before.tail = before.head := by simpa [isEmptyFifo] using empty
  obtain ⟨head, found⟩ : ∃ head, getHeadFifo before = some head := by
    rw [getHeadFifo, if_neg ring]
    exact ⟨_, rfl⟩
  rw [found, Option.getD_some] at piece
  have filled : isEmptyFifo { before with tail := before.tail + base.lineNumPerEntry } = false := by
    simp only [isEmptyFifo, beq_eq_false_iff_ne]
    omega
  have enough : isEnoughElementToPopFifo { before with tail := before.tail + base.lineNumPerEntry } base.lineNumPerEntry = true := by
    simp only [isEnoughElementToPopFifo, decide_eq_true_eq]
    omega
  have count : getElementNumFifo { before with tail := before.tail + base.lineNumPerEntry } = base.lineNumPerEntry := by
    rw [getElementNumFifo]
    have difference : ((before.tail + base.lineNumPerEntry : Nat) : Int) - before.head = (base.lineNumPerEntry : Nat) := by omega
    rw [difference, u16_fits _ (by omega)]
  refine ⟨ok, by rw [customer, fifo]; exact filled, fun list => ?_, ?_, by rw [customer, fifo]; exact fresh⟩
  · have head_ : getHeadFifo { before with tail := before.tail + base.lineNumPerEntry } = some head := found
    simp only [ispOffer, customer, fifo, info, ok, filled, linesToPop, enough, count, head_, ne_eq, not_true_eq_false, if_true,
      Bool.false_eq_true, or_self, if_false, gt_iff_lt, Nat.lt_irrefl, or_false]
    rw [if_neg (by omega), if_pos piece]
  · rw [ispHeadAfter, customer, fifo, info, u16_i16 _ (by omega), headAfter, filled]
    have sound : isOverflowFifo { before with tail := before.tail + base.lineNumPerEntry } = false := clean
    simp only [sound, enough, Bool.or_self, Bool.not_true, Bool.false_eq_true, if_false]
    rw [← start, u16_fits _ small]

end IspPush

-- What the customer's FIFO may hold: nothing, one entry, or what an error has left there.
def IspKept (handler : SispHandler) : Prop :=
  ispEmpty handler = true ∨ IspHeld handler ∨ (handler.status ≠ .ok ∧ handler.status ≠ .recoveryDone)

-- Nothing comes into the customer's FIFO: an entry that is there after the step was there before it.
structure IspStill (handler next : SispHandler) : Prop where
  kept : IspKept next
  same : IspHeld next → next = handler

section IspInterrupt

variable (handler next : SispHandler)

theorem isp_held_filled (held : IspHeld handler) : ispEmpty handler ≠ true := by
  rw [ispEmpty, held.filled]
  exact Bool.false_ne_true

theorem isp_still_empty (empty : ispEmpty next = true) : IspStill handler next :=
  ⟨.inl empty, fun held => absurd empty (isp_held_filled next held)⟩

theorem isp_still_failed (failed : next.status ≠ .ok) (never : next.status ≠ .recoveryDone) : IspStill handler next :=
  ⟨.inr (.inr ⟨failed, never⟩), fun held => absurd held.ok failed⟩

theorem isp_push_kept (element : Nat) (recorded : Bool) (ok : handler.status = .ok) (empty : ispEmpty handler = true)
    (whole : IspWhole handler) (pushed : PushOutcome handler element next recorded) : IspKept next := by
  have small : u16 ((handler.fifo.get handler.producePingPongFlag).tail +
      (handler.info.get handler.producePingPongFlag).lineNumPerEntry : Nat) = (handler.fifo.get handler.producePingPongFlag).tail +
        (handler.info.get handler.producePingPongFlag).lineNumPerEntry := u16_fits _ whole.2.2.1
  cases pushed with
  | stopped failed => exact absurd ok failed
  | unsized | crowded => exact .inr (.inr ⟨EhwErrorCode.noConfusion, EhwErrorCode.noConfusion⟩)
  | recorded _ _ tail moved more =>
      rw [small] at moved
      by_cases sides : handler.producePingPongFlag = handler.customerPingPongFlag
      · refine .inr (.inl (isp_pushed_held handler empty whole sides _ ok rfl rfl ?_ fun last => ?_))
        · simp only [sides, PingPong.get_set_same]
          rw [← sides, moved]
        · rw [← sides, ← moved] at last
          exact absurd last more
      · -- The entry goes to the other side than the customer's.
        have other : handler.customerPingPongFlag = !handler.producePingPongFlag := Bool.eq_not.mpr (Ne.symm sides)
        refine .inl ?_
        rw [ispEmpty, other] at empty ⊢
        rw [PingPong.get_set_other]
        exact empty
  | finished _ _ tail baseIndex moved last following =>
      rw [small] at moved
      by_cases sides : handler.producePingPongFlag = handler.customerPingPongFlag
      · refine .inr (.inl (isp_pushed_held handler empty whole sides _ ok rfl ?_ ?_ fun _ => ?_))
        · simp only [sides, PingPong.get_set_flipped]
        · simp only [sides, PingPong.get_set_same, PingPong.get_set_flipped]
          rw [← sides, moved]
        · simp only [sides, PingPong.get_set_same]
          rfl
      · have other : handler.customerPingPongFlag = !handler.producePingPongFlag := Bool.eq_not.mpr (Ne.symm sides)
        refine .inl ?_
        rw [ispEmpty, other, PingPong.get_set_same]
        rfl

theorem isp_kept_value (value : Nat) (kept : IspKept handler) : IspKept { handler with currentNValue := value } :=
  kept.imp_right (Or.imp_left fun held => ⟨held.ok, held.filled, held.offered, held.drains, held.fresh⟩)

theorem isp_frame_done_still (kept : IspKept handler) (served : ispServeFrameDone handler = some next) : IspStill handler next := by
  unfold ispServeFrameDone at served
  split at served
  · rename_i done
    rcases kept with empty | held | ⟨-, never⟩
    · cases phase : handler.status <;> simp_all [ispGetStatus, EhwErrorCode.code, ispRecoveryStateUpdate]
      exact isp_still_empty handler next (by rw [← served]; exact empty)
    · rw [ispGetStatus, held.ok] at done
      cases done
    · cases phase : handler.status <;> simp_all [ispGetStatus, EhwErrorCode.code]
  · split at served
    · obtain ⟨index, -, same⟩ := Option.bind_eq_some_iff.mp served
      cases same
      refine isp_still_empty handler _ ?_
      rw [ispEmpty, PingPong.get_set_same]
      rfl
    · cases served
      exact ⟨kept, fun _ => rfl⟩

-- An interrupt that brings an entry finds the FIFO empty, and the entry is whole.
theorem isp_interrupt_kept (registers : IspInterrupt) (kept : IspKept handler)
    (inTime : registers.nLines = true → handler.status = .ok → ispEmpty handler = true ∧ IspWhole handler)
    (served : ispInterruptHandler handler registers = some next) :
    IspKept next ∧ (¬ (registers.nLines = true ∧ handler.status = .ok) → IspStill handler next) := by
  simp only [ispInterruptHandler, Option.bind_eq_bind] at served
  have done (middle : SispHandler) (before : IspKept middle)
      (rest : (if registers.frameDone = true then ispServeFrameDone middle else some middle) = some next) : IspStill middle next := by
    split at rest
    · exact isp_frame_done_still middle next before rest
    · cases rest
      exact ⟨before, fun _ => rfl⟩
  split at served
  · rename_i signalled
    obtain ⟨middle, pushed, rest⟩ := Option.bind_eq_some_iff.mp served
    obtain ⟨⟨after, recorded⟩, push, value⟩ := Option.bind_eq_some_iff.mp pushed
    cases value
    have outcome := push_outcome handler after _ recorded push
    by_cases ok : handler.status = .ok
    · obtain ⟨empty, whole⟩ := inTime signalled ok
      have still := done _ (isp_kept_value after _ (isp_push_kept handler after _ recorded ok empty whole outcome)) rest
      exact ⟨still.kept, fun never => absurd ⟨signalled, ok⟩ never⟩
    · cases outcome with
      | stopped failed =>
          have still := done _ (isp_kept_value handler _ kept) rest
          refine ⟨still.kept, fun _ => ⟨still.kept, fun held => absurd ?_ ok⟩⟩
          have same := still.same held
          rw [same] at held
          exact held.ok
      | unsized fine | crowded fine | recorded fine | finished fine => exact absurd fine ok
  · have still := done handler kept served
    exact ⟨still.kept, fun _ => still⟩

-- A call of get_next_entry finds the entry, and its lines are those to pop.
theorem isp_get_kept (list : SispBuffer × SispBuffer) (ctrlInfo entry : EntryStruct) (found : Bool) (kept : IspKept handler)
    (got : getIspNextEntry list handler ctrlInfo = some (next, entry, found)) : IspStill handler next ∧
      (IspHeld handler → found = true ∧ ispHeadAfter handler (u16 entry.height) =
        (handler.fifo.get handler.customerPingPongFlag).tail) := by
  have offered := isp_offered list handler ctrlInfo
  rcases kept with empty | held | ⟨failed, never⟩
  · rw [ispEmpty] at empty
    have none_ : ispOffer list handler = .missing := by simp [ispOffer, empty]
    have still : next.fifo = handler.fifo ∧ next.customerPingPongFlag = handler.customerPingPongFlag := by
      rw [none_] at offered
      cases offered with
      | same answer => cases got.symm.trans answer; exact ⟨rfl, rfl⟩
      | failed _ answer => cases got.symm.trans answer; exact ⟨rfl, rfl⟩
    refine ⟨isp_still_empty handler next ?_, fun held => absurd empty (isp_held_filled handler held)⟩
    rw [ispEmpty, still.1, still.2, empty]
  · rw [held.offered list] at offered
    cases offered with
    | entry lines taken ok filled height answer =>
        cases got.symm.trans answer
        refine ⟨⟨.inr (.inl held), fun _ => rfl⟩, fun _ => ⟨rfl, ?_⟩⟩
        rw [height]
        exact held.drains
  · have none_ : ispOffer list handler = .missing := by simp [ispOffer, failed]
    rw [none_] at offered
    cases offered with
    | same answer =>
        cases got.symm.trans answer
        exact ⟨isp_still_failed handler _ failed never, fun held => absurd held.ok failed⟩
    | failed ok => exact absurd ok failed

theorem isp_pop_taken (lines : Nat) (kept : IspKept handler)
    (drains : IspHeld handler → ispHeadAfter handler lines = (handler.fifo.get handler.customerPingPongFlag).tail) :
    IspKept (ispcPopNewLine handler lines).1 ∧ ¬ IspHeld (ispcPopNewLine handler lines).1 := by
  rcases kept with empty | held | ⟨failed, never⟩
  · have same : (ispcPopNewLine handler lines).1 = handler := by
      rw [ispEmpty] at empty
      rw [ispcPopNewLine]
      simp only [empty, if_true]
      split <;> rfl
    rw [same]
    exact ⟨.inl empty, fun held => isp_held_filled handler held empty⟩
  · obtain ⟨fifo, side, -⟩ := isp_pop_after handler lines held.ok held.filled
    have empty : ispEmpty (ispcPopNewLine handler lines).1 = true := by
      rw [ispEmpty, fifo]
      by_cases stays : (ispcPopNewLine handler lines).1.customerPingPongFlag = handler.customerPingPongFlag
      · rw [stays, PingPong.get_set_same, isEmptyFifo, beq_iff_eq]
        exact (drains held).symm
      · have last := (side.mp stays).2
        rw [IspLast, drains held] at last
        rw [Bool.eq_not.mpr stays, PingPong.get_set_other]
        exact held.fresh last
    exact ⟨.inl empty, fun after => isp_held_filled _ after empty⟩
  · have same : (ispcPopNewLine handler lines).1 = handler := by
      rw [ispcPopNewLine]
      simp only [failed, ne_eq, not_false_eq_true, if_true]
    rw [same]
    exact ⟨.inr (.inr ⟨failed, never⟩), fun held => failed held.ok⟩

theorem isp_recovery_still (kept : IspKept handler) (updated : ispRecoveryStateUpdate handler = some next) : IspStill handler next := by
  unfold ispRecoveryStateUpdate at updated
  split at updated
  · obtain ⟨reset, done, same⟩ := Option.map_eq_some_iff.mp updated
    obtain ⟨index, -, resetSame⟩ := Option.bind_eq_some_iff.mp done
    cases resetSame
    cases same
    refine isp_still_empty handler _ ?_
    rw [ispEmpty, PingPong.get_set_same]
    rfl
  · rename_i phase
    rcases kept with empty | held | ⟨-, never⟩
    · cases updated
      exact isp_still_empty handler _ empty
    · cases phase.symm.trans held.ok
    · exact absurd phase never
  · cases updated
    exact isp_still_failed handler _ EhwErrorCode.noConfusion EhwErrorCode.noConfusion

end IspInterrupt

-- One frame in the VIPRE's FIFO, in the mode of frames.
structure VipreHeld (handler : SvipreHandler) : Prop where
  mode : handler.vipreMode = .mFrame
  filled : isEmptyFifo (handler.fifo.get handler.customerPingPongFlag) = false
  ring : (handler.fifo.get handler.customerPingPongFlag).depth ≠ 0
  drains : ∀ lineNum, vipreHeadAfter handler lineNum = (handler.fifo.get handler.customerPingPongFlag).tail
  fresh : (handler.fifo.get handler.customerPingPongFlag).tail = (handler.fifo.get handler.customerPingPongFlag).maxIndex →
    isEmptyFifo (handler.fifo.get (!handler.customerPingPongFlag)) = true

def VipreKept (handler : SvipreHandler) : Prop := vipreIsEmpty handler = true ∨ VipreHeld handler

-- What looking for a frame and popping it depend on.
structure SameFrames (handler next : SvipreHandler) : Prop where
  fifo : next.fifo = handler.fifo
  customer : next.customerPingPongFlag = handler.customerPingPongFlag
  mode : next.vipreMode = handler.vipreMode

structure VipreStill (handler next : SvipreHandler) : Prop where
  kept : VipreKept next
  same : VipreHeld next → SameFrames handler next

def VipreTakes (handler : SvipreHandler) (id : Int) : Prop := vipreOffer (u16 id) handler = .entry 0

-- The next frame does not go over the end of the index.
def VipreWhole (handler : SvipreHandler) : Prop := (handler.fifo.get handler.producePingPongFlag).tail + 1 < 65536

instance (handler : SvipreHandler) : Decidable (VipreWhole handler) := inferInstanceAs (Decidable (_ < _))

section VipreInterrupt

variable (handler next : SvipreHandler)

theorem same_frames_symm (same : SameFrames handler next) : SameFrames next handler :=
  ⟨same.fifo.symm, same.customer.symm, same.mode.symm⟩

theorem same_frames_empty (same : SameFrames handler next) : vipreIsEmpty next = vipreIsEmpty handler := by
  rw [vipreIsEmpty, vipreIsEmpty, same.fifo, same.customer]

theorem same_frames_held (same : SameFrames handler next) (held : VipreHeld handler) : VipreHeld next := by
  obtain ⟨fifo, customer, mode⟩ := same
  refine ⟨mode.trans held.mode, ?_, ?_, fun lineNum => ?_, ?_⟩
  · rw [fifo, customer, held.filled]
  · rw [fifo, customer]
    exact held.ring
  · have drains := held.drains lineNum
    rw [vipreHeadAfter, vipreElement] at drains ⊢
    rw [fifo, customer, mode, drains]
  · rw [fifo, customer]
    exact held.fresh

theorem same_frames_still (same : SameFrames handler next) (kept : VipreKept handler) : VipreStill handler next :=
  ⟨kept.imp (fun empty => (same_frames_empty handler next same).trans empty) (same_frames_held handler next same), fun _ => same⟩

theorem same_frames_takes (same : SameFrames handler next) (id : Int) (held : VipreHeld handler) (takes : VipreTakes handler id) :
    VipreTakes next id := by
  obtain ⟨fifo, customer, mode⟩ := same
  rw [VipreTakes, vipreOffer] at takes ⊢
  simpa only [fifo, customer, mode, held.mode] using takes

theorem vipre_still_empty (empty : vipreIsEmpty next = true) : VipreStill handler next := by
  refine ⟨.inl empty, fun held => ?_⟩
  rw [vipreIsEmpty, held.filled] at empty
  cases empty

theorem vipre_pop_empties (lineNum : Int) (kept : VipreKept handler) (popped : Bool)
    (done : viprePopNewEntry handler lineNum = some (next, popped)) : vipreIsEmpty next = true := by
  rcases kept with empty | held
  · rw [pop_empty handler lineNum empty] at done
    cases done
    exact empty
  · rw [vipre_pop_value handler lineNum held.filled held.ring] at done
    obtain ⟨fifo, -, side, -⟩ := vipre_finish_after { handler with
      fifo := handler.fifo.set handler.customerPingPongFlag
        { handler.fifo.get handler.customerPingPongFlag with head := vipreHeadAfter handler lineNum } }
      { handler.fifo.get handler.customerPingPongFlag with head := vipreHeadAfter handler lineNum }
    have same := congrArg Prod.fst (Option.some.inj done)
    rw [same] at fifo side
    rw [vipreIsEmpty, fifo]
    by_cases stays : next.customerPingPongFlag = handler.customerPingPongFlag
    · rw [stays, PingPong.get_set_same, isEmptyFifo, beq_iff_eq]
      exact (held.drains lineNum).symm
    · have last := side.mp stays
      rw [isLastEntryPopFifo, beq_iff_eq] at last
      rw [Bool.eq_not.mpr stays, PingPong.get_set_other]
      exact held.fresh ((held.drains lineNum).symm.trans last)

theorem vipre_store_frame (fifo : Sfifo) (content : FrameMeta) (stored : vipreStoreFrameMeta handler fifo content = some next) :
    fifo.depth ≠ 0 ∧ ∃ frameMeta, next = { handler with frameMeta := frameMeta } := by
  obtain ⟨index, tail, same⟩ := Option.bind_eq_some_iff.mp stored
  refine ⟨fun zero => ?_, ?_⟩
  · rw [getTailFifo, if_pos zero] at tail
    cases tail
  · split at same
    · cases same
      exact ⟨_, rfl⟩
    · cases same
      exact ⟨handler.frameMeta, rfl⟩

theorem vipre_pushed_held (before : Sfifo) (empty : isEmptyFifo before = true) (small : before.tail + 1 < 65536) (ring : before.depth ≠ 0)
    (clean : isOverflowFifo before = false) (mode : next.vipreMode = .mFrame)
    (fifo : next.fifo.get next.customerPingPongFlag = { before with tail := before.tail + 1 })
    (fresh : before.tail + 1 = before.maxIndex → isEmptyFifo (next.fifo.get (!next.customerPingPongFlag)) = true) : VipreHeld next := by
  have start : before.tail = before.head := by simpa [isEmptyFifo] using empty
  have filled : isEmptyFifo { before with tail := before.tail + 1 } = false := by
    simp only [isEmptyFifo, beq_eq_false_iff_ne]
    omega
  have enough : isEnoughElementToPopFifo { before with tail := before.tail + 1 } 1 = true := by
    simp only [isEnoughElementToPopFifo, decide_eq_true_eq]
    omega
  have sound : isOverflowFifo { before with tail := before.tail + 1 } = false := clean
  refine ⟨mode, by rw [fifo, filled], by rw [fifo]; exact ring, fun lineNum => ?_, by rw [fifo]; exact fresh⟩
  rw [vipreHeadAfter, vipreElement, mode, fifo, headAfter]
  simp only [filled, sound, enough, Bool.or_self, Bool.not_true, Bool.false_eq_true, if_false]
  rw [← start, u16_fits _ small]

-- A frame that comes finds the FIFO empty.
theorem vipre_push_kept (content : FrameMeta) (empty : vipreIsEmpty handler = true) (whole : VipreWhole handler) (recorded : Bool)
    (pushed : viprePushNewEntry handler content = some (next, recorded)) : VipreKept next := by
  unfold viprePushNewEntry at pushed
  dsimp only at pushed
  split at pushed
  · cases pushed
    exact .inl empty
  · rename_i mode
    split at pushed
    · cases pushed
      exact .inl empty
    · rename_i full
      have clean := Bool.eq_false_iff.mpr full
      obtain ⟨stored, store, rest⟩ := Option.bind_eq_some_iff.mp pushed
      obtain ⟨ring, frameMeta, same⟩ := vipre_store_frame handler stored _ content store
      cases same
      rw [vipreIsEmpty] at empty
      have apart (differ : handler.producePingPongFlag ≠ handler.customerPingPongFlag) :
          handler.customerPingPongFlag = !handler.producePingPongFlag := Bool.eq_not.mpr (Ne.symm differ)
      by_cases space : isEnoughSpaceToPushFifo (handler.fifo.get handler.producePingPongFlag) (u16 (1 + 0 : Nat)) = true
      · simp only [pushFifo, if_pos space, Bool.true_eq_false, if_false] at rest
        rw [u16_fits _ whole] at rest
        by_cases sides : handler.producePingPongFlag = handler.customerPingPongFlag
        · rw [← sides] at empty
          split at rest
          · cases rest
            refine .inr (vipre_pushed_held _ _ empty whole ring clean mode ?_ fun _ => ?_)
            · rw [← sides, PingPong.get_set_flipped, PingPong.get_set_same]
            · rw [← sides, PingPong.get_set_same]
              rfl
          · rename_i more
            cases rest
            refine .inr (vipre_pushed_held _ _ empty whole ring clean mode ?_ fun last => ?_)
            · rw [← sides, PingPong.get_set_same]
            · rw [isLastEntryPushFifo, beq_iff_eq] at more
              exact absurd last more
        · refine .inl ?_
          rw [apart sides] at empty
          split at rest
          · cases rest
            rw [vipreIsEmpty, apart sides, PingPong.get_set_same]
            rfl
          · cases rest
            rw [vipreIsEmpty, apart sides, PingPong.get_set_other, empty]
      · simp only [pushFifo, if_neg space, if_true] at rest
        cases rest
        refine .inl ?_
        rw [vipreIsEmpty, PingPong.get_set]
        split
        · rename_i sides
          rw [← sides]
          exact empty
        · exact empty

theorem vipre_interrupt_kept (registers : VipreInterrupt) (kept : VipreKept handler)
    (inTime : registers.frameDone = true → vipreIsEmpty handler = true ∧ VipreWhole handler)
    (frames : registers.frameDone = false → registers.nLineDone = false)
    (served : vipreInterruptHandler handler registers = some next) :
    VipreKept next ∧ (registers.frameDone = false → VipreStill handler next) := by
  unfold vipreInterruptHandler at served
  split at served
  · rename_i signalled
    obtain ⟨⟨after, recorded⟩, pushed, same⟩ := Option.map_eq_some_iff.mp served
    cases same
    obtain ⟨empty, whole⟩ := inTime signalled
    exact ⟨vipre_push_kept handler after _ empty whole recorded pushed, fun never => by rw [signalled] at never; cases never⟩
  · rename_i quiet
    rw [if_neg (by rw [frames (Bool.eq_false_iff.mpr quiet)]; exact Bool.false_ne_true)] at served
    have still : VipreStill handler next := by
      split at served
      · obtain ⟨⟨after, popped⟩, done, same⟩ := Option.map_eq_some_iff.mp served
        cases same
        exact vipre_still_empty handler after (vipre_pop_empties handler after 1 kept popped done)
      · cases served
        exact same_frames_still handler handler ⟨rfl, rfl, rfl⟩ kept
    exact ⟨still.kept, fun _ => still⟩

theorem vipre_get_kept (buffer : SvipreBuffer) (id : Int) (ctrlInfo entry : EntryStruct) (found : Bool) (kept : VipreKept handler)
    (got : getVipreNextEntry buffer id handler ctrlInfo = some (next, entry, found)) :
    VipreStill handler next ∧ (VipreHeld handler → VipreTakes handler id → found = true) := by
  rcases kept with empty | held
  · refine ⟨vipre_still_empty handler next ((next_entry_keeps_empty handler next buffer id ctrlInfo entry found got).trans empty),
      fun held => ?_⟩
    rw [vipreIsEmpty, held.filled] at empty
    cases empty
  · have looked : vipreLooked handler = handler := by simp [vipreLooked, held.mode]
    have offered := vipre_frame_offered buffer id handler ctrlInfo held.filled held.mode
    have head : getHeadFifo (handler.fifo.get handler.customerPingPongFlag) ≠ none := by simp [getHeadFifo, held.ring]
    have still := same_frames_still handler handler ⟨rfl, rfl, rfl⟩ (.inr held)
    generalize same : vipreOffer (u16 id) handler = offer at offered
    cases offered with
    | trap =>
        simp only [vipreOffer, held.filled, held.mode, Bool.false_eq_true, if_false] at same
        split at same
        · rename_i none_
          exact absurd none_ head
        · split at same <;> cases same
    | missing ring answer =>
        cases got.symm.trans answer
        exact ⟨still, fun _ takes => by cases same.symm.trans takes⟩
    | entry lines taken filled ring answer =>
        cases got.symm.trans answer
        rw [looked]
        exact ⟨still, fun _ _ => rfl⟩

theorem vipre_recovery_still (kept : VipreKept handler) (updated : vipreRecoveryStateUpdate handler = some next) :
    VipreStill handler next := by
  unfold vipreRecoveryStateUpdate at updated
  split at updated
  · obtain ⟨⟨after, popped⟩, done, same⟩ := Option.map_eq_some_iff.mp updated
    cases same
    exact vipre_still_empty handler _ (vipre_pop_empties handler after 1 kept popped done)
  · cases updated
    exact same_frames_still handler _ ⟨rfl, rfl, rfl⟩ kept
  · cases updated
    exact same_frames_still handler _ ⟨rfl, rfl, rfl⟩ kept
  · cases updated
    exact same_frames_still handler _ ⟨rfl, rfl, rfl⟩ kept

-- One of the tasks takes the frame: the task of all frames, or that of the even or of the odd ones.
theorem vipre_taken (held : VipreHeld handler) (first second : Int)
    (covers : u16 first = 0 ∨ u16 first = 1 ∧ u16 second = 2) : VipreTakes handler first ∨ VipreTakes handler second := by
  obtain ⟨head, found⟩ : ∃ head, getHeadFifo (handler.fifo.get handler.customerPingPongFlag) = some head := by
    rw [getHeadFifo, if_neg held.ring]
    exact ⟨_, rfl⟩
  have takes (id : Int) (matched : evenOddFrameMatch (u16 id) head = true) : VipreTakes handler id := by
    simp [VipreTakes, vipreOffer, held.filled, held.mode, found, matched]
  rcases covers with every | ⟨even, odd⟩
  · exact .inl (takes first (by rw [every]; rfl))
  · rcases Nat.mod_two_eq_zero_or_one head with parity | parity
    · exact .inl (takes first (by simp [even, evenOddFrameMatch, parity]))
    · exact .inr (takes second (by simp [odd, evenOddFrameMatch, parity]))

end VipreInterrupt

end CsiDsp
