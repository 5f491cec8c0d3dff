import CsiDsp.IspHandler

set_option autoImplicit false

namespace CsiDsp

open CInt

-- The producer takes the entry for a full one, or it is the last of the frame.
def acceptsSize (handler : SispHandler) (element : Nat) : Bool :=
  let info := handler.info.get handler.producePingPongFlag
  !((decide (element < info.lineNumPerEntry) || decide (element > info.lineNumPerEntry * 2)) &&
    !isLastEntryToPushFifo (handler.fifo.get handler.producePingPongFlag) info.lineNumPerEntry)

-- Everything a call of ispc_push_new_line can do.
inductive PushOutcome (handler : SispHandler) (element : Nat) : SispHandler → Bool → Prop where
  | stopped (failed : handler.status ≠ .ok) : PushOutcome handler element handler false
  | unsized (ok : handler.status = .ok) (sized : acceptsSize handler element = false) :
      PushOutcome handler element { handler with status := .parmaInvalid } false
  | crowded (ok : handler.status = .ok) (sized : acceptsSize handler element = true) : PushOutcome handler element { handler with
      status := .overFlow
      fifo := handler.fifo.set handler.producePingPongFlag
        { handler.fifo.get handler.producePingPongFlag with status := .overflow } } false
  | recorded (ok : handler.status = .ok) (sized : acceptsSize handler element = true) (tail : Nat)
      (moved : tail = u16 ((handler.fifo.get handler.producePingPongFlag).tail +
        (handler.info.get handler.producePingPongFlag).lineNumPerEntry : Nat))
      (more : tail ≠ (handler.fifo.get handler.producePingPongFlag).maxIndex) :
      PushOutcome handler element { handler with
        fifo := handler.fifo.set handler.producePingPongFlag
          { handler.fifo.get handler.producePingPongFlag with tail := tail } } true
  | finished (ok : handler.status = .ok) (sized : acceptsSize handler element = true) (tail : Nat) (baseIndex : Int)
      (moved : tail = u16 ((handler.fifo.get handler.producePingPongFlag).tail +
        (handler.info.get handler.producePingPongFlag).lineNumPerEntry : Nat))
      (last : tail = (handler.fifo.get handler.producePingPongFlag).maxIndex)
      (next : (if ispcSwitchBuffer (handler.info.get handler.producePingPongFlag) handler.base then some 0
        else nextBaseIndex (handler.fifo.get handler.producePingPongFlag)
          (handler.info.get handler.producePingPongFlag)) = some baseIndex) :
      PushOutcome handler element { handler with
        info := handler.info.set (!handler.producePingPongFlag) handler.base
        interactCounter := 0
        producePingPongFlag := !handler.producePingPongFlag
        fifo := (handler.fifo.set handler.producePingPongFlag
          { handler.fifo.get handler.producePingPongFlag with tail := tail }).set (!handler.producePingPongFlag)
            (resetFifo handler.base.lineNumPerBuffer baseIndex handler.base.lineNumPerFrame) } true

theorem push_outcome (handler next : SispHandler) (element : Nat) (recorded : Bool)
    (pushed : ispcPushNewLine handler element = some (next, recorded)) : PushOutcome handler element next recorded := by
  unfold ispcPushNewLine at pushed
  dsimp only at pushed
  split at pushed
  · rename_i failed
    cases pushed
    exact .stopped failed
  · rename_i healthy
    have ok : handler.status = .ok := Decidable.not_not.mp healthy
    split at pushed
    · rename_i unfit
      cases pushed
      exact .unsized ok (by rw [acceptsSize, Bool.not_eq_false', unfit])
    · rename_i fit
      have sized : acceptsSize handler element = true := by
        rw [acceptsSize, Bool.not_eq_true']
        exact Bool.eq_false_iff.mpr fit
      by_cases space : isEnoughSpaceToPushFifo (handler.fifo.get handler.producePingPongFlag)
          (u16 ((handler.info.get handler.producePingPongFlag).lineNumPerEntry + ispcPushOffset handler : Nat)) = true
      · simp only [pushFifo, if_pos space, Bool.true_eq_false, if_false] at pushed
        split at pushed
        · rename_i last
          rw [isLastEntryPushFifo, beq_iff_eq] at last
          split at pushed
          · rename_i switched
            cases pushed
            exact .finished ok sized _ 0 rfl last (if_pos switched)
          · rename_i same
            obtain ⟨baseIndex, index, rest⟩ := Option.bind_eq_some_iff.mp pushed
            cases rest
            exact .finished ok sized _ baseIndex rfl last ((if_neg same).trans index)
        · rename_i more
          rw [isLastEntryPushFifo, beq_iff_eq] at more
          cases pushed
          exact .recorded ok sized _ rfl more
      · simp only [pushFifo, if_neg space, if_true] at pushed
        cases pushed
        exact .crowded ok sized

inductive PopOutcome (handler : SispHandler) : SispHandler → Bool → Prop where
  | idle : PopOutcome handler handler false
  | kept (ok : handler.status = .ok) (head : Nat) : PopOutcome handler { handler with
      fifo := handler.fifo.set handler.customerPingPongFlag
        { handler.fifo.get handler.customerPingPongFlag with head := head } } true
  | outside (ok : handler.status = .ok) (head : Nat) : PopOutcome handler { handler with
      status := .popFail
      fifo := handler.fifo.set handler.customerPingPongFlag
        { handler.fifo.get handler.customerPingPongFlag with head := head } } false
  | finished (ok : handler.status = .ok) (head : Nat) (ahead : (!handler.customerPingPongFlag) = handler.producePingPongFlag) :
      PopOutcome handler { handler with
        customerPingPongFlag := !handler.customerPingPongFlag
        fifo := handler.fifo.set handler.customerPingPongFlag
          { handler.fifo.get handler.customerPingPongFlag with head := head } } true
  | unswitched (ok : handler.status = .ok) (head : Nat) : PopOutcome handler { handler with
      customerPingPongFlag := !handler.customerPingPongFlag
      status := .frameSwitchFail
      fifo := handler.fifo.set handler.customerPingPongFlag
        { handler.fifo.get handler.customerPingPongFlag with head := head } } false

theorem pop_fifo_head (fifo : Sfifo) (element : Nat) : ∃ head, (popFifo fifo element).1 = { fifo with head := head } := by
  rw [popFifo]
  split
  · exact ⟨fifo.head, rfl⟩
  · exact ⟨_, rfl⟩

theorem pop_outcome (handler : SispHandler) (count : Nat) :
    PopOutcome handler (ispcPopNewLine handler count).1 (ispcPopNewLine handler count).2 := by
  obtain ⟨head, moved⟩ := pop_fifo_head (handler.fifo.get handler.customerPingPongFlag) count
  rw [ispcPopNewLine]
  dsimp only
  split
  · exact .idle
  · rename_i healthy
    have ok : handler.status = .ok := Decidable.not_not.mp healthy
    split
    · exact .idle
    · simp only [moved]
      split
      · exact .outside ok head
      · split
        · exact .outside ok head
        · split
          · split
            · exact .unswitched ok head
            · rename_i same
              exact .finished ok head (Decidable.not_not.mp same)
          · exact .kept ok head

-- isp_get_next_entry changes nothing but the status, and that only to an error.
theorem get_outcome (handler next : SispHandler) (list after : SispBuffer × SispBuffer) (found : Bool)
    (got : ispGetNextEntry handler list = some (next, after, found)) :
    next = handler ∨ (handler.status = .ok ∧ next = { handler with status := .popFail }) := by
  unfold ispGetNextEntry at got
  dsimp only at got
  split at got
  · cases got
    exact .inl rfl
  · rename_i healthy
    have ok : handler.status = .ok := Decidable.not_not.mp healthy
    have taken (line : Nat) (result : (ispcGetEntryToPop handler line list).bind (fun entry =>
        if entry.2.toInt < 0 then some ({ handler with status := EhwErrorCode.popFail }, entry.1, false)
        else some (handler, entry.1, true)) = some (next, after, found)) :
        next = handler ∨ (handler.status = .ok ∧ next = { handler with status := .popFail }) := by
      obtain ⟨entry, -, rest⟩ := Option.bind_eq_some_iff.mp result
      split at rest
      · cases rest
        exact .inr ⟨ok, rfl⟩
      · cases rest
        exact .inl rfl
    split at got
    · cases got
      exact .inl rfl
    · split at got
      · exact taken _ got
      · split at got
        · exact taken _ got
        · cases got
          exact .inr ⟨ok, rfl⟩

theorem n_lines_outcome (handler next : SispHandler) (lineEntry : UInt16)
    (served : ispInterruptHandler handler ⟨true, lineEntry, false⟩ = some next) :
    ∃ after recorded, PushOutcome handler (u16 ((lineEntry.toNat : Int) - ispcGetPushedLineNum handler)) after recorded ∧
      next = { after with currentNValue := lineEntry.toNat } := by
  simp only [ispInterruptHandler, ispServeNLines, if_true, Bool.false_eq_true, if_false, Option.bind_eq_bind] at served
  obtain ⟨middle, pushed, rest⟩ := Option.bind_eq_some_iff.mp served
  obtain ⟨⟨after, recorded⟩, push, value⟩ := Option.bind_eq_some_iff.mp pushed
  cases rest
  cases value
  exact ⟨after, recorded, push_outcome handler after _ recorded push, rfl⟩

-- One call that serves both causes does what two calls do that serve them in turn.
theorem isp_interrupt_split (handler : SispHandler) (lineEntry : UInt16) :
    ispInterruptHandler handler ⟨true, lineEntry, true⟩ =
      (ispInterruptHandler handler ⟨true, lineEntry, false⟩).bind fun next => ispInterruptHandler next ⟨false, lineEntry, true⟩ := by
  simp [ispInterruptHandler]

end CsiDsp
