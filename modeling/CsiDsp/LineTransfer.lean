import CsiDsp.LineRing
import CsiDsp.IspHandler

set_option autoImplicit false

namespace CsiDsp

open CInt

theorem frame_start_succ (base : SispControlInfo) (frame : Nat) :
    (frameStart base frame + base.lineNumUsedPerFrame) % base.lineNumPerBuffer = frameStart base (frame + 1) := by
  rw [frameStart, frameStart, Nat.mod_add_mod, Nat.succ_mul]

theorem frame_fifo_next_base (base : SispControlInfo) (fifo : Sfifo) (frame maxIndex head tail : Nat)
    (held : FrameFifo fifo base.lineNumPerBuffer maxIndex (frameStart base frame) head tail)
    (positive : 0 < base.lineNumPerBuffer) (short : frameStart base (frame + 1) < 32768) :
    nextBaseIndex fifo base = some ((frameStart base (frame + 1) : Nat) : Int) := by
  have sum : ((frameStart base frame : Nat) : Int) + (base.lineNumUsedPerFrame : Int) =
      ((frameStart base frame + base.lineNumUsedPerFrame : Nat) : Int) := by omega
  rw [nextBaseIndex, held.depthEq, held.offsetEq, if_neg (by omega), sum, tmod_nat, frame_start_succ, i16_fits _ short]

@[simp] theorem switch_buffer_same (base : SispControlInfo) : ispcSwitchBuffer base base = false := by
  simp [ispcSwitchBuffer]

theorem tracks_start (base : SispControlInfo) (handler : SispHandler) :
    Tracks base (ispcStart handler base) ⟨0, 0⟩ ⟨0, 0⟩ := by
  have fifo := frame_fifo_reset base.lineNumPerBuffer base.lineNumPerFrame (frameStart base 0)
  refine ⟨rfl, by simp [ispcStart], by simp [ispcStart], rfl, rfl, Nat.zero_le _, Nat.zero_le _, .inl ⟨rfl, ?_⟩, ?_⟩
  · refine ⟨Nat.le_refl _, Nat.zero_le _, ?_⟩
    simpa [ispcStart, frameStart] using fifo
  · intro _
    simp [ispcStart, resetFifo]

theorem isp_config_start (handler start : SispHandler) (config : SispConfigPar)
    (accepted : ispHandlerConfig handler config = some (start, .ok)) :
    ∃ base, Geometry base ∧ base.lineNumUsedPerFrame = base.lineNumPerFrame ∧ start = ispcStart handler base := by
  unfold ispHandlerConfig at accepted
  cases update : ispcBaseInfoUpdate handler.base config with
  | none => simp [update] at accepted
  | some result =>
      obtain ⟨base, code⟩ := result
      by_cases ok : code = .ok
      · subst ok
        simp only [update, Option.bind_eq_bind, Option.bind_some, ne_eq, not_true_eq_false, if_false, Option.some.injEq,
          Prod.mk.injEq, and_true] at accepted
        have geometry := base_info_geometry handler.base base config update
        refine ⟨{ base with lineNumUsedPerFrame := base.lineNumPerFrame }, ?_, rfl, accepted.symm⟩
        exact ⟨geometry.entryPos, geometry.entryMax, geometry.frameMax, geometry.depthMax, geometry.lineMax, geometry.last⟩
      · simp [update, ok] at accepted

-- The producer fills a frame up and goes on to the other side, which the
-- consumer has left.
theorem tracks_push_frame (base : SispControlInfo) (handler : SispHandler) (read write : LinePos) (count : Nat)
    (tracks : Tracks base handler read write) (room : heldLines base read write + count ≤ base.lineNumPerBuffer)
    (fills : write.line + count = base.lineNumPerFrame) (same : write.frame = read.frame) :
    Tracks base { handler with
      info := handler.info.set (!handler.producePingPongFlag) base
      interactCounter := 0
      producePingPongFlag := !handler.producePingPongFlag
      fifo := (handler.fifo.set handler.producePingPongFlag
        { handler.fifo.get handler.producePingPongFlag with tail := write.line + count }).set
          (!handler.producePingPongFlag)
          (resetFifo base.lineNumPerBuffer (frameStart base (write.frame + 1)) base.lineNumPerFrame) } read ⟨write.frame + 1, 0⟩ := by
  have full := frame_fifo_pushed _ _ _ _ _ _ (tracked_producer_fifo base handler read write tracks) count
  have sides := tracks_same_side base handler read write tracks same
  rw [held_same base read write same] at room
  rw [if_pos same, fills] at full
  refine { baseEq := tracks.baseEq, customerInfo := ?_, producerInfo := ?_, customerSide := tracks.customerSide,
           producerSide := ?_, readIn := tracks.readIn, writeIn := Nat.zero_le _, fifos := .inr ⟨?_, ?_, ?_, ?_⟩,
           healthy := ?_ }
  · simpa [sides] using tracks.producerInfo
  · simp
  · show (!handler.producePingPongFlag) = frameSide (write.frame + 1)
    rw [tracks.producerSide, frame_side_succ]
  · show write.frame + 1 = read.frame + 1
    rw [same]
  · show base.lineNumPerFrame + 0 ≤ read.line + base.lineNumPerBuffer
    have order := tracks_ordered base handler read write tracks
    simp only [LinePos.index, same] at order
    omega
  · simpa [sides, same, fills] using full
  · simpa using frame_fifo_reset base.lineNumPerBuffer base.lineNumPerFrame (frameStart base (write.frame + 1))
  · intro ok
    simpa [sides, resetFifo] using (tracks.healthy ok).2

-- The push that fills a frame up: the producer goes on to the other side,
-- which the consumer must have left.
theorem tracked_push_frame (base : SispControlInfo) (handler : SispHandler) (read write : LinePos) (element : Nat)
    (geometry : Geometry base) (tracks : Tracks base handler read write) (ok : handler.status = .ok)
    (sized : EntrySized base write element)
    (room : heldLines base read write + base.lineNumPerEntry ≤ base.lineNumPerBuffer)
    (fills : write.line + base.lineNumPerEntry = base.lineNumPerFrame) (same : write.frame = read.frame)
    (short : frameStart base (write.frame + 1) < 32768) :
    ∃ next, ispcPushNewLine handler element = some (next, true) ∧ next.status = .ok ∧
      Tracks base next read ⟨write.frame + 1, 0⟩ := by
  have positive := geometry.entryPos
  have accepted := tracked_entry_accepted base handler read write element tracks sized
  have pushed := tracked_push_fifo base handler read write tracks geometry room (by omega)
  have fifo := tracked_producer_fifo base handler read write tracks
  have full := frame_fifo_pushed _ _ _ _ _ _ fifo base.lineNumPerEntry
  have baseIndex := frame_fifo_next_base base _ _ _ _ _ full (by omega) short
  have lastEntry : (write.line + base.lineNumPerEntry == (handler.fifo.get handler.producePingPongFlag).maxIndex) = true := by
    rw [fifo.maxEq, beq_iff_eq]
    exact fills
  refine ⟨{ handler with
    info := handler.info.set (!handler.producePingPongFlag) base
    interactCounter := 0
    producePingPongFlag := !handler.producePingPongFlag
    fifo := (handler.fifo.set handler.producePingPongFlag
      { handler.fifo.get handler.producePingPongFlag with tail := write.line + base.lineNumPerEntry }).set
        (!handler.producePingPongFlag)
        (resetFifo base.lineNumPerBuffer (frameStart base (write.frame + 1)) base.lineNumPerFrame) }, ?_, ok, ?_⟩
  · simp [ispcPushNewLine, ok, tracks.producerInfo, accepted, pushed, isLastEntryPushFifo, lastEntry,
      tracks.baseEq, switch_buffer_same, baseIndex]
  · exact tracks_push_frame base handler read write base.lineNumPerEntry tracks room fills same

theorem tracked_push (base : SispControlInfo) (handler : SispHandler) (read write : LinePos) (element : Nat)
    (geometry : Geometry base) (tracks : Tracks base handler read write) (ok : handler.status = .ok)
    (sized : EntrySized base write element)
    (room : heldLines base read write + base.lineNumPerEntry ≤ base.lineNumPerBuffer)
    (inFrame : write.line + base.lineNumPerEntry ≤ base.lineNumPerFrame)
    (last : write.line + base.lineNumPerEntry = base.lineNumPerFrame →
      write.frame = read.frame ∧ frameStart base (write.frame + 1) < 32768) :
    ∃ next, ispcPushNewLine handler element = some (next, true) ∧ next.status = .ok ∧
      Tracks base next read (write.advance base.lineNumPerFrame base.lineNumPerEntry) := by
  by_cases fills : write.line + base.lineNumPerEntry = base.lineNumPerFrame
  · rw [LinePos.advance, if_neg (by omega)]
    exact tracked_push_frame base handler read write element geometry tracks ok sized room fills (last fills).1 (last fills).2
  · rw [LinePos.advance, if_pos (by omega)]
    exact tracked_push_line base handler read write element geometry tracks ok sized room (by omega)

-- An entry shorter than the configured size is taken only where the frame has
-- exactly one configured entry left.
theorem tracked_push_short (base : SispControlInfo) (handler : SispHandler) (read write : LinePos) (element : Nat)
    (tracks : Tracks base handler read write) (ok : handler.status = .ok) (short : element < base.lineNumPerEntry)
    (unfit : write.line + base.lineNumPerEntry ≠ base.lineNumPerFrame) :
    ispcPushNewLine handler element = some ({ handler with status := .parmaInvalid }, false) := by
  have fifo := tracked_producer_fifo base handler read write tracks
  have notLast : isLastEntryToPushFifo (handler.fifo.get handler.producePingPongFlag) base.lineNumPerEntry = false := by
    rw [isLastEntryToPushFifo, fifo.tailEq, fifo.maxEq, beq_eq_false_iff_ne]
    omega
  simp [ispcPushNewLine, ok, tracks.producerInfo, short, notLast]

theorem push_after_error (handler : SispHandler) (element : Nat) (failed : handler.status ≠ .ok) :
    ispcPushNewLine handler element = some (handler, false) := by
  simp [ispcPushNewLine, failed]

theorem pop_after_error (handler : SispHandler) (count : Nat) (failed : handler.status ≠ .ok) :
    ispcPopNewLine handler count = (handler, false) := by
  simp [ispcPopNewLine, failed]

-- The lines of the consumer's frame that are in its FIFO.
def readableLines (base : SispControlInfo) (read write : LinePos) : Nat :=
  (if write.frame = read.frame then write.line else base.lineNumPerFrame) - read.line

theorem tracked_nonempty (base : SispControlInfo) (handler : SispHandler) (read write : LinePos)
    (tracks : Tracks base handler read write) :
    isEmptyFifo (handler.fifo.get handler.customerPingPongFlag) = decide (readableLines base read write = 0) := by
  have customer := tracked_customer_fifo base handler read write tracks
  have readIn := tracks.readIn
  rw [isEmptyFifo, customer.headEq, customer.tailEq, Bool.beq_eq_decide_eq, decide_eq_decide, readableLines]
  rcases tracks.fifos with ⟨same, order, -, -⟩ | ⟨next, -, -, -⟩
  · rw [if_pos same]
    omega
  · rw [if_neg (by omega)]
    omega

section Pop

variable (handler : SispHandler) (count : Nat) (rest : Sfifo) (ok : handler.status = .ok)
variable (filled : isEmptyFifo (handler.fifo.get handler.customerPingPongFlag) = false)
variable (popped : popFifo (handler.fifo.get handler.customerPingPongFlag) count = (rest, true))
variable (inFrame : ¬ getHeadIndexFifo rest > ((handler.info.get handler.customerPingPongFlag).lineNumPerFrame : Int))

include ok filled popped inFrame

theorem pop_within_frame (more : isLastEntryPopFifo rest = false) : ispcPopNewLine handler count =
    ({ handler with fifo := handler.fifo.set handler.customerPingPongFlag rest }, true) := by
  simp [ispcPopNewLine, ok, filled, popped, inFrame, more]

theorem pop_whole_frame (last : isLastEntryPopFifo rest = true)
    (ahead : handler.producePingPongFlag = !handler.customerPingPongFlag) : ispcPopNewLine handler count =
      ({ handler with
        customerPingPongFlag := !handler.customerPingPongFlag
        fifo := handler.fifo.set handler.customerPingPongFlag rest }, true) := by
  simp [ispcPopNewLine, ok, filled, popped, inFrame, last, ahead]

end Pop

section Popped

variable (base : SispControlInfo) (handler : SispHandler) (read write : LinePos) (count : Nat)
variable (tracks : Tracks base handler read write)

include tracks

theorem tracks_pop_within (inFrame : read.line + count < base.lineNumPerFrame) (stored : count ≤ readableLines base read write) :
    Tracks base { handler with
      fifo := handler.fifo.set handler.customerPingPongFlag
        { handler.fifo.get handler.customerPingPongFlag with head := read.line + count } } ⟨read.frame, read.line + count⟩ write := by
  have rest := frame_fifo_popped _ _ _ _ _ _ (tracked_customer_fifo base handler read write tracks) count
  have readIn := tracks.readIn
  unfold readableLines at stored
  refine { tracks with readIn := ?_, fifos := ?_, healthy := ?_ }
  · dsimp only
    omega
  · rcases tracks.fifos with ⟨same, order, bound, fifo⟩ | ⟨ahead, bound, _, producer⟩
    · have sides := tracks_same_side base handler read write tracks same
      rw [if_pos same] at stored rest
      refine .inl ⟨same, ?_, ?_, ?_⟩
      · dsimp only
        omega
      · dsimp only
        omega
      · simpa [sides, same] using rest
    · have sides := tracks_other_side base handler read write tracks ahead
      have different : ¬ write.frame = read.frame := by omega
      rw [if_neg different] at stored rest
      refine .inr ⟨ahead, ?_, ?_, ?_⟩
      · dsimp only
        omega
      · simpa using rest
      · simpa [sides] using producer
  · intro ok
    have healthy := tracks.healthy ok
    rcases tracks.fifos with ⟨same, -⟩ | ⟨ahead, -⟩
    · have sides := tracks_same_side base handler read write tracks same
      simpa [← sides] using healthy.1
    · simpa [tracks_other_side base handler read write tracks ahead] using healthy

theorem tracks_pop_frame (whole : read.line + count = base.lineNumPerFrame) (ahead : write.frame = read.frame + 1) :
    Tracks base { handler with
      customerPingPongFlag := !handler.customerPingPongFlag
      fifo := handler.fifo.set handler.customerPingPongFlag
        { handler.fifo.get handler.customerPingPongFlag with head := read.line + count } } ⟨read.frame + 1, 0⟩ write := by
  have sides := tracks_other_side base handler read write tracks ahead
  rcases tracks.fifos with ⟨same, -⟩ | ⟨-, bound, -, producer⟩
  · omega
  · refine { baseEq := tracks.baseEq, customerInfo := ?_, producerInfo := tracks.producerInfo, customerSide := ?_,
             producerSide := tracks.producerSide, readIn := Nat.zero_le _, writeIn := tracks.writeIn,
             fifos := .inl ⟨ahead, Nat.zero_le _, ?_, ?_⟩, healthy := ?_ }
    · simpa [sides] using tracks.producerInfo
    · show (!handler.customerPingPongFlag) = frameSide (read.frame + 1)
      rw [tracks.customerSide, frame_side_succ]
    · dsimp only
      omega
    · simpa [sides] using producer
    · intro ok
      simpa [sides] using (tracks.healthy ok).2

theorem tracked_pop_line (geometry : Geometry base) (ok : handler.status = .ok) (counted : 0 < count)
    (stored : count ≤ readableLines base read write) :
    ∃ next, ispcPopNewLine handler count = (next, true) ∧ next.status = .ok ∧
      Tracks base next (read.advance base.lineNumPerFrame count) write := by
  have customer := tracked_customer_fifo base handler read write tracks
  have frameMax := frame_bound base geometry
  have writeIn := tracks.writeIn
  have readIn := tracks.readIn
  have limit := stored
  unfold readableLines at limit
  have tailMax : (if write.frame = read.frame then write.line else base.lineNumPerFrame) ≤ base.lineNumPerFrame := by
    split <;> omega
  have popped := frame_fifo_pop _ _ _ _ _ _ customer count (by omega) (tracks.healthy ok).1 (by omega) (by omega)
  have empty : isEmptyFifo (handler.fifo.get handler.customerPingPongFlag) = false := by
    rw [isEmptyFifo, customer.headEq, customer.tailEq, beq_eq_false_iff_ne]
    omega
  have headIn : ¬ getHeadIndexFifo { handler.fifo.get handler.customerPingPongFlag with head := read.line + count } >
      ((handler.info.get handler.customerPingPongFlag).lineNumPerFrame : Int) := by
    rw [frame_fifo_head_index _ _ _ _ _ _ (frame_fifo_popped _ _ _ _ _ _ customer count) (by omega), tracks.customerInfo]
    omega
  by_cases last : read.line + count = base.lineNumPerFrame
  · -- Only a frame the producer has left can be read to its end.
    have ahead : write.frame = read.frame + 1 := by
      rcases tracks.fifos with ⟨same, -⟩ | ⟨ahead, -⟩
      · rw [if_pos same] at limit
        omega
      · exact ahead
    have lastEntry : isLastEntryPopFifo { handler.fifo.get handler.customerPingPongFlag with head := read.line + count } = true := by
      rw [isLastEntryPopFifo, customer.maxEq, beq_iff_eq]
      exact last
    have advanced : read.advance base.lineNumPerFrame count = ⟨read.frame + 1, 0⟩ := if_neg (by omega)
    have sides := tracks_other_side base handler read write tracks ahead
    rw [advanced]
    exact ⟨_, pop_whole_frame handler count _ ok empty popped headIn lastEntry sides, ok,
      tracks_pop_frame base handler read write count tracks last ahead⟩
  · have notLast : isLastEntryPopFifo { handler.fifo.get handler.customerPingPongFlag with head := read.line + count } = false := by
      rw [isLastEntryPopFifo, customer.maxEq, beq_eq_false_iff_ne]
      exact last
    have advanced : read.advance base.lineNumPerFrame count = ⟨read.frame, read.line + count⟩ := if_pos (by omega)
    rw [advanced]
    exact ⟨_, pop_within_frame handler count _ ok empty popped headIn notLast, ok,
      tracks_pop_within base handler read write count tracks (by omega) stored⟩

end Popped

theorem advance_index (height : Nat) (pos : LinePos) (count : Nat) (inFrame : pos.line + count ≤ height) :
    (pos.advance height count).index height = pos.index height + count := by
  by_cases more : pos.line + count < height
  · simp only [LinePos.advance, if_pos more, LinePos.index]
    omega
  · simp only [LinePos.advance, if_neg more, LinePos.index, Nat.succ_mul]
    omega

theorem advance_aligned (step height : Nat) (pos : LinePos) (aligned : step ∣ pos.line) :
    step ∣ (pos.advance height step).line := by
  rw [LinePos.advance]
  split
  · exact Nat.dvd_add aligned (Nat.dvd_refl _)
  · exact Nat.dvd_zero _

theorem advance_frame (height count : Nat) (pos : LinePos) (inFrame : pos.line + count ≤ height) :
    ((pos.advance height count).frame = pos.frame ∧ pos.line + count < height) ∨
      ((pos.advance height count).frame = pos.frame + 1 ∧ pos.line + count = height) := by
  by_cases more : pos.line + count < height
  · exact .inl ⟨by rw [LinePos.advance, if_pos more], more⟩
  · exact .inr ⟨by rw [LinePos.advance, if_neg more], by omega⟩

theorem tracks_frames (base : SispControlInfo) (handler : SispHandler) (read write : LinePos)
    (tracks : Tracks base handler read write) :
    read.frame ≤ write.frame ∧ write.frame ≤ read.frame + 1 := by
  rcases tracks.fifos with ⟨same, -⟩ | ⟨ahead, -⟩ <;> omega

-- A ring shorter than a frame and an entry: the producer never completes a
-- frame ahead of the consumer.
theorem tracked_flip_together (base : SispControlInfo) (handler : SispHandler) (read write : LinePos)
    (tracks : Tracks base handler read write) (geometry : Geometry base) (readAligned : base.lineNumPerEntry ∣ read.line)
    (writeAligned : base.lineNumPerEntry ∣ write.line) (short : base.lineNumPerBuffer < base.lineNumPerFrame + base.lineNumPerEntry)
    (room : heldLines base read write + base.lineNumPerEntry ≤ base.lineNumPerBuffer)
    (fills : write.line + base.lineNumPerEntry = base.lineNumPerFrame) :
    write.frame = read.frame ∧ frameStart base (write.frame + 1) < 32768 := by
  have whole : base.lineNumPerEntry ∣ base.lineNumPerFrame := by
    rw [← fills]
    exact Nat.dvd_add writeAligned (Nat.dvd_refl _)
  have positive := geometry.entryPos
  have entryMax := entry_bound base geometry
  have frameMax := frame_bound base geometry
  constructor
  · rcases tracks.fifos with ⟨same, -⟩ | ⟨ahead, -, -, -⟩
    · exact same
    · -- The consumer would be less than one entry from the end of its frame.
      rw [held_next base read write ahead] at room
      have near : base.lineNumPerFrame - read.line < base.lineNumPerEntry := by omega
      have readIn := tracks.readIn
      have rest := Nat.le_of_dvd (by omega) (Nat.dvd_sub whole readAligned)
      omega
  · have below : frameStart base (write.frame + 1) < base.lineNumPerBuffer := Nat.mod_lt _ (by omega)
    omega

theorem readable_grows (base : SispControlInfo) (read write : LinePos) (geometry : Geometry base) 
    (inFrame : write.line + base.lineNumPerEntry ≤ base.lineNumPerFrame)
    (last : write.line + base.lineNumPerEntry = base.lineNumPerFrame → write.frame = read.frame) :
    readableLines base read write ≤ readableLines base read (write.advance base.lineNumPerFrame base.lineNumPerEntry) := by
  have positive := geometry.entryPos
  simp only [readableLines, LinePos.advance]
  by_cases more : write.line + base.lineNumPerEntry < base.lineNumPerFrame
  · simp only [if_pos more]
    split <;> omega
  · have same := last (by omega)
    simp only [if_neg more, if_pos same, if_neg (show ¬ write.frame + 1 = read.frame by omega)]
    omega

theorem readable_aligned (base : SispControlInfo) (read write : LinePos) (readAligned : base.lineNumPerEntry ∣ read.line)
    (writeAligned : base.lineNumPerEntry ∣ write.line)
    (whole : write.frame = read.frame ∨ base.lineNumPerEntry ∣ base.lineNumPerFrame) :
    base.lineNumPerEntry ∣ readableLines base read write := by
  rw [readableLines]
  by_cases same : write.frame = read.frame
  · rw [if_pos same]
    exact Nat.dvd_sub writeAligned readAligned
  · rw [if_neg same]
    exact Nat.dvd_sub (whole.resolve_left same) readAligned

-- The ring line that carries a line of the stream, and its address.
def ringLine (base : SispControlInfo) (pos : LinePos) : Nat :=
  (pos.frame * base.lineNumUsedPerFrame + pos.line) % base.lineNumPerBuffer

def lineAddr (base : SispControlInfo) (pos : LinePos) : Nat :=
  u64 (base.frameBufferAddr + ringLine base pos * base.sizePerLine : Nat)

theorem ring_line_start (base : SispControlInfo) (pos : LinePos) :
    (frameStart base pos.frame + pos.line) % base.lineNumPerBuffer = ringLine base pos := by
  rw [frameStart, ringLine, Nat.mod_add_mod]

theorem tracked_depth (base : SispControlInfo) (handler : SispHandler) (read write : LinePos)
    (tracks : Tracks base handler read write) : readableLines base read write ≤ base.lineNumPerBuffer := by
  rw [readableLines]
  rcases tracks.fifos with ⟨same, order, bound, -⟩ | ⟨ahead, bound, -, -⟩
  · rw [if_pos same]
    omega
  · rw [if_neg (by omega)]
    omega

def EntryAt (base : SispControlInfo) (pos : LinePos) (list : SispBuffer × SispBuffer) : Prop :=
  list.1.startAddr = lineAddr base pos ∧ list.1.lineNum + list.2.lineNum = base.lineNumPerEntry ∧
  (ringLine base pos + base.lineNumPerEntry ≤ base.lineNumPerBuffer → list.1.lineNum = base.lineNumPerEntry ∧ list.2.size = 0)

theorem tracked_entry_to_pop (base : SispControlInfo) (handler : SispHandler) (read write : LinePos)
    (list : SispBuffer × SispBuffer) (geometry : Geometry base) (tracks : Tracks base handler read write)
    (stored : base.lineNumPerEntry ≤ readableLines base read write)
    (near : ringLine base read * base.sizePerLine < 2147483648) :
    ∃ entry, ispcGetEntryToPop handler base.lineNumPerEntry list = some (entry, true) ∧ EntryAt base read entry := by
  have customer := tracked_customer_fifo base handler read write tracks
  have depth := tracked_depth base handler read write tracks
  have nonempty := tracked_nonempty base handler read write tracks
  have readIn := tracks.readIn
  have writeIn := tracks.writeIn
  have positive := geometry.entryPos
  have entryMax := entry_bound base geometry
  have frameMax := frame_bound base geometry
  have depthMax := geometry.depthMax
  rw [decide_eq_false (by omega)] at nonempty
  have tailMax : (if write.frame = read.frame then write.line else base.lineNumPerFrame) ≤ base.lineNumPerFrame := by
    split <;> omega
  have elements := frame_fifo_elements _ _ _ _ _ _ customer (by unfold readableLines at stored; omega) (by omega)
  have start := frame_fifo_head _ _ _ _ _ _ customer (by omega) (by omega)
  rw [ring_line_start] at start
  have enough : (decide (base.lineNumPerEntry > base.lineNumPerBuffer) ||
      decide (base.lineNumPerEntry > getElementNumFifo (handler.fifo.get handler.customerPingPongFlag))) = false := by
    rw [elements, ← readableLines]
    simp only [Bool.or_eq_false_iff, decide_eq_false_iff_not]
    omega
  have address : u64 ((base.frameBufferAddr : Int) + i32 (ringLine base read * base.sizePerLine : Nat)) = lineAddr base read := by
    rw [i32_fits _ near, lineAddr, Int.natCast_add]
  have below : ringLine base read < base.lineNumPerBuffer := Nat.mod_lt _ (by omega)
  by_cases whole : ringLine base read + base.lineNumPerEntry ≤ base.lineNumPerBuffer
  · refine ⟨(⟨base.format, base.lineNumPerEntry, u32 (base.lineNumPerEntry * base.sizePerLine : Nat), base.sizePerLine,
      lineAddr base read⟩, { list.2 with lineNum := 0, startAddr := 0, size := 0 }), ?_, rfl, rfl, fun _ => ⟨rfl, rfl⟩⟩
    simp only [ispcGetEntryToPop, nonempty, enough, start, tracks.customerInfo, customer.depthEq, address, Option.bind_eq_bind,
      Option.bind_some, Bool.false_eq_true, if_false, ge_iff_le, if_pos whole]
  · have upper : u16 ((base.lineNumPerBuffer : Int) - (ringLine base read : Int)) = base.lineNumPerBuffer - ringLine base read := by
      rw [← Int.ofNat_sub (by omega), u16_fits _ (by omega)]
    have lower : u16 ((base.lineNumPerEntry : Int) - ((base.lineNumPerBuffer - ringLine base read : Nat) : Int)) =
        base.lineNumPerEntry - (base.lineNumPerBuffer - ringLine base read) := by
      rw [← Int.ofNat_sub (by omega), u16_fits _ (by omega)]
    refine ⟨(⟨base.format, base.lineNumPerBuffer - ringLine base read,
      u32 ((base.lineNumPerBuffer - ringLine base read) * base.sizePerLine : Nat), base.sizePerLine, lineAddr base read⟩,
      ⟨base.format, base.lineNumPerEntry - (base.lineNumPerBuffer - ringLine base read),
      u32 ((base.lineNumPerEntry - (base.lineNumPerBuffer - ringLine base read)) * base.sizePerLine : Nat), base.sizePerLine,
      base.frameBufferAddr⟩), ?_, rfl, ?_, fun inside => absurd inside whole⟩
    · simp only [ispcGetEntryToPop, nonempty, enough, start, tracks.customerInfo, customer.depthEq, address, Option.bind_eq_bind,
        Option.bind_some, Bool.false_eq_true, if_false, ge_iff_le, if_neg whole, upper, lower]
    show base.lineNumPerBuffer - ringLine base read + (base.lineNumPerEntry - (base.lineNumPerBuffer - ringLine base read)) =
      base.lineNumPerEntry
    omega

theorem tracked_get_entry (base : SispControlInfo) (handler : SispHandler) (read write : LinePos)
    (list : SispBuffer × SispBuffer) (geometry : Geometry base) (tracks : Tracks base handler read write)
    (ok : handler.status = .ok) (stored : base.lineNumPerEntry ≤ readableLines base read write)
    (near : ringLine base read * base.sizePerLine < 2147483648) :
    ∃ entry, ispGetNextEntry handler list = some (handler, entry, true) ∧ EntryAt base read entry := by
  have customer := tracked_customer_fifo base handler read write tracks
  have nonempty := tracked_nonempty base handler read write tracks
  have positive := geometry.entryPos
  rw [decide_eq_false (by omega)] at nonempty
  have enough : isEnoughElementToPopFifo (handler.fifo.get handler.customerPingPongFlag) base.lineNumPerEntry = true := by
    rw [isEnoughElementToPopFifo, customer.headEq, customer.tailEq, decide_eq_true_eq]
    unfold readableLines at stored
    omega
  obtain ⟨entry, found, placed⟩ := tracked_entry_to_pop base handler read write list geometry tracks stored near
  exact ⟨entry, by simp [ispGetNextEntry, ok, nonempty, tracks.customerInfo, enough, found], placed⟩

theorem get_entry_after_error (handler : SispHandler) (list : SispBuffer × SispBuffer) (failed : handler.status ≠ .ok) :
    ispGetNextEntry handler list = some (handler, list, false) := by
  simp [ispGetNextEntry, failed]

theorem get_entry_empty (handler : SispHandler) (list : SispBuffer × SispBuffer)
    (empty : isEmptyFifo (handler.fifo.get handler.customerPingPongFlag) = true) :
    ispGetNextEntry handler list = some (handler, list, false) := by
  simp [ispGetNextEntry, empty]

end CsiDsp
