import CsiDsp.Base.Window
import CsiDsp.IspCommon

set_option autoImplicit false

namespace CsiDsp

open CInt

-- What ispc_base_info_update establishes of the base information it accepts.
structure Geometry (base : SispControlInfo) : Prop where
  entryPos : 0 < base.lineNumPerEntry
  entryMax : base.lineNumPerEntry ≤ linesMask
  frameMax : base.lineNumPerFrame ≤ maxVertical
  depthMax : base.lineNumPerBuffer < 65536
  lineMax : base.sizePerLine < 65536
  last : base.lineNumInLastEntry =
    if base.lineNumPerFrame % base.lineNumPerEntry = 0 then base.lineNumPerEntry
    else base.lineNumPerFrame % base.lineNumPerEntry

theorem frame_bound (base : SispControlInfo) (geometry : Geometry base) : base.lineNumPerFrame ≤ 3192 := geometry.frameMax

theorem entry_bound (base : SispControlInfo) (geometry : Geometry base) : base.lineNumPerEntry ≤ 8191 := geometry.entryMax

theorem base_info_accepted (base accepted : SispControlInfo) (config : SispConfigPar)
    (update : ispcBaseInfoUpdate base config = some (accepted, .ok)) :
    accepted = { base with
      lineNumPerEntry := config.lineInEntry.toNat
      lineNumPerFrame := config.ver.toNat
      lineNumInLastEntry := if config.ver.toNat % config.lineInEntry.toNat = 0 then config.lineInEntry.toNat
        else config.ver.toNat % config.lineInEntry.toNat
      sizePerLine := config.lineStride.toNat
      lineNumPerBuffer := u16 (config.bufferSize.toNat / config.lineStride.toNat : Nat)
      frameBufferAddr := config.bufferAddr.toNat
      format := config.dataFmt.toNat } ∧
    0 < config.lineInEntry.toNat ∧ config.lineInEntry.toNat ≤ linesMask ∧ config.ver.toNat ≤ maxVertical := by
  unfold ispcBaseInfoUpdate at update
  split at update
  · cases update
  · rename_i inRange
    simp only [Bool.or_eq_true, decide_eq_true_eq, not_or, Nat.not_lt] at inRange
    split at update
    · cases update
    · split at update
      · cases update
      · split at update
        · cases update
        · cases update
          exact ⟨rfl, by omega, inRange.2, inRange.1.2⟩

theorem base_info_geometry (base accepted : SispControlInfo) (config : SispConfigPar)
    (update : ispcBaseInfoUpdate base config = some (accepted, .ok)) : Geometry accepted := by
  obtain ⟨same, positive, entryMax, frameMax⟩ := base_info_accepted base accepted config update
  subst same
  have depth := u16_lt (config.bufferSize.toNat / config.lineStride.toNat : Nat)
  exact ⟨positive, entryMax, frameMax, depth, config.lineStride.toNat_lt, rfl⟩

structure LinePos where
  frame : Nat
  line : Nat
deriving DecidableEq, Repr

def LinePos.advance (pos : LinePos) (height count : Nat) : LinePos :=
  if pos.line + count < height then ⟨pos.frame, pos.line + count⟩ else ⟨pos.frame + 1, 0⟩

def LinePos.index (pos : LinePos) (height : Nat) : Nat := pos.frame * height + pos.line

def frameStart (base : SispControlInfo) (frame : Nat) : Nat := frame * base.lineNumUsedPerFrame % base.lineNumPerBuffer

-- Both sides work on one frame: a single FIFO carries the lines in between.
def SameFrame (base : SispControlInfo) (handler : SispHandler) (read write : LinePos) : Prop :=
  write.frame = read.frame ∧ read.line ≤ write.line ∧ write.line ≤ read.line + base.lineNumPerBuffer ∧
  FrameFifo (handler.fifo.get handler.producePingPongFlag) base.lineNumPerBuffer base.lineNumPerFrame
    (frameStart base write.frame) read.line write.line

-- The producer is one frame ahead: the consumer's FIFO holds the rest of its
-- frame and the producer's FIFO the beginning of the next.
def NextFrame (base : SispControlInfo) (handler : SispHandler) (read write : LinePos) : Prop :=
  write.frame = read.frame + 1 ∧ base.lineNumPerFrame + write.line ≤ read.line + base.lineNumPerBuffer ∧
  FrameFifo (handler.fifo.get handler.customerPingPongFlag) base.lineNumPerBuffer base.lineNumPerFrame
    (frameStart base read.frame) read.line base.lineNumPerFrame ∧
  FrameFifo (handler.fifo.get handler.producePingPongFlag) base.lineNumPerBuffer base.lineNumPerFrame
    (frameStart base write.frame) 0 write.line

def frameSide (frame : Nat) : Bool := frame % 2 == 1

theorem frame_side_succ (frame : Nat) : frameSide (frame + 1) = !frameSide frame := by
  simp only [frameSide]
  rcases Nat.mod_two_eq_zero_or_one frame with even | odd
  · simp [even, show (frame + 1) % 2 = 1 by omega]
  · simp [odd, show (frame + 1) % 2 = 0 by omega]

-- The two FIFOs of a handler record exactly the lines from read up to write of
-- the stream of frames, and each side has switched once a frame.
structure Tracks (base : SispControlInfo) (handler : SispHandler) (read write : LinePos) : Prop where
  baseEq : handler.base = base
  customerInfo : handler.info.get handler.customerPingPongFlag = base
  producerInfo : handler.info.get handler.producePingPongFlag = base
  customerSide : handler.customerPingPongFlag = frameSide read.frame
  producerSide : handler.producePingPongFlag = frameSide write.frame
  readIn : read.line ≤ base.lineNumPerFrame - 1
  writeIn : write.line ≤ base.lineNumPerFrame - 1
  fifos : SameFrame base handler read write ∨ NextFrame base handler read write
  healthy : handler.status = .ok → (handler.fifo.get handler.customerPingPongFlag).status ≠ .overflow ∧
    (handler.fifo.get handler.producePingPongFlag).status ≠ .overflow

def heldLines (base : SispControlInfo) (read write : LinePos) : Nat :=
  write.index base.lineNumPerFrame - read.index base.lineNumPerFrame

theorem held_same (base : SispControlInfo) (read write : LinePos) (same : write.frame = read.frame) :
    heldLines base read write = write.line - read.line := by
  simp only [heldLines, LinePos.index, same]
  omega

theorem held_next (base : SispControlInfo) (read write : LinePos) (next : write.frame = read.frame + 1) :
    heldLines base read write = base.lineNumPerFrame + write.line - read.line := by
  simp only [heldLines, LinePos.index, next, Nat.succ_mul]
  omega

section Tracks

variable (base : SispControlInfo) (handler : SispHandler) (read write : LinePos)
variable (geometry : Geometry base) (tracks : Tracks base handler read write)

include tracks

theorem tracks_ordered : read.index base.lineNumPerFrame ≤ write.index base.lineNumPerFrame := by
  have readIn := tracks.readIn
  rcases tracks.fifos with ⟨same, order, -, -⟩ | ⟨next, -, -, -⟩
  · simp only [LinePos.index, same]
    omega
  · simp only [LinePos.index, next, Nat.succ_mul]
    omega

theorem tracks_bounded :
    write.index base.lineNumPerFrame ≤ read.index base.lineNumPerFrame + base.lineNumPerBuffer := by
  rcases tracks.fifos with ⟨same, -, bound, -⟩ | ⟨next, bound, -, -⟩
  · simp only [LinePos.index, same]
    omega
  · simp only [LinePos.index, next, Nat.succ_mul]
    omega

def trackedWindow : Window base.lineNumPerBuffer :=
  ⟨read.index base.lineNumPerFrame, write.index base.lineNumPerFrame,
    tracks_ordered base handler read write tracks, tracks_bounded base handler read write tracks⟩

theorem tracks_same_side (same : write.frame = read.frame) :
    handler.customerPingPongFlag = handler.producePingPongFlag := by
  rw [tracks.producerSide, tracks.customerSide, same]

theorem tracks_other_side (next : write.frame = read.frame + 1) :
    handler.producePingPongFlag = !handler.customerPingPongFlag := by
  rw [tracks.producerSide, tracks.customerSide, next, frame_side_succ]

theorem tracked_push_offset (geometry : Geometry base) : ispcPushOffset handler =
    if write.frame = read.frame then 0 else base.lineNumPerFrame - read.line := by
  have frameMax := frame_bound base geometry
  have readIn := tracks.readIn
  rcases tracks.fifos with ⟨same, -, -, -⟩ | ⟨next, -, customer, -⟩
  · have sides := tracks_same_side base handler read write tracks same
    simp [ispcPushOffset, sides, same]
  · have sides := tracks_other_side base handler read write tracks next
    have infos : handler.info.get (!handler.customerPingPongFlag) = handler.info.get handler.customerPingPongFlag := by
      rw [← sides, tracks.producerInfo, tracks.customerInfo]
    have elements := frame_fifo_elements _ _ _ _ _ _ customer (by omega) (by omega)
    have different : ¬ write.frame = read.frame := by omega
    simp [ispcPushOffset, sides, infos, elements, different]

theorem tracked_producer_fifo : FrameFifo (handler.fifo.get handler.producePingPongFlag) base.lineNumPerBuffer
    base.lineNumPerFrame (frameStart base write.frame) (if write.frame = read.frame then read.line else 0) write.line := by
  rcases tracks.fifos with ⟨same, -, -, fifo⟩ | ⟨next, -, -, fifo⟩
  · simpa only [if_pos same] using fifo
  · have different : ¬ write.frame = read.frame := by omega
    simpa only [if_neg different] using fifo

theorem tracked_customer_fifo : FrameFifo (handler.fifo.get handler.customerPingPongFlag) base.lineNumPerBuffer
    base.lineNumPerFrame (frameStart base read.frame) read.line
    (if write.frame = read.frame then write.line else base.lineNumPerFrame) := by
  rcases tracks.fifos with ⟨same, -, -, fifo⟩ | ⟨next, -, fifo, -⟩
  · rw [if_pos same, tracks_same_side base handler read write tracks same]
    simpa only [same] using fifo
  · have different : ¬ write.frame = read.frame := by omega
    simpa only [if_neg different] using fifo

theorem tracked_occupancy : heldLines base read write + (if write.frame = read.frame then read.line else 0) =
    write.line + (if write.frame = read.frame then 0 else base.lineNumPerFrame - read.line) := by
  have readIn := tracks.readIn
  rcases tracks.fifos with ⟨same, order, -, -⟩ | ⟨next, -, -, -⟩
  · rw [held_same base read write same, if_pos same, if_pos same]
    omega
  · have different : ¬ write.frame = read.frame := by omega
    rw [held_next base read write next, if_neg different, if_neg different]
    omega

theorem tracked_push_offset_le (geometry : Geometry base) : ispcPushOffset handler ≤ base.lineNumPerFrame := by
  rw [tracked_push_offset base handler read write tracks geometry]
  split <;> omega

theorem tracked_push_fifo (geometry : Geometry base)
    (room : heldLines base read write + base.lineNumPerEntry ≤ base.lineNumPerBuffer)
    (inFrame : write.line + base.lineNumPerEntry ≤ base.lineNumPerFrame) :
    pushFifo (handler.fifo.get handler.producePingPongFlag) base.lineNumPerEntry (ispcPushOffset handler) =
      ({ handler.fifo.get handler.producePingPongFlag with tail := write.line + base.lineNumPerEntry }, true) := by
  have occupancy := tracked_occupancy base handler read write tracks
  have offset := tracked_push_offset base handler read write tracks geometry
  have offsetMax := tracked_push_offset_le base handler read write tracks geometry
  have entryMax := entry_bound base geometry
  have frameMax := frame_bound base geometry
  apply frame_fifo_push _ _ _ _ _ _ (tracked_producer_fifo base handler read write tracks)
  · omega
  · omega
  · omega

theorem tracked_push_fifo_refused (geometry : Geometry base)
    (crowded : base.lineNumPerBuffer < heldLines base read write + base.lineNumPerEntry) :
    pushFifo (handler.fifo.get handler.producePingPongFlag) base.lineNumPerEntry (ispcPushOffset handler) =
      ({ handler.fifo.get handler.producePingPongFlag with status := .overflow }, false) := by
  have occupancy := tracked_occupancy base handler read write tracks
  have offset := tracked_push_offset base handler read write tracks geometry
  have offsetMax := tracked_push_offset_le base handler read write tracks geometry
  have entryMax := entry_bound base geometry
  have frameMax := frame_bound base geometry
  apply frame_fifo_push_refused _ _ _ _ _ _ (tracked_producer_fifo base handler read write tracks)
  · omega
  · omega

end Tracks

-- The producer accepts an entry whose size the handler knows, or the entry
-- that fills the frame up.
def EntrySized (base : SispControlInfo) (write : LinePos) (element : Nat) : Prop :=
  (base.lineNumPerEntry ≤ element ∧ element ≤ base.lineNumPerEntry * 2) ∨
    write.line + base.lineNumPerEntry = base.lineNumPerFrame

theorem tracked_entry_accepted (base : SispControlInfo) (handler : SispHandler) (read write : LinePos) (element : Nat)
    (tracks : Tracks base handler read write) (sized : EntrySized base write element) :
    ((decide (element < base.lineNumPerEntry) || decide (element > base.lineNumPerEntry * 2)) &&
      !isLastEntryToPushFifo (handler.fifo.get handler.producePingPongFlag) base.lineNumPerEntry) = false := by
  have fifo := tracked_producer_fifo base handler read write tracks
  rcases sized with ⟨low, high⟩ | last
  · have notLow : decide (element < base.lineNumPerEntry) = false := decide_eq_false (by omega)
    have notHigh : decide (element > base.lineNumPerEntry * 2) = false := decide_eq_false (by omega)
    rw [notLow, notHigh]
    rfl
  · have lastEntry : isLastEntryToPushFifo (handler.fifo.get handler.producePingPongFlag) base.lineNumPerEntry = true := by
      rw [isLastEntryToPushFifo, fifo.tailEq, fifo.maxEq, beq_iff_eq]
      omega
    rw [lastEntry, Bool.not_true, Bool.and_false]

-- A refused entry marks the producer's FIFO and leaves the lines alone.
theorem tracks_push_refused (base : SispControlInfo) (handler : SispHandler) (read write : LinePos)
    (tracks : Tracks base handler read write) :
    Tracks base { handler with
      status := .overFlow
      fifo := handler.fifo.set handler.producePingPongFlag
        { handler.fifo.get handler.producePingPongFlag with status := .overflow } } read write := by
  refine { tracks with fifos := ?_, healthy := by simp }
  rcases tracks.fifos with ⟨same, order, bound, fifo⟩ | ⟨ahead, bound, customer, fifo⟩
  · exact .inl ⟨same, order, bound, by simpa using frame_fifo_status _ _ _ _ _ _ fifo .overflow⟩
  · refine .inr ⟨ahead, bound, ?_, by simpa using frame_fifo_status _ _ _ _ _ _ fifo .overflow⟩
    simpa [tracks_other_side base handler read write tracks ahead] using customer

theorem tracked_push_crowded (base : SispControlInfo) (handler : SispHandler) (read write : LinePos) (element : Nat)
    (geometry : Geometry base) (tracks : Tracks base handler read write) (ok : handler.status = .ok)
    (sized : EntrySized base write element)
    (crowded : base.lineNumPerBuffer < heldLines base read write + base.lineNumPerEntry) :
    ∃ next, ispcPushNewLine handler element = some (next, false) ∧ next.status = .overFlow ∧ Tracks base next read write := by
  have accepted := tracked_entry_accepted base handler read write element tracks sized
  have refused := tracked_push_fifo_refused base handler read write tracks geometry crowded
  refine ⟨{ handler with
    status := .overFlow
    fifo := handler.fifo.set handler.producePingPongFlag
      { handler.fifo.get handler.producePingPongFlag with status := .overflow } }, ?_, rfl, ?_⟩
  · simp [ispcPushNewLine, ok, tracks.producerInfo, accepted, refused]
  · exact tracks_push_refused base handler read write tracks

-- The producer goes on within its frame.
theorem tracks_push_within (base : SispControlInfo) (handler : SispHandler) (read write : LinePos) (count : Nat)
    (tracks : Tracks base handler read write) (room : heldLines base read write + count ≤ base.lineNumPerBuffer)
    (inFrame : write.line + count < base.lineNumPerFrame) :
    Tracks base { handler with
      fifo := handler.fifo.set handler.producePingPongFlag
        { handler.fifo.get handler.producePingPongFlag with tail := write.line + count } } read ⟨write.frame, write.line + count⟩ := by
  refine { tracks with writeIn := ?_, fifos := ?_, healthy := ?_ }
  · dsimp only
    omega
  · rcases tracks.fifos with ⟨same, order, bound, fifo⟩ | ⟨ahead, bound, customer, fifo⟩
    · rw [held_same base read write same] at room
      exact .inl ⟨same, by show _ ≤ _ + _; omega, by show _ + _ ≤ _; omega,
        by simpa using frame_fifo_pushed _ _ _ _ _ _ fifo count⟩
    · rw [held_next base read write ahead] at room
      refine .inr ⟨ahead, by show _ + (_ + _) ≤ _; omega, ?_,
        by simpa using frame_fifo_pushed _ _ _ _ _ _ fifo count⟩
      simpa [tracks_other_side base handler read write tracks ahead] using customer
  · intro ok
    have healthy := tracks.healthy ok
    rcases tracks.fifos with ⟨same, -⟩ | ⟨ahead, -⟩
    · simpa [tracks_same_side base handler read write tracks same] using healthy.2
    · simpa [tracks_other_side base handler read write tracks ahead] using healthy

theorem tracked_push_line (base : SispControlInfo) (handler : SispHandler) (read write : LinePos) (element : Nat)
    (geometry : Geometry base) (tracks : Tracks base handler read write) (ok : handler.status = .ok)
    (sized : EntrySized base write element)
    (room : heldLines base read write + base.lineNumPerEntry ≤ base.lineNumPerBuffer)
    (inFrame : write.line + base.lineNumPerEntry < base.lineNumPerFrame) :
    ∃ next, ispcPushNewLine handler element = some (next, true) ∧ next.status = .ok ∧
      Tracks base next read ⟨write.frame, write.line + base.lineNumPerEntry⟩ := by
  have accepted := tracked_entry_accepted base handler read write element tracks sized
  have pushed := tracked_push_fifo base handler read write tracks geometry room (by omega)
  have fifo := tracked_producer_fifo base handler read write tracks
  refine ⟨{ handler with
    fifo := handler.fifo.set handler.producePingPongFlag
      { handler.fifo.get handler.producePingPongFlag with tail := write.line + base.lineNumPerEntry } }, ?_, ok, ?_⟩
  · have notLast : (write.line + base.lineNumPerEntry == base.lineNumPerFrame) = false := by
      rw [beq_eq_false_iff_ne]
      omega
    simp [ispcPushNewLine, ok, tracks.producerInfo, accepted, pushed, isLastEntryPushFifo, fifo.maxEq, notLast]
  · exact tracks_push_within base handler read write base.lineNumPerEntry tracks room inFrame

end CsiDsp
