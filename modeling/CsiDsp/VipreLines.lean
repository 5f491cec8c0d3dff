import CsiDsp.LineTransfer
import CsiDsp.ConfigArithmetic
import CsiDsp.RefusedPop

set_option autoImplicit false

namespace CsiDsp

open CInt

-- What the FIFO code shared with the ISP sees of the VIPRE driver. The frame
-- buffer is that of the first active channel.
def lineInfo (channel : Nat) (info : SvipreNLineInfo) : SispControlInfo := {
  lineNumPerEntry := info.lineNumPerEntry
  lineNumPerFrame := info.lineNumPerFrame
  lineNumInLastEntry := info.lineNumInLastEntry
  sizePerLine := info.sizePerLine
  lineNumPerBuffer := info.lineNumPerBuffer
  lineNumUsedPerFrame := info.lineNumUsedPerFrame
  format := 0
  frameBufferAddr := info.bufferAddr channel }

def lineView (channel : Nat) (handler : SvipreHandler) : SispHandler := {
  customerPingPongFlag := handler.customerPingPongFlag
  producePingPongFlag := handler.producePingPongFlag
  status := handler.status
  id := 0
  interactCounter := 0
  currentNValue := 0
  info := ⟨lineInfo channel handler.info.ping, lineInfo channel handler.info.pong⟩
  fifo := handler.fifo
  base := lineInfo channel handler.base }

-- The lines of the entry that begins at this line of a frame.
def entryLinesAt (base : SispControlInfo) (pos : LinePos) : Nat :=
  if pos.line + base.lineNumInLastEntry = base.lineNumPerFrame then base.lineNumInLastEntry else base.lineNumPerEntry

-- Where the entry of this number begins in the stream of frames.
def entryPlace (base : SispControlInfo) : Nat → LinePos
  | 0 => ⟨0, 0⟩
  | number + 1 => (entryPlace base number).advance base.lineNumPerFrame (entryLinesAt base (entryPlace base number))

structure EntryShown (base : SispControlInfo) (pos : LinePos) (inInfo : EntryStruct) : Prop where
  address : inInfo.pBuff = lineAddr base pos
  pitch : inInfo.pitch = base.sizePerLine
  height : inInfo.height = entryLinesAt base pos

-- The driver, the number of entries it has accepted, the in_info of each entry
-- the task is done with, and that of the entry it works on.
structure LineStream where
  handler : SvipreHandler
  accepted : Nat
  delivered : List EntryStruct
  working : Option EntryStruct

inductive LineOp where
  | push
  | getEntry (buffer : SvipreBuffer) (ctrlInfo : EntryStruct)
  | entryDone

-- The task passes the id of the front end to the getter and to entry_done.
def lineOpStep (id : Int) (stream : LineStream) : LineOp → Option LineStream
  | .push => do
      let (handler, pushed) ← viprePushNewLine stream.handler
      some { stream with handler := handler, accepted := if pushed then stream.accepted + 1 else stream.accepted }
  | .getEntry buffer ctrlInfo => do
      let (handler, inInfo, found) ← getVipreNextEntry buffer id stream.handler ctrlInfo
      some { stream with handler := handler, working := if found then some inInfo else none }
  | .entryDone => do
      let inInfo ← stream.working
      let (handler, _) ← viprePopNewEntry stream.handler (i16 id)
      some { stream with handler := handler, delivered := stream.delivered ++ [inInfo], working := none }

def lineStream (handler : SvipreHandler) : LineStream := ⟨handler, 0, [], none⟩

section Delivered

variable (config : VipreConfigPar)

def ringChannel : Nat := (activeChannels config.actChannel.toNat).headD 0

-- The base of the ring the first active channel uses.
def channelBase : SispControlInfo := lineInfo (ringChannel config) (acceptedVipre config)

-- Where the oldest entry left begins, and where the next one will.
def readPlace (stream : LineStream) : LinePos := entryPlace (channelBase config) stream.delivered.length

def writePlace (stream : LineStream) : LinePos := entryPlace (channelBase config) stream.accepted

-- Every entry handed out is the oldest one left, each entry done has been taken
-- from the FIFO whole, and the accepted lines that are left fit the ring.
structure LinesDelivered (stream : LineStream) : Prop where
  working : ∀ inInfo, stream.working = some inInfo →
    stream.delivered.length < stream.accepted ∧ EntryShown (channelBase config) (readPlace config stream) inInfo
  inOrder : ∀ number inInfo, stream.delivered[number]? = some inInfo →
    EntryShown (channelBase config) (entryPlace (channelBase config) number) inInfo
  popped : (stream.handler.fifo.get stream.handler.customerPingPongFlag).head = (readPlace config stream).line ∧
    stream.handler.customerPingPongFlag = frameSide (readPlace config stream).frame
  unpopped : stream.handler.status = .ok →
    heldLines (channelBase config) (readPlace config stream) (writePlace config stream) ≤ (channelBase config).lineNumPerBuffer

end Delivered

-- The lines the other side has not popped, which the ISP's push counts as well.
def otherSideLines (handler : SvipreHandler) : Nat :=
  if handler.producePingPongFlag = handler.customerPingPongFlag then 0
  else getElementNumFifo (handler.fifo.get handler.customerPingPongFlag)

def pushLines (handler : SvipreHandler) : Nat :=
  if vipreIsLastEntryPushInFrame handler then (handler.info.get handler.producePingPongFlag).lineNumInLastEntry
  else (handler.info.get handler.producePingPongFlag).lineNumPerEntry

-- The producer's own FIFO takes the entry.
def pushAccepted (handler : SvipreHandler) : Bool :=
  !isOverflowFifo (handler.fifo.get handler.producePingPongFlag) &&
    isEnoughSpaceToPushFifo (handler.fifo.get handler.producePingPongFlag) (pushLines handler)

-- What has to hold before a step for the driver to do what it promises. An
-- accepted entry finds room beside the lines of both sides, and one that ends a
-- frame finds the consumer on the producer's side; the FIFO an entry is taken
-- from is not marked as overflowed, and the caller's buffer comes with the
-- pitch; the id of the front end is the number of lines that are done.
def DeliverySound (id : Int) (stream : LineStream) : LineOp → Prop
  | .push =>
      let handler := stream.handler
      let fifo := handler.fifo.get handler.producePingPongFlag
      pushAccepted handler = true → handler.base.lineNumPerFrame ≠ 0 ∧
        isEnoughSpaceToPushFifo fifo (pushLines handler + otherSideLines handler) = true ∧
        (fifo.tail + pushLines handler = fifo.maxIndex → handler.producePingPongFlag = handler.customerPingPongFlag ∧
          (fifo.offset + handler.base.lineNumUsedPerFrame) % fifo.depth < 32768)
  | .getEntry buffer _ =>
      let handler := stream.handler
      let fifo := handler.fifo.get handler.customerPingPongFlag
      isEmptyFifo fifo = false → isOverflowFifo fifo = false ∧ activeChannels handler.activeChannle ≠ [] ∧
        buffer.lineSize = handler.base.sizePerLine ∧ handler.base.sizePerLine < 32768 ∧
        (fifo.head + fifo.offset) % fifo.depth * handler.base.sizePerLine < 2147483648
  | .entryDone =>
      isOverflowFifo (stream.handler.fifo.get stream.handler.customerPingPongFlag) = false ∧
        ∀ inInfo ∈ stream.working, inInfo.height = id

section Places

variable (base : SispControlInfo) (geometry : Geometry base) (frames : base.lineNumPerFrame ≠ 0)

include geometry

theorem entry_lines_bound (pos : LinePos) : 0 < entryLinesAt base pos ∧ entryLinesAt base pos ≤ base.lineNumPerEntry := by
  have last := last_entry_lines base geometry
  rw [entryLinesAt]
  split
  · exact last
  · exact ⟨geometry.entryPos, Nat.le_refl _⟩

-- An entry that begins at a multiple of the entry size either ends its frame or
-- leaves lines for the next.
theorem entry_in_frame (pos : LinePos) (aligned : base.lineNumPerEntry ∣ pos.line) (below : pos.line < base.lineNumPerFrame) :
    pos.line + entryLinesAt base pos = base.lineNumPerFrame ∨
      entryLinesAt base pos = base.lineNumPerEntry ∧ pos.line + base.lineNumPerEntry < base.lineNumPerFrame := by
  rw [entryLinesAt]
  by_cases ends : pos.line + base.lineNumInLastEntry = base.lineNumPerFrame
  · rw [if_pos ends]
    exact .inl ends
  · rw [if_neg ends]
    refine .inr ⟨rfl, ?_⟩
    obtain ⟨count, lines⟩ := aligned
    have whole := Nat.div_add_mod base.lineNumPerFrame base.lineNumPerEntry
    have positive := geometry.entryPos
    have counted : count ≤ base.lineNumPerFrame / base.lineNumPerEntry := by
      rw [Nat.le_div_iff_mul_le positive, Nat.mul_comm, ← lines]
      exact Nat.le_of_lt below
    have last := geometry.last
    rcases Nat.lt_or_eq_of_le counted with less | equal
    · have next : base.lineNumPerEntry * (count + 1) ≤ base.lineNumPerEntry * (base.lineNumPerFrame / base.lineNumPerEntry) :=
        Nat.mul_le_mul_left _ less
      rw [Nat.mul_add, Nat.mul_one, ← lines] at next
      by_cases even : base.lineNumPerFrame % base.lineNumPerEntry = 0
      · rw [if_pos even] at last
        omega
      · omega
    · rw [← equal, ← lines] at whole
      by_cases even : base.lineNumPerFrame % base.lineNumPerEntry = 0
      · omega
      · rw [if_neg even] at last
        omega

include frames

theorem entry_place_in (number : Nat) : base.lineNumPerEntry ∣ (entryPlace base number).line ∧
    (entryPlace base number).line < base.lineNumPerFrame := by
  induction number with
  | zero => exact ⟨Nat.dvd_zero _, Nat.pos_of_ne_zero frames⟩
  | succ number ih =>
      rw [entryPlace, LinePos.advance]
      rcases entry_in_frame base geometry _ ih.1 ih.2 with ends | ⟨full, more⟩
      · rw [ends, if_neg (Nat.lt_irrefl _)]
        exact ⟨Nat.dvd_zero _, Nat.pos_of_ne_zero frames⟩
      · rw [full, if_pos more]
        exact ⟨Nat.dvd_add ih.1 (Nat.dvd_refl _), more⟩

theorem entry_place_fits (number : Nat) :
    (entryPlace base number).line + entryLinesAt base (entryPlace base number) ≤ base.lineNumPerFrame := by
  obtain ⟨aligned, below⟩ := entry_place_in base geometry frames number
  rcases entry_in_frame base geometry _ aligned below with ends | ⟨full, more⟩
  · exact Nat.le_of_eq ends
  · rw [full]
    exact Nat.le_of_lt more

theorem entry_index_succ (number : Nat) : (entryPlace base (number + 1)).index base.lineNumPerFrame =
    (entryPlace base number).index base.lineNumPerFrame + entryLinesAt base (entryPlace base number) :=
  advance_index base.lineNumPerFrame _ _ (entry_place_fits base geometry frames number)

theorem entry_index_mono (first second : Nat) (order : first ≤ second) :
    (entryPlace base first).index base.lineNumPerFrame ≤ (entryPlace base second).index base.lineNumPerFrame := by
  induction order with
  | refl => exact Nat.le_refl _
  | step order ih =>
      rw [entry_index_succ base geometry frames]
      exact Nat.le_trans ih (Nat.le_add_right _ _)

end Places

structure LineStreamInv (config : VipreConfigPar) (stream : LineStream) : Prop where
  mode : stream.handler.vipreMode = .nLine
  active : stream.handler.activeChannle = config.actChannel.toNat
  baseEq : stream.handler.base = acceptedVipre config
  customerInfo : stream.handler.info.get stream.handler.customerPingPongFlag = acceptedVipre config
  producerInfo : stream.handler.info.get stream.handler.producePingPongFlag = acceptedVipre config
  framed : stream.accepted = 0 ∨ (channelBase config).lineNumPerFrame ≠ 0
  counted : stream.delivered.length ≤ stream.accepted
  tracks : Tracks (channelBase config) (lineView (ringChannel config) stream.handler)
    (readPlace config stream) (writePlace config stream)
  working : ∀ inInfo, stream.working = some inInfo → stream.delivered.length < stream.accepted ∧
    EntryShown (channelBase config) (readPlace config stream) inInfo
  inOrder : ∀ number inInfo, stream.delivered[number]? = some inInfo →
    EntryShown (channelBase config) (entryPlace (channelBase config) number) inInfo

theorem line_info_get (channel : Nat) (handler : SvipreHandler) (side : Bool) :
    (lineView channel handler).info.get side = lineInfo channel (handler.info.get side) := by
  cases side <;> rfl

theorem line_view_flip (channel : Nat) (handler : SvipreHandler) (fifo : PingPong Sfifo) (side : Bool) :
    lineView channel { handler with
      info := handler.info.set side handler.base, producePingPongFlag := side, fifo := fifo } =
    { lineView channel handler with
      info := (lineView channel handler).info.set side (lineInfo channel handler.base)
      interactCounter := 0
      producePingPongFlag := side
      fifo := fifo } := by
  cases side <;> rfl

section StreamPlaces

variable (config : VipreConfigPar) (stream : LineStream)

theorem write_place_pushed (handler : SvipreHandler) : writePlace config { stream with
      handler := handler, accepted := stream.accepted + 1 } =
    (writePlace config stream).advance (channelBase config).lineNumPerFrame
      (entryLinesAt (channelBase config) (writePlace config stream)) := rfl

theorem read_place_done (handler : SvipreHandler) (inInfo : EntryStruct) : readPlace config { stream with
      handler := handler, delivered := stream.delivered ++ [inInfo], working := none } =
    (readPlace config stream).advance (channelBase config).lineNumPerFrame
      (entryLinesAt (channelBase config) (readPlace config stream)) := by
  rw [readPlace, List.length_append, List.length_singleton]
  rfl

variable (geometry : Geometry (channelBase config)) (frames : (channelBase config).lineNumPerFrame ≠ 0)

include geometry frames

theorem read_place_in : (channelBase config).lineNumPerEntry ∣ (readPlace config stream).line ∧
    (readPlace config stream).line < (channelBase config).lineNumPerFrame :=
  entry_place_in (channelBase config) geometry frames stream.delivered.length

theorem write_place_in : (channelBase config).lineNumPerEntry ∣ (writePlace config stream).line ∧
    (writePlace config stream).line < (channelBase config).lineNumPerFrame :=
  entry_place_in (channelBase config) geometry frames stream.accepted

theorem read_place_fits : (readPlace config stream).line + entryLinesAt (channelBase config) (readPlace config stream) ≤
    (channelBase config).lineNumPerFrame :=
  entry_place_fits (channelBase config) geometry frames stream.delivered.length

theorem write_place_fits : (writePlace config stream).line + entryLinesAt (channelBase config) (writePlace config stream) ≤
    (channelBase config).lineNumPerFrame :=
  entry_place_fits (channelBase config) geometry frames stream.accepted

theorem place_left (left : stream.delivered.length < stream.accepted) :
    (readPlace config stream).index (channelBase config).lineNumPerFrame +
        entryLinesAt (channelBase config) (readPlace config stream) ≤
      (writePlace config stream).index (channelBase config).lineNumPerFrame := by
  have grown := entry_index_mono (channelBase config) geometry frames (stream.delivered.length + 1) stream.accepted left
  rw [entry_index_succ (channelBase config) geometry frames] at grown
  exact grown

end StreamPlaces

section Steps

variable (config : VipreConfigPar) (stream : LineStream) (geometry : Geometry (channelBase config)) (inv : LineStreamInv config stream)

include inv

theorem line_producer : FrameFifo (stream.handler.fifo.get stream.handler.producePingPongFlag) (channelBase config).lineNumPerBuffer
    (channelBase config).lineNumPerFrame (frameStart (channelBase config) (writePlace config stream).frame)
    (if (writePlace config stream).frame = (readPlace config stream).frame then (readPlace config stream).line else 0)
    (writePlace config stream).line :=
  tracked_producer_fifo _ _ _ _ inv.tracks

theorem line_customer : FrameFifo (stream.handler.fifo.get stream.handler.customerPingPongFlag) (channelBase config).lineNumPerBuffer
    (channelBase config).lineNumPerFrame
    (frameStart (channelBase config) (readPlace config stream).frame)
    (readPlace config stream).line
    (if (writePlace config stream).frame = (readPlace config stream).frame then
      (writePlace config stream).line else (channelBase config).lineNumPerFrame) :=
  tracked_customer_fifo _ _ _ _ inv.tracks

theorem push_lines_place : pushLines stream.handler = entryLinesAt (channelBase config)
    (writePlace config stream) := by
  have producer := line_producer config stream inv
  rw [pushLines, vipreIsLastEntryPushInFrame, inv.mode]
  dsimp only
  rw [inv.producerInfo, isLastEntryToPushFifo, producer.tailEq, producer.maxEq, entryLinesAt]
  by_cases ends : (writePlace config stream).line + (channelBase config).lineNumInLastEntry =
      (channelBase config).lineNumPerFrame
  · have last : ((writePlace config stream).line : Int) =
        ((channelBase config).lineNumPerFrame : Int) - (acceptedVipre config).lineNumInLastEntry := by
      rw [← ends, Int.natCast_add]
      exact (Int.add_sub_cancel _ _).symm
    rw [if_pos ends, if_pos (beq_iff_eq.mpr last)]
    rfl
  · have more : ((writePlace config stream).line : Int) ≠
        ((channelBase config).lineNumPerFrame : Int) - (acceptedVipre config).lineNumInLastEntry := by
      intro last
      have same : (acceptedVipre config).lineNumInLastEntry = (channelBase config).lineNumInLastEntry := rfl
      omega
    rw [if_neg ends, if_neg fun last => more (beq_iff_eq.mp last)]
    rfl

theorem other_side_offset : otherSideLines stream.handler = ispcPushOffset (lineView (ringChannel config) stream.handler) := by
  rw [otherSideLines, ispcPushOffset, line_info_get, line_info_get]
  by_cases same : stream.handler.producePingPongFlag = stream.handler.customerPingPongFlag
  · have offset : (stream.handler.producePingPongFlag != stream.handler.customerPingPongFlag) = false := by
      rw [same, bne_self_eq_false]
    rw [if_pos same]
    exact (if_neg fun parted => by
      rw [Bool.and_eq_true] at parted
      exact Bool.false_ne_true (offset.symm.trans parted.1)).symm
  · have parted : (stream.handler.producePingPongFlag != stream.handler.customerPingPongFlag) = true := bne_iff_ne.mpr same
    rw [if_neg same]
    refine (if_pos ?_).symm
    rw [Bool.and_eq_true]
    refine ⟨parted, beq_iff_eq.mpr ?_⟩
    exact congrArg (fun info => (lineInfo (ringChannel config) info).frameBufferAddr) (inv.producerInfo.trans inv.customerInfo.symm)

include geometry in
-- The lines of an entry the producer's FIFO takes find room beside those of both sides.
theorem line_push_room (room : isEnoughSpaceToPushFifo (stream.handler.fifo.get stream.handler.producePingPongFlag)
      (pushLines stream.handler + otherSideLines stream.handler) = true) :
    heldLines (channelBase config) (readPlace config stream) (writePlace config stream) + pushLines stream.handler ≤
      (channelBase config).lineNumPerBuffer := by
  have producer := line_producer config stream inv
  have occupancy := tracked_occupancy _ _ _ _ inv.tracks
  have other := tracked_push_offset _ _ _ _ inv.tracks geometry
  rw [← other_side_offset config stream inv] at other
  rw [isEnoughSpaceToPushFifo, decide_eq_true_eq, producer.tailEq, producer.headEq, producer.depthEq] at room
  omega

include geometry in
theorem line_push_fifo (frames : (channelBase config).lineNumPerFrame ≠ 0)
    (enough : isEnoughSpaceToPushFifo (stream.handler.fifo.get stream.handler.producePingPongFlag) (pushLines stream.handler) = true) :
    pushFifo (stream.handler.fifo.get stream.handler.producePingPongFlag) (pushLines stream.handler) 0 =
      ({ stream.handler.fifo.get stream.handler.producePingPongFlag with
        tail := (writePlace config stream).line + pushLines stream.handler }, true) := by
  have lines := push_lines_place config stream inv
  have inFrame := write_place_fits config stream geometry frames
  have frameMax := frame_bound _ geometry
  have producer := line_producer config stream inv
  rw [isEnoughSpaceToPushFifo, decide_eq_true_eq, producer.tailEq, producer.headEq, producer.depthEq] at enough
  exact frame_fifo_push _ _ _ _ _ _ producer (pushLines stream.handler) 0 (by omega) (by omega) (by omega)

-- Where the next frame starts, as the FIFO of the other side is told.
theorem line_frame_start (positive : 0 < (channelBase config).lineNumPerBuffer)
    (short : ((stream.handler.fifo.get stream.handler.producePingPongFlag).offset + stream.handler.base.lineNumUsedPerFrame) %
      (stream.handler.fifo.get stream.handler.producePingPongFlag).depth < 32768) :
    i16 (Int.tmod ((stream.handler.fifo.get stream.handler.producePingPongFlag).offset +
      (acceptedVipre config).lineNumUsedPerFrame) (stream.handler.fifo.get stream.handler.producePingPongFlag).depth) =
        (frameStart (channelBase config) ((writePlace config stream).frame + 1) : Nat) := by
  have producer := line_producer config stream inv
  have depth : (stream.handler.fifo.get stream.handler.producePingPongFlag).depth ≠ 0 := by
    rw [producer.depthEq]
    exact Nat.ne_of_gt positive
  have near : frameStart (channelBase config) ((writePlace config stream).frame + 1) < 32768 := by
    rw [producer.offsetEq, producer.depthEq, inv.baseEq, ← Int.natCast_add, ← Int.natCast_emod] at short
    rw [← frame_start_succ]
    exact Int.ofNat_lt.mp short
  have start := frame_fifo_next_base (channelBase config) _ _ _ _ _ producer positive near
  rw [nextBaseIndex, if_neg depth] at start
  exact Option.some.inj start

theorem line_together (sides : stream.handler.producePingPongFlag = stream.handler.customerPingPongFlag) :
    (writePlace config stream).frame = (readPlace config stream).frame := by
  rcases inv.tracks.fifos with ⟨same, -⟩ | ⟨ahead, -⟩
  · exact same
  · have parted : stream.handler.producePingPongFlag = !stream.handler.customerPingPongFlag :=
      tracks_other_side _ _ _ _ inv.tracks ahead
    exact absurd (sides.symm.trans parted) (Bool.self_ne_not _)

include geometry in
theorem line_push_accepted (marked : isOverflowFifo (stream.handler.fifo.get stream.handler.producePingPongFlag) = false)
    (enough : isEnoughSpaceToPushFifo (stream.handler.fifo.get stream.handler.producePingPongFlag) (pushLines stream.handler) = true)
    (id : Int) (sound : DeliverySound id stream .push) (next : SvipreHandler) (pushed : Bool)
    (taken : viprePushNewLine stream.handler = some (next, pushed)) :
    pushed = true ∧ LineStreamInv config { stream with handler := next, accepted := stream.accepted + 1 } := by
  have acceptedNow : pushAccepted stream.handler = true := by
    rw [pushAccepted, marked, enough]
    rfl
  obtain ⟨frames, room, ends⟩ := sound acceptedNow
  rw [inv.baseEq] at frames
  have lines := push_lines_place config stream inv
  have counted := (entry_lines_bound (channelBase config) geometry (writePlace config stream)).1
  have producer := line_producer config stream inv
  have inFrame := write_place_fits config stream geometry frames
  have held := line_push_room config stream geometry inv room
  rw [viprePushNewLine, marked, if_neg Bool.false_ne_true, ← pushLines] at taken
  dsimp only at taken
  rw [line_push_fifo config stream geometry inv frames enough] at taken
  simp only [Bool.true_eq_false, if_false, isLastEntryPushFifo, beq_iff_eq] at taken
  have working : ∀ inInfo, stream.working = some inInfo → stream.delivered.length < stream.accepted + 1 ∧
      EntryShown (channelBase config) (readPlace config stream) inInfo :=
    fun inInfo given => ⟨Nat.lt_succ_of_lt (inv.working inInfo given).1, (inv.working inInfo given).2⟩
  by_cases last : (writePlace config stream).line + pushLines stream.handler = (channelBase config).lineNumPerFrame
  · have depth : (stream.handler.fifo.get stream.handler.producePingPongFlag).depth ≠ 0 := by
      rw [producer.depthEq]
      omega
    obtain ⟨sides, short⟩ := ends (by rw [producer.tailEq, producer.maxEq]; exact last)
    have flipped := tracks_push_frame _ _ _ _ (pushLines stream.handler) inv.tracks held last (line_together config stream inv sides)
    rw [if_pos (last.trans producer.maxEq.symm), if_neg depth, inv.producerInfo,
      line_frame_start config stream inv (by omega) short] at taken
    cases taken
    have base : lineInfo (ringChannel config) stream.handler.base = channelBase config := by
      rw [inv.baseEq]
      rfl
    refine ⟨rfl, inv.mode, inv.active, inv.baseEq, ?_, ?_, .inr frames, Nat.le_succ_of_le inv.counted, ?_, working, inv.inOrder⟩
    · dsimp only
      rw [← sides, PingPong.get_set_flipped]
      exact inv.producerInfo
    · dsimp only
      rw [PingPong.get_set_same]
      exact inv.baseEq
    · rw [write_place_pushed, LinePos.advance, ← lines, if_neg (by omega)]
      dsimp only
      rw [line_view_flip, base]
      rw [inv.baseEq]
      exact flipped
  · rw [if_neg fun ended => last (ended.trans producer.maxEq)] at taken
    cases taken
    have within := tracks_push_within _ _ _ _ (pushLines stream.handler) inv.tracks held (by omega)
    refine ⟨rfl, inv.mode, inv.active, inv.baseEq, inv.customerInfo, inv.producerInfo, .inr frames,
      Nat.le_succ_of_le inv.counted, ?_, working, inv.inOrder⟩
    rw [write_place_pushed, LinePos.advance, ← lines, if_pos (by omega)]
    exact within

include geometry in
theorem line_push_step (id : Int) (sound : DeliverySound id stream .push) (next : LineStream)
    (taken : lineOpStep id stream .push = some next) : LineStreamInv config next := by
  obtain ⟨⟨handler, pushed⟩, result, rest⟩ := Option.bind_eq_some_iff.mp taken
  cases rest
  have lines := push_lines_place config stream inv
  have linesMax := (entry_lines_bound (channelBase config) geometry (writePlace config stream)).2
  have entryMax := entry_bound _ geometry
  have counted : u16 ((pushLines stream.handler + 0 : Nat) : Int) = pushLines stream.handler := by
    rw [Nat.add_zero, u16_fits _ (by omega)]
  by_cases marked : isOverflowFifo (stream.handler.fifo.get stream.handler.producePingPongFlag) = true
  · rw [viprePushNewLine, if_pos marked] at result
    cases result
    exact ⟨inv.mode, inv.active, inv.baseEq, inv.customerInfo, inv.producerInfo, inv.framed, inv.counted,
      { inv.tracks with healthy := EhwErrorCode.noConfusion }, inv.working, inv.inOrder⟩
  · by_cases enough : isEnoughSpaceToPushFifo (stream.handler.fifo.get stream.handler.producePingPongFlag) (pushLines stream.handler) = true
    · obtain ⟨accepted, kept⟩ := line_push_accepted config stream geometry inv (Bool.eq_false_iff.mpr marked) enough id sound handler
        pushed result
      rw [accepted]
      exact kept
    · have full := tracks_push_refused _ _ _ _ inv.tracks
      have refused : pushFifo (stream.handler.fifo.get stream.handler.producePingPongFlag) (pushLines stream.handler) 0 =
          ({ stream.handler.fifo.get stream.handler.producePingPongFlag with status := .overflow }, false) := by
        rw [pushFifo, counted, if_neg enough]
      rw [viprePushNewLine, if_neg marked, ← pushLines] at result
      dsimp only at result
      rw [refused] at result
      cases result
      exact ⟨inv.mode, inv.active, inv.baseEq, inv.customerInfo, inv.producerInfo, inv.framed, inv.counted, full, inv.working,
        inv.inOrder⟩

-- The oldest entry lies whole in the consumer's FIFO, and the getter finds its size.
structure EntryHeld (base : SispControlInfo) (pos : LinePos) (tail : Nat) : Prop where
  enough : pos.line + entryLinesAt base pos ≤ tail
  full : pos.line + base.lineNumPerEntry ≤ tail → entryLinesAt base pos = base.lineNumPerEntry
  last : ¬ pos.line + base.lineNumPerEntry ≤ tail → entryLinesAt base pos = base.lineNumInLastEntry

def consumerTail : Nat :=
  if (writePlace config stream).frame = (readPlace config stream).frame then
    (writePlace config stream).line else (channelBase config).lineNumPerFrame

include geometry in
theorem entry_held (left : stream.delivered.length < stream.accepted) :
    EntryHeld (channelBase config) (readPlace config stream) (consumerTail config stream) ∧
      0 < (channelBase config).lineNumPerBuffer ∧ consumerTail config stream ≤ (channelBase config).lineNumPerFrame := by
  have frames : (channelBase config).lineNumPerFrame ≠ 0 := inv.framed.resolve_left (Nat.ne_of_gt (Nat.zero_lt_of_lt left))
  obtain ⟨readAligned, readBelow⟩ := read_place_in config stream geometry frames
  obtain ⟨writeAligned, writeBelow⟩ := write_place_in config stream geometry frames
  obtain ⟨counted, countMax⟩ := entry_lines_bound (channelBase config) geometry (readPlace config stream)
  have grown := place_left config stream geometry frames left
  have inFrame := entry_in_frame (channelBase config) geometry _ readAligned readBelow
  have chosen : entryLinesAt (channelBase config) (readPlace config stream) = (channelBase config).lineNumPerEntry ∨
      entryLinesAt (channelBase config) (readPlace config stream) = (channelBase config).lineNumInLastEntry := by
    rw [entryLinesAt]
    split
    · exact .inr rfl
    · exact .inl rfl
  rw [consumerTail]
  rcases inv.tracks.fifos with ⟨same, order, bound, -⟩ | ⟨ahead, bound, -, -⟩
  · rw [if_pos same]
    simp only [LinePos.index, same] at grown
    have apart := Nat.le_of_dvd (by omega) (Nat.dvd_sub writeAligned readAligned)
    have full : entryLinesAt (channelBase config) (readPlace config stream) =
        (channelBase config).lineNumPerEntry := by omega
    exact ⟨⟨by omega, fun _ => full, fun scarce => absurd (by omega) scarce⟩, by omega, Nat.le_of_lt writeBelow⟩
  · rw [if_neg (by omega)]
    exact ⟨⟨by omega, by omega, by omega⟩, by omega, Nat.le_refl _⟩

include geometry in
theorem line_consumer_filled : isEmptyFifo (stream.handler.fifo.get stream.handler.customerPingPongFlag) = false ↔
    stream.delivered.length < stream.accepted := by
  have customer := line_customer config stream inv
  rw [isEmptyFifo, customer.headEq, customer.tailEq, beq_eq_false_iff_ne]
  constructor
  · intro filled
    refine Nat.lt_of_le_of_ne inv.counted fun same => filled ?_
    have place : readPlace config stream = writePlace config stream := congrArg (entryPlace (channelBase config)) same
    rw [place, if_pos rfl]
  · intro left
    have held := (entry_held config stream geometry inv left).1.enough
    have counted := (entry_lines_bound (channelBase config) geometry (readPlace config stream)).1
    rw [consumerTail] at held
    omega

theorem line_head_near (filled : isEmptyFifo (stream.handler.fifo.get stream.handler.customerPingPongFlag) = false) (id : Int)
    (buffer : SvipreBuffer) (ctrlInfo : EntryStruct) (sound : DeliverySound id stream (.getEntry buffer ctrlInfo)) :
    ringLine (channelBase config) (readPlace config stream) * (channelBase config).sizePerLine <
      2147483648 := by
  have customer := line_customer config stream inv
  obtain ⟨-, -, -, -, near⟩ := sound filled
  rw [inv.baseEq, customer.headEq, customer.offsetEq, customer.depthEq, ← Int.natCast_add, ← Int.natCast_emod, Nat.add_comm,
    ring_line_start] at near
  have same : (acceptedVipre config).sizePerLine = (channelBase config).sizePerLine := rfl
  rw [same, ← Int.natCast_mul] at near
  exact Int.ofNat_lt.mp near

-- What vipre_get_entry_to_pop fills in for the oldest entry.
structure EntryFilled (old parts : SvipreBuffer) : Prop where
  lineNum : parts.lineNum = entryLinesAt (channelBase config) (readPlace config stream)
  lineSize : parts.lineSize = old.lineSize
  startAddr : parts.startAddr 0 = lineAddr (channelBase config) (readPlace config stream)

include geometry in
theorem line_entry_to_pop (left : stream.delivered.length < stream.accepted) (id : Int) (buffer : SvipreBuffer) (ctrlInfo : EntryStruct)
    (sound : DeliverySound id stream (.getEntry buffer ctrlInfo)) : ∃ parts, vipreGetEntryToPop stream.handler
      (entryLinesAt (channelBase config) (readPlace config stream)) buffer =
        some (stream.handler, parts, true) ∧ EntryFilled config stream buffer parts := by
  have customer := line_customer config stream inv
  have filled := (line_consumer_filled config stream geometry inv).mpr left
  obtain ⟨held, positive, tailIn⟩ := entry_held config stream geometry inv left
  rw [consumerTail] at held tailIn
  have enough := held.enough
  have frameMax := frame_bound _ geometry
  have depthMax := geometry.depthMax
  have near := line_head_near config stream inv filled id buffer ctrlInfo sound
  obtain ⟨healthy, channels, -, -, -⟩ := sound filled
  rw [inv.active] at channels
  have head := frame_fifo_head _ _ _ _ _ _ customer positive (by omega)
  have elements := frame_fifo_elements _ _ _ _ _ _ customer (by omega) (by omega)
  rw [ring_line_start] at head
  rw [vipreGetEntryToPop, healthy, filled, if_neg Bool.false_ne_true, if_neg Bool.false_ne_true, elements, if_neg (by omega), head,
    inv.customerInfo]
  refine ⟨_, rfl, rfl, rfl, ?_⟩
  obtain ⟨channel, others, listed⟩ := List.exists_cons_of_ne_nil channels
  have first : ringChannel config = channel := by rw [ringChannel, listed, List.headD_cons]
  have address : (acceptedVipre config).bufferAddr channel = (channelBase config).frameBufferAddr := by
    rw [← first]
    rfl
  have size : (acceptedVipre config).sizePerLine = (channelBase config).sizePerLine := rfl
  dsimp only
  rw [channelAddresses, inv.active, listed, List.getElem?_cons_zero]
  dsimp only
  rw [address, size, i32_fits _ near, lineAddr, Int.natCast_add]

include geometry in
theorem line_next_entry (left : stream.delivered.length < stream.accepted) (id : Int) (buffer : SvipreBuffer) (ctrlInfo : EntryStruct)
    (sound : DeliverySound id stream (.getEntry buffer ctrlInfo)) : ∃ parts,
      vipreGetNextEntry stream.handler (u16 id) buffer = some (stream.handler, parts, true) ∧ EntryFilled config stream buffer parts := by
  have customer := line_customer config stream inv
  have filled := (line_consumer_filled config stream geometry inv).mpr left
  obtain ⟨held, -, -⟩ := entry_held config stream geometry inv left
  obtain ⟨parts, popped, shown⟩ := line_entry_to_pop config stream geometry inv left id buffer ctrlInfo sound
  have entry : (acceptedVipre config).lineNumPerEntry = (channelBase config).lineNumPerEntry := rfl
  have last : (acceptedVipre config).lineNumInLastEntry = (channelBase config).lineNumInLastEntry := rfl
  refine ⟨parts, ?_, shown⟩
  rw [vipreGetNextEntry]
  dsimp only
  rw [filled, if_neg Bool.false_ne_true, inv.mode]
  rw [isEnoughElementToPopFifo, isEnoughElementToPopFifo, customer.headEq, customer.tailEq, ← consumerTail, inv.customerInfo, entry, last]
  by_cases full : (readPlace config stream).line + (channelBase config).lineNumPerEntry ≤
      consumerTail config stream
  · rw [held.full full] at popped
    rw [if_pos (decide_eq_true full), popped]
    rfl
  · have enough := held.enough
    rw [held.last full] at popped enough
    rw [if_neg (Bool.eq_false_iff.mp (decide_eq_false full)), if_pos (decide_eq_true enough), popped]
    rfl

include geometry in
theorem line_get_entry (left : stream.delivered.length < stream.accepted) (id : Int) (buffer : SvipreBuffer) (ctrlInfo : EntryStruct)
    (sound : DeliverySound id stream (.getEntry buffer ctrlInfo)) : ∃ inInfo,
      getVipreNextEntry buffer id stream.handler ctrlInfo = some (stream.handler, inInfo, true) ∧
        EntryShown (channelBase config) (readPlace config stream) inInfo := by
  have filled := (line_consumer_filled config stream geometry inv).mpr left
  have linesMax := (entry_lines_bound (channelBase config) geometry (readPlace config stream)).2
  have entryMax := entry_bound _ geometry
  obtain ⟨parts, found, shown⟩ := line_next_entry config stream geometry inv left id buffer ctrlInfo sound
  obtain ⟨-, -, pitch, narrow, -⟩ := sound filled
  have size : stream.handler.base.sizePerLine = (channelBase config).sizePerLine := by
    rw [inv.baseEq]
    rfl
  rw [size] at pitch narrow
  rw [getVipreNextEntry, found]
  simp only [Option.bind_eq_bind, Option.bind_some, vipreGetFrameMeta, inv.mode, Bool.true_eq_false, if_false]
  refine ⟨_, rfl, shown.startAddr, ?_, ?_⟩
  · dsimp only
    rw [shown.lineSize, pitch, i16_fits _ narrow]
  · dsimp only
    rw [shown.lineNum, i16_fits _ (by omega)]

omit inv in
theorem line_get_nothing (empty : isEmptyFifo (stream.handler.fifo.get stream.handler.customerPingPongFlag) = true) (id : Int)
    (buffer : SvipreBuffer) (ctrlInfo : EntryStruct) :
    getVipreNextEntry buffer id stream.handler ctrlInfo = some (stream.handler, ctrlInfo, false) := by
  rw [getVipreNextEntry, vipreGetNextEntry]
  dsimp only
  rw [if_pos empty]
  rfl

include geometry in
theorem line_get_step (id : Int) (buffer : SvipreBuffer) (ctrlInfo : EntryStruct)
    (sound : DeliverySound id stream (.getEntry buffer ctrlInfo)) (next : LineStream)
    (taken : lineOpStep id stream (.getEntry buffer ctrlInfo) = some next) : LineStreamInv config next := by
  obtain ⟨⟨handler, inInfo, found⟩, result, rest⟩ := Option.bind_eq_some_iff.mp taken
  cases rest
  cases filled : isEmptyFifo (stream.handler.fifo.get stream.handler.customerPingPongFlag) with
  | true =>
      rw [line_get_nothing stream filled] at result
      cases result
      exact { inv with working := fun _ given => (by cases given) }
  | false =>
      have left := (line_consumer_filled config stream geometry inv).mp filled
      obtain ⟨entry, got, shown⟩ := line_get_entry config stream geometry inv left id buffer ctrlInfo sound
      cases got.symm.trans result
      refine { inv with working := fun given handed => ⟨left, ?_⟩ }
      cases handed
      exact shown

-- The consumer's FIFO once the oldest entry is popped.
def entryPopped : Sfifo := { stream.handler.fifo.get stream.handler.customerPingPongFlag with
  head := (readPlace config stream).line +
    entryLinesAt (channelBase config) (readPlace config stream) }

include geometry in
theorem line_pop_entry (left : stream.delivered.length < stream.accepted) (id : Int)
    (healthy : isOverflowFifo (stream.handler.fifo.get stream.handler.customerPingPongFlag) = false)
    (whole : id = entryLinesAt (channelBase config) (readPlace config stream)) :
    viprePopNewEntry stream.handler (i16 id) = some (vipreFinishPop { stream.handler with
      fifo := stream.handler.fifo.set stream.handler.customerPingPongFlag (entryPopped config stream) } (entryPopped config stream)) := by
  have customer := line_customer config stream inv
  have filled := (line_consumer_filled config stream geometry inv).mpr left
  obtain ⟨counted, linesMax⟩ := entry_lines_bound (channelBase config) geometry (readPlace config stream)
  have entryMax := entry_bound _ geometry
  have frameMax := frame_bound _ geometry
  obtain ⟨held, positive, tailIn⟩ := entry_held config stream geometry inv left
  rw [consumerTail] at held tailIn
  have enough := held.enough
  have unmarked : (stream.handler.fifo.get stream.handler.customerPingPongFlag).status ≠ .overflow := bne_iff_ne.mp (by
    rw [isOverflowFifo] at healthy
    rw [bne, healthy]
    rfl)
  have deep : (stream.handler.fifo.get stream.handler.customerPingPongFlag).depth ≠ 0 := by
    rw [customer.depthEq]
    exact Nat.ne_of_gt positive
  have element : poppedElement stream.handler (i16 id) =
      entryLinesAt (channelBase config) (readPlace config stream) := by
    rw [poppedElement, inv.mode]
    dsimp only
    rw [whole, i16_fits _ (by omega), u16_fits _ (by omega)]
  rw [vipre_pop_filled _ _ filled deep, element, frame_fifo_pop _ _ _ _ _ _ customer _ (by omega) unmarked (by omega) enough]
  rfl

theorem line_done_order (inInfo : EntryStruct) (shown : EntryShown (channelBase config) (readPlace config stream) inInfo)
    (number : Nat) (done : EntryStruct) (found : (stream.delivered ++ [inInfo])[number]? = some done) :
    EntryShown (channelBase config) (entryPlace (channelBase config) number) done := by
  rcases Nat.lt_or_ge number stream.delivered.length with before | after
  · rw [List.getElem?_append_left before] at found
    exact inv.inOrder number done found
  · rw [List.getElem?_append_right after] at found
    obtain ⟨index, entry⟩ := List.getElem?_eq_some_iff.mp found
    rw [List.length_singleton] at index
    have last : number = stream.delivered.length := by omega
    rw [List.getElem_singleton] at entry
    rw [last, ← entry]
    exact shown

include geometry in
theorem line_done_step (id : Int) (sound : DeliverySound id stream .entryDone) (next : LineStream)
    (taken : lineOpStep id stream .entryDone = some next) : LineStreamInv config next := by
  obtain ⟨inInfo, given, rest⟩ := Option.bind_eq_some_iff.mp taken
  obtain ⟨left, shown⟩ := inv.working inInfo given
  obtain ⟨healthy, same⟩ := sound
  have whole : id = entryLinesAt (channelBase config) (readPlace config stream) := (same inInfo given).symm.trans shown.height
  have frames : (channelBase config).lineNumPerFrame ≠ 0 := inv.framed.resolve_left (Nat.ne_of_gt (Nat.zero_lt_of_lt left))
  have enough := (entry_held config stream geometry inv left).1.enough
  have inFrame := read_place_fits config stream geometry frames
  have inOrder := line_done_order config stream inv inInfo shown
  have customer := line_customer config stream inv
  have counted : (stream.delivered ++ [inInfo]).length ≤ stream.accepted := by
    rw [List.length_append, List.length_singleton]
    exact left
  have ends : isLastEntryPopFifo (entryPopped config stream) = true ↔
      (readPlace config stream).line + entryLinesAt (channelBase config) (readPlace config stream) =
        (channelBase config).lineNumPerFrame := by
    rw [isLastEntryPopFifo, beq_iff_eq, entryPopped, customer.maxEq]
  rw [line_pop_entry config stream geometry inv left id healthy whole, vipreFinishPop] at rest
  by_cases last : (readPlace config stream).line + entryLinesAt (channelBase config) (readPlace config stream) =
      (channelBase config).lineNumPerFrame
  · have ahead : (writePlace config stream).frame = (readPlace config stream).frame + 1 := by
      rcases inv.tracks.fifos with ⟨same, -⟩ | ⟨ahead, -⟩
      · have writeIn := inv.tracks.writeIn
        rw [consumerTail, if_pos same] at enough
        omega
      · exact ahead
    have parted : stream.handler.producePingPongFlag = !stream.handler.customerPingPongFlag :=
      tracks_other_side _ _ _ _ inv.tracks ahead
    have flipped := tracks_pop_frame _ _ _ _ _ inv.tracks last ahead
    rw [if_pos (ends.mpr last)] at rest
    dsimp only at rest
    rw [if_neg fun differ => differ parted.symm] at rest
    cases rest
    refine ⟨inv.mode, inv.active, inv.baseEq, ?_, inv.producerInfo, inv.framed, counted, ?_, fun _ handed => (by cases handed),
      inOrder⟩
    · dsimp only
      rw [← parted]
      exact inv.producerInfo
    · rw [read_place_done, LinePos.advance, if_neg (by omega)]
      exact flipped
  · have within := tracks_pop_within _ _ _ _ (entryLinesAt (channelBase config) (readPlace config stream)) inv.tracks (by omega) (by
      rw [readableLines, ← consumerTail]
      omega)
    rw [if_neg fun ended => last (ends.mp ended)] at rest
    cases rest
    refine ⟨inv.mode, inv.active, inv.baseEq, inv.customerInfo, inv.producerInfo, inv.framed, counted, ?_,
      fun _ handed => (by cases handed), inOrder⟩
    rw [read_place_done, LinePos.advance, if_pos (by omega)]
    exact within

end Steps

theorem line_op_step (config : VipreConfigPar) (geometry : Geometry (channelBase config)) (id : Int) (stream : LineStream) (op : LineOp)
    (next : LineStream) (inv : LineStreamInv config stream) (sound : DeliverySound id stream op)
    (taken : lineOpStep id stream op = some next) : LineStreamInv config next := by
  cases op with
  | push => exact line_push_step config stream geometry inv id sound next taken
  | getEntry buffer ctrlInfo => exact line_get_step config stream geometry inv id buffer ctrlInfo sound next taken
  | entryDone => exact line_done_step config stream geometry inv id sound next taken

theorem line_geometry (config : VipreConfigPar) (passed : ¬ VipreRefused config) (entryPos : 0 < config.lineNum.toNat) :
    Geometry (channelBase config) where
  entryPos := entryPos
  entryMax := (vipre_limits config passed).2
  frameMax := (vipre_limits config passed).1
  depthMax := u16_lt ((config.bufferSize.toNat / config.lineStride.toNat : Nat) : Int)
  lineMax := config.lineStride.toNat_lt
  last := rfl

theorem line_inv_start (config : VipreConfigPar) : LineStreamInv config (lineStream (acceptedVipreStart config)) where
  mode := rfl
  active := rfl
  baseEq := rfl
  customerInfo := rfl
  producerInfo := rfl
  framed := .inl rfl
  counted := Nat.le_refl _
  tracks := {
    baseEq := rfl
    customerInfo := rfl
    producerInfo := rfl
    customerSide := rfl
    producerSide := rfl
    readIn := Nat.zero_le _
    writeIn := Nat.zero_le _
    fifos := .inl ⟨rfl, Nat.le_refl _, Nat.zero_le _, by
      have start : frameStart (channelBase config) 0 = 0 := by rw [frameStart, Nat.zero_mul, Nat.zero_mod]
      exact start ▸ frame_fifo_reset _ _ (frameStart (channelBase config) 0)⟩
    healthy := fun _ => ⟨EfifoStatus.noConfusion, EfifoStatus.noConfusion⟩ }
  working := fun _ given => (by cases given)
  inOrder := fun _ _ found => (by cases found)

theorem line_inv_delivered (config : VipreConfigPar) (stream : LineStream) (inv : LineStreamInv config stream) :
    LinesDelivered config stream where
  working := inv.working
  inOrder := inv.inOrder
  popped := ⟨(line_customer config stream inv).headEq, inv.tracks.customerSide⟩
  unpopped := fun _ => Nat.sub_le_iff_le_add'.mpr (tracks_bounded _ _ _ _ inv.tracks)

instance (id : Int) (stream : LineStream) (op : LineOp) : Decidable (DeliverySound id stream op) :=
  match op with
  | .push => inferInstanceAs (Decidable (_ → _ ∧ _ ∧ (_ → _ ∧ _)))
  | .getEntry _ _ => inferInstanceAs (Decidable (_ → _ ∧ _ ∧ _ ∧ _ ∧ _))
  | .entryDone => inferInstanceAs (Decidable (_ ∧ ∀ inInfo ∈ stream.working, _))

-- Every accepted line configuration, and every run whose steps are sound.
theorem nline_stream_delivered (config : VipreConfigPar) (start : SvipreHandler) (ops : List LineOp) (finish : LineStream)
    (accepted : vipreHandlerNlineConfig zeroVipre config = some (start, true))
    (guarded : Runs.Guarded (lineOpStep config.id.toNat) (DeliverySound config.id.toNat) (lineStream start) ops)
    (ran : Runs.run (lineOpStep config.id.toNat) (lineStream start) ops = some finish) : LinesDelivered config finish := by
  have passed : ¬ VipreRefused config := by
    intro refused
    rw [vipre_config_refused config refused] at accepted
    cases accepted
  rw [vipre_config_passed config passed] at accepted
  by_cases divisors : 0 < config.lineStride.toNat ∧ 0 < config.lineNum.toNat
  · rw [if_pos divisors] at accepted
    cases accepted
    have geometry := line_geometry config passed divisors.2
    have inv := Runs.guarded_run_invariant (lineOpStep config.id.toNat) (DeliverySound config.id.toNat) (LineStreamInv config)
      (fun stream op next inv sound taken => line_op_step config geometry config.id.toNat stream op next inv sound taken)
      _ finish ops (line_inv_start config) guarded ran
    exact line_inv_delivered config finish inv
  · rw [if_neg divisors] at accepted
    cases accepted

-- Frames of 8 lines in entries of 4, over a ring of 8 lines.
def lineConfig (id : UInt8) : VipreConfigPar := ⟨id, 1, 0, 0, 4, 16, 8, 64, 512, fun _ => 0x1000⟩

def linePitchBuffer : SvipreBuffer := ⟨0, 0, 64, 0, fun _ => 0⟩

def oneEntry : List LineOp := [.push, .getEntry linePitchBuffer zeroEntry, .entryDone]

-- The id of the front end is the size of an entry, and three of them are done.
theorem three_entries_delivered : ∃ finish,
    Runs.run (lineOpStep 4) (lineStream (acceptedVipreStart (lineConfig 4))) (oneEntry ++ oneEntry ++ oneEntry) = some finish ∧
      finish.delivered.length = 3 ∧ LinesDelivered (lineConfig 4) finish := by
  refine ⟨_, rfl, rfl, nline_stream_delivered (lineConfig 4) (acceptedVipreStart (lineConfig 4)) (oneEntry ++ oneEntry ++ oneEntry) _
    rfl ?_ rfl⟩
  decide +kernel

-- With an id of 0 an entry that is done stays in the FIFO.
theorem done_entry_stays : ¬ ∀ (config : VipreConfigPar) (start : SvipreHandler) (ops : List LineOp) (finish : LineStream),
    vipreHandlerNlineConfig zeroVipre config = some (start, true) →
      Runs.run (lineOpStep config.id.toNat) (lineStream start) ops = some finish → LinesDelivered config finish := by
  intro claim
  have delivered := claim (lineConfig 0) (acceptedVipreStart (lineConfig 0)) oneEntry _ rfl rfl
  exact absurd delivered.popped.1 (by decide)

end CsiDsp
