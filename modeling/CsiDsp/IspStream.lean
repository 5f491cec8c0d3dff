import CsiDsp.Base.Runs
import CsiDsp.LineTransfer

set_option autoImplicit false

namespace CsiDsp

open CInt

-- An entry the consumer took: its first line, its length and its address.
structure StreamEntry where
  pos : LinePos
  count : Nat
  addr : Nat
deriving DecidableEq, Repr

def entryLines (pos : LinePos) (count : Nat) : List LinePos := (List.range' pos.line count).map (LinePos.mk pos.frame)

-- The first total lines of the frames 0, 1, 2, ... of the given height.
def streamLines (height total : Nat) : List LinePos := (List.range total).map fun i => ⟨i / height, i % height⟩

theorem stream_lines_entry (height : Nat) (pos : LinePos) (count : Nat) (inFrame : pos.line + count ≤ height) :
    streamLines height (pos.index height) ++ entryLines pos count = streamLines height (pos.index height + count) := by
  rw [streamLines, streamLines, List.range_add, List.map_append, List.map_map, entryLines, List.range'_eq_map_range, List.map_map]
  congr 1
  apply List.map_congr_left
  intro k inEntry
  have small : k < count := List.mem_range.mp inEntry
  have positive : 0 < height := by omega
  have regroup : pos.index height + k = pos.line + k + height * pos.frame := by
    rw [LinePos.index, Nat.mul_comm]
    omega
  simp only [Function.comp_apply, regroup, Nat.add_mul_div_left _ _ positive, Nat.add_mul_mod_self_left,
    Nat.div_eq_of_lt (show pos.line + k < height by omega), Nat.mod_eq_of_lt (show pos.line + k < height by omega), Nat.zero_add]

theorem stream_lines_prefix (height first total : Nat) (order : first ≤ total) :
    streamLines height first <+: streamLines height total := by
  obtain ⟨rest, sum⟩ := Nat.exists_eq_add_of_le order
  rw [sum, streamLines, streamLines, List.range_add, List.map_append]
  exact List.prefix_append _ _

-- The ISP with its consumer. Beside the handler stand the frame whose lines
-- each FIFO records, the lines recorded so far, the entry the consumer works on
-- and the entries it has given back.
structure IspStream where
  handler : SispHandler
  frames : PingPong Nat
  pushed : List LinePos
  got : Option (LinePos × SispBuffer × SispBuffer)
  consumed : List StreamEntry
deriving DecidableEq, Repr

def startStream (handler : SispHandler) : IspStream := ⟨handler, .const 0, [], none, []⟩

-- The event getEntry carries what the caller's buffer list holds before the call.
inductive StreamEvent where
  | nLines
  | getEntry (list : SispBuffer × SispBuffer)
  | popEntry
deriving DecidableEq, Repr

def IspStream.writePos (stream : IspStream) : LinePos :=
  ⟨stream.frames.get stream.handler.producePingPongFlag, (stream.handler.fifo.get stream.handler.producePingPongFlag).tail⟩

def IspStream.readPos (stream : IspStream) : LinePos :=
  ⟨stream.frames.get stream.handler.customerPingPongFlag, (stream.handler.fifo.get stream.handler.customerPingPongFlag).head⟩

-- The next entry of the frame: a full one, or what is left of the frame.
def nextEntrySize (handler : SispHandler) : Nat :=
  let info := handler.info.get handler.producePingPongFlag
  min info.lineNumPerEntry (info.lineNumPerFrame - (handler.fifo.get handler.producePingPongFlag).tail)

-- The side the producer has switched to records the next frame.
def relabel (frames : PingPong Nat) (before after : Bool) (frame : Nat) : PingPong Nat :=
  if after ≠ before then frames.set after (frame + 1) else frames

def streamStep (stream : IspStream) : StreamEvent → Option IspStream
  | .nLines =>
      let count := nextEntrySize stream.handler
      if count = 0 then none
      else do
        let (handler, recorded) ← ispcPushNewLine stream.handler count
        if recorded then
          some { stream with
            handler := handler
            pushed := stream.pushed ++ entryLines stream.writePos count
            frames := relabel stream.frames stream.handler.producePingPongFlag handler.producePingPongFlag stream.writePos.frame }
        else some { stream with handler := handler }
  | .getEntry list => do
      let (handler, list, found) ← ispGetNextEntry stream.handler list
      some { stream with handler := handler, got := if found then some (stream.readPos, list) else none }
  | .popEntry =>
      match stream.got with
      | none => none
      | some (pos, list) =>
          let count := list.1.lineNum + list.2.lineNum
          let (handler, popped) := ispPopNLine stream.handler (u16 count)
          some { stream with
            handler := handler
            got := none
            consumed := if popped then stream.consumed ++ [⟨pos, count, list.1.startAddr⟩] else stream.consumed }

def consumedLines (stream : IspStream) : List LinePos :=
  stream.consumed.flatMap fun entry => entryLines entry.pos entry.count

-- What the consumer has taken is a prefix of what the producer recorded, the
-- producer recorded the frames without a gap, and each entry was read from its
-- place in the ring.
structure StreamIntact (stream : IspStream) : Prop where
  inOrder : consumedLines stream <+: stream.pushed
  complete : stream.pushed = streamLines stream.handler.base.lineNumPerFrame stream.pushed.length
  placed : ∀ entry ∈ stream.consumed, entry.addr = lineAddr stream.handler.base entry.pos

-- The ring is too short for the producer to run a whole frame ahead, or the
-- last entry of a frame is short and no frame is ever finished.
def Shallow (base : SispControlInfo) : Prop :=
  ¬ base.lineNumPerEntry ∣ base.lineNumPerFrame ∨ base.lineNumPerBuffer < base.lineNumPerFrame + base.lineNumPerEntry

-- The invariant of a stream without an error.
structure StreamAt (base : SispControlInfo) (stream : IspStream) (read write : LinePos) : Prop where
  tracks : Tracks base stream.handler read write
  readFrame : stream.frames.get stream.handler.customerPingPongFlag = read.frame
  writeFrame : stream.frames.get stream.handler.producePingPongFlag = write.frame
  readAligned : base.lineNumPerEntry ∣ read.line
  writeAligned : base.lineNumPerEntry ∣ write.line
  finished : base.lineNumPerEntry ∣ base.lineNumPerFrame ∨ write.frame = 0
  recorded : stream.pushed = streamLines base.lineNumPerFrame (write.index base.lineNumPerFrame)
  taken : consumedLines stream = streamLines base.lineNumPerFrame (read.index base.lineNumPerFrame)
  pending : ∀ pos list, stream.got = some (pos, list) →
    pos = read ∧ EntryAt base read list ∧ base.lineNumPerEntry ≤ readableLines base read write
  placed : ∀ entry ∈ stream.consumed, entry.addr = lineAddr base entry.pos

structure StreamInv (base : SispControlInfo) (stream : IspStream) : Prop where
  baseEq : stream.handler.base = base
  intact : stream.handler.status = .ok → ∃ read write, StreamAt base stream read write

section Stream

variable (base : SispControlInfo) (stream : IspStream) (read write : LinePos)

theorem stream_write_pos (held : StreamAt base stream read write) : stream.writePos = write := by
  have fifo := tracked_producer_fifo base stream.handler read write held.tracks
  rw [IspStream.writePos, held.writeFrame, fifo.tailEq]

theorem stream_read_pos (held : StreamAt base stream read write) : stream.readPos = read := by
  have fifo := tracked_customer_fifo base stream.handler read write held.tracks
  rw [IspStream.readPos, held.readFrame, fifo.headEq]

theorem stream_entry_size (held : StreamAt base stream read write) :
    nextEntrySize stream.handler = min base.lineNumPerEntry (base.lineNumPerFrame - write.line) := by
  have fifo := tracked_producer_fifo base stream.handler read write held.tracks
  simp only [nextEntrySize, held.tracks.producerInfo, fifo.tailEq]

-- In a shallow ring the producer never completes a frame ahead of the consumer.
theorem stream_flip_together (held : StreamAt base stream read write) (shallow : Shallow base) (geometry : Geometry base)
    (room : heldLines base read write + base.lineNumPerEntry ≤ base.lineNumPerBuffer)
    (fills : write.line + base.lineNumPerEntry = base.lineNumPerFrame) :
    write.frame = read.frame ∧ frameStart base (write.frame + 1) < 32768 := by
  rcases shallow with ragged | short
  · refine absurd ?_ ragged
    rw [← fills]
    exact Nat.dvd_add held.writeAligned (Nat.dvd_refl _)
  · exact tracked_flip_together base stream.handler read write held.tracks geometry held.readAligned held.writeAligned short room fills

theorem relabel_same (frames : PingPong Nat) (side : Bool) (frame : Nat) : relabel frames side side frame = frames := by
  simp [relabel]

theorem relabel_flip (frames : PingPong Nat) (side : Bool) (frame : Nat) :
    relabel frames side (!side) frame = frames.set (!side) (frame + 1) := by
  simp [relabel]

theorem stream_relabel (held : StreamAt base stream read write) (handler : SispHandler) (next : LinePos)
    (tracks : Tracks base handler read next)
    (moved : next.frame = write.frame ∨ (next.frame = write.frame + 1 ∧ write.frame = read.frame)) :
    let frames := relabel stream.frames stream.handler.producePingPongFlag handler.producePingPongFlag write.frame
    frames.get handler.customerPingPongFlag = read.frame ∧ frames.get handler.producePingPongFlag = next.frame := by
  have readFrame := held.readFrame
  have writeFrame := held.writeFrame
  rw [held.tracks.customerSide] at readFrame
  rw [held.tracks.producerSide] at writeFrame
  rw [held.tracks.producerSide, tracks.producerSide, tracks.customerSide]
  rcases moved with kept | ⟨flipped, same⟩
  · rw [kept, relabel_same]
    exact ⟨readFrame, writeFrame⟩
  · rw [flipped, frame_side_succ, relabel_flip, ← same]
    exact ⟨by simpa using writeFrame, by simp⟩

theorem stream_push_full (held : StreamAt base stream read write) (geometry : Geometry base) (shallow : Shallow base)
    (ok : stream.handler.status = .ok) (inFrame : write.line + base.lineNumPerEntry ≤ base.lineNumPerFrame)
    (room : heldLines base read write + base.lineNumPerEntry ≤ base.lineNumPerBuffer) :
    ∃ next, streamStep stream .nLines = some next ∧
      StreamAt base next read (write.advance base.lineNumPerFrame base.lineNumPerEntry) := by
  have positive := geometry.entryPos
  have together := stream_flip_together base stream read write held shallow geometry room
  have size : nextEntrySize stream.handler = base.lineNumPerEntry := by
    rw [stream_entry_size base stream read write held]
    omega
  obtain ⟨handler, pushed, _, tracks⟩ := tracked_push base stream.handler read write base.lineNumPerEntry geometry held.tracks
    ok (.inl ⟨Nat.le_refl _, by omega⟩) room inFrame together
  have nonzero : base.lineNumPerEntry ≠ 0 := by omega
  have position := stream_write_pos base stream read write held
  have forward := advance_frame base.lineNumPerFrame base.lineNumPerEntry write inFrame
  have labels := stream_relabel base stream read write held handler _ tracks (by
    rcases forward with ⟨kept, -⟩ | ⟨flipped, fills⟩
    · exact .inl kept
    · exact .inr ⟨flipped, (together fills).1⟩)
  refine ⟨{ stream with
    handler := handler
    pushed := stream.pushed ++ entryLines stream.writePos base.lineNumPerEntry
    frames := relabel stream.frames stream.handler.producePingPongFlag handler.producePingPongFlag stream.writePos.frame },
    by simp [streamStep, size, nonzero, pushed], ?_⟩
  rw [position]
  refine { tracks := tracks, readFrame := labels.1, writeFrame := labels.2, readAligned := held.readAligned,
           writeAligned := advance_aligned _ _ _ held.writeAligned, finished := ?_, recorded := ?_,
           taken := held.taken, pending := ?_, placed := held.placed }
  · rcases forward with ⟨kept, -⟩ | ⟨-, fills⟩
    · simpa only [kept] using held.finished
    · refine .inl ?_
      rw [← fills]
      exact Nat.dvd_add held.writeAligned (Nat.dvd_refl _)
  · show stream.pushed ++ entryLines write base.lineNumPerEntry = _
    rw [held.recorded, stream_lines_entry _ _ _ inFrame, advance_index _ _ _ inFrame]
  · intro pos list got
    obtain ⟨atRead, entry, stored⟩ := held.pending pos list got
    exact ⟨atRead, entry, Nat.le_trans stored (readable_grows base read write geometry inFrame fun fills => (together fills).1)⟩

theorem stream_readable_aligned (held : StreamAt base stream read write) :
    base.lineNumPerEntry ∣ readableLines base read write := by
  have order := tracks_frames base stream.handler read write held.tracks
  apply readable_aligned base read write held.readAligned held.writeAligned
  rcases held.finished with whole | first
  · exact .inr whole
  · exact .inl (by omega)

theorem stream_entry_near (held : StreamAt base stream read write) (shallow : Shallow base) (geometry : Geometry base)
    (stored : 0 < readableLines base read write) : ringLine base read * base.sizePerLine < 2147483648 := by
  have depth := tracked_depth base stream.handler read write held.tracks
  have readIn := held.tracks.readIn
  have entryMax := entry_bound base geometry
  have frameMax := frame_bound base geometry
  have lineMax := geometry.lineMax
  have low : ringLine base read ≤ 11383 := by
    rcases shallow with ragged | shallow
    · have first : write.frame = 0 := held.finished.resolve_left ragged
      have zero : read.frame = 0 := by
        rcases held.tracks.fifos with ⟨same, -⟩ | ⟨ahead, -⟩ <;> omega
      have inRing : ringLine base read ≤ read.line := by
        rw [ringLine, zero, Nat.zero_mul, Nat.zero_add]
        exact Nat.mod_le _ _
      omega
    · have below : ringLine base read < base.lineNumPerBuffer := Nat.mod_lt _ (by omega)
      omega
  calc ringLine base read * base.sizePerLine ≤ 11383 * 65535 := Nat.mul_le_mul low (by omega)
    _ < 2147483648 := by decide

theorem stream_pop_full (held : StreamAt base stream read write) (geometry : Geometry base) (ok : stream.handler.status = .ok)
    (pos : LinePos) (list : SispBuffer × SispBuffer) (got : stream.got = some (pos, list)) :
    ∃ next, streamStep stream .popEntry = some next ∧
      StreamAt base next (read.advance base.lineNumPerFrame base.lineNumPerEntry) write := by
  obtain ⟨atRead, placed, stored⟩ := held.pending pos list got
  have positive := geometry.entryPos
  have entryMax := entry_bound base geometry
  have inFrame : read.line + base.lineNumPerEntry ≤ base.lineNumPerFrame := by
    have writeIn := held.tracks.writeIn
    unfold readableLines at stored
    split at stored <;> omega
  obtain ⟨handler, popped, _, tracks⟩ := tracked_pop_line base stream.handler read write base.lineNumPerEntry held.tracks
    geometry ok positive stored
  refine ⟨{ stream with
    handler := handler
    got := none
    consumed := stream.consumed ++ [⟨pos, base.lineNumPerEntry, list.1.startAddr⟩] }, ?_, ?_⟩
  · simp only [streamStep, got, placed.2.1, u16_fits _ (show base.lineNumPerEntry < 65536 by omega), ispPopNLine, popped, if_true]
  · refine { tracks := tracks, readFrame := ?_, writeFrame := ?_, readAligned := advance_aligned _ _ _ held.readAligned,
             writeAligned := held.writeAligned, finished := held.finished, recorded := held.recorded, taken := ?_,
             pending := (fun _ _ none_left => by cases none_left), placed := ?_ }
    · have before := tracks_frames base stream.handler read write held.tracks
      have after := tracks_frames base handler _ write tracks
      have readFrame := held.readFrame
      have writeFrame := held.writeFrame
      rw [held.tracks.customerSide] at readFrame
      rw [held.tracks.producerSide] at writeFrame
      rw [tracks.customerSide]
      rcases advance_frame base.lineNumPerFrame base.lineNumPerEntry read inFrame with ⟨kept, -⟩ | ⟨flipped, -⟩
      · rw [kept]
        exact readFrame
      · have together : (read.advance base.lineNumPerFrame base.lineNumPerEntry).frame = write.frame := by omega
        rw [together]
        exact writeFrame
    · have writeFrame := held.writeFrame
      rw [held.tracks.producerSide] at writeFrame
      rw [tracks.producerSide]
      exact writeFrame
    · show (stream.consumed ++ [_]).flatMap _ = _
      rw [List.flatMap_append, ← consumedLines, held.taken, List.flatMap_singleton, atRead, stream_lines_entry _ _ _ inFrame,
        advance_index _ _ _ inFrame]
    · intro entry member
      rcases List.mem_append.mp member with old | fresh
      · exact held.placed entry old
      · rw [List.mem_singleton.mp fresh, atRead]
        exact placed.1

variable (inv : StreamInv base stream) (geometry : Geometry base) (shallow : Shallow base)

include inv geometry shallow

theorem stream_push_step (next : IspStream) (taken : streamStep stream .nLines = some next) : StreamInv base next := by
  by_cases ok : stream.handler.status = .ok
  · obtain ⟨read, write, held⟩ := inv.intact ok
    by_cases inFrame : write.line + base.lineNumPerEntry ≤ base.lineNumPerFrame
    · by_cases room : heldLines base read write + base.lineNumPerEntry ≤ base.lineNumPerBuffer
      · obtain ⟨after, pushed, heldNext⟩ := stream_push_full base stream read write held geometry shallow ok inFrame room
        rw [pushed] at taken
        cases taken
        exact ⟨heldNext.tracks.baseEq, fun _ => ⟨_, _, heldNext⟩⟩
      · have size : nextEntrySize stream.handler = base.lineNumPerEntry := by
          rw [stream_entry_size base stream read write held]
          omega
        have nonzero : base.lineNumPerEntry ≠ 0 := Nat.ne_of_gt geometry.entryPos
        obtain ⟨handler, refused, status, tracks⟩ := tracked_push_crowded base stream.handler read write base.lineNumPerEntry
          geometry held.tracks ok (.inl ⟨Nat.le_refl _, by omega⟩) (by omega)
        simp only [streamStep, size, if_neg nonzero, refused, Option.bind_eq_bind, Option.bind_some, Bool.false_eq_true,
          if_false, Option.some.injEq] at taken
        subst taken
        exact ⟨tracks.baseEq, fun healthy => by simp [status] at healthy⟩
    · by_cases none_left : nextEntrySize stream.handler = 0
      · simp [streamStep, none_left] at taken
      · have size := stream_entry_size base stream read write held
        have refused := tracked_push_short base stream.handler read write (nextEntrySize stream.handler) held.tracks ok
          (by omega) (by omega)
        simp only [streamStep, if_neg none_left, refused, Option.bind_eq_bind, Option.bind_some, Bool.false_eq_true,
          if_false, Option.some.injEq] at taken
        subst taken
        exact ⟨inv.baseEq, fun healthy => by simp at healthy⟩
  · by_cases none_left : nextEntrySize stream.handler = 0
    · simp [streamStep, none_left] at taken
    · simp only [streamStep, if_neg none_left, push_after_error _ _ ok, Option.bind_eq_bind, Option.bind_some,
        Bool.false_eq_true, if_false, Option.some.injEq] at taken
      subst taken
      exact ⟨inv.baseEq, fun healthy => absurd healthy ok⟩

theorem stream_get_step (list : SispBuffer × SispBuffer) (next : IspStream)
    (taken : streamStep stream (.getEntry list) = some next) : StreamInv base next := by
  by_cases ok : stream.handler.status = .ok
  · obtain ⟨read, write, held⟩ := inv.intact ok
    have nonempty := tracked_nonempty base stream.handler read write held.tracks
    by_cases empty : readableLines base read write = 0
    · rw [decide_eq_true empty] at nonempty
      simp only [streamStep, get_entry_empty _ list nonempty, Option.bind_eq_bind, Option.bind_some, Bool.false_eq_true,
        if_false, Option.some.injEq] at taken
      subst taken
      exact ⟨inv.baseEq, fun _ => ⟨read, write, { held with pending := fun _ _ got => by cases got }⟩⟩
    · have stored := Nat.le_of_dvd (by omega) (stream_readable_aligned base stream read write held)
      have near := stream_entry_near base stream read write held shallow geometry (by omega)
      obtain ⟨entry, found, placed⟩ := tracked_get_entry base stream.handler read write list geometry held.tracks ok stored near
      simp only [streamStep, found, Option.bind_eq_bind, Option.bind_some, if_true, Option.some.injEq] at taken
      subst taken
      refine ⟨inv.baseEq, fun _ => ⟨read, write, { held with pending := ?_ }⟩⟩
      intro pos list got
      simp only [Option.some.injEq, Prod.mk.injEq] at got
      obtain ⟨atRead, same⟩ := got
      rw [← atRead, ← same, stream_read_pos base stream read write held]
      exact ⟨rfl, placed, stored⟩
  · simp only [streamStep, get_entry_after_error _ list ok, Option.bind_eq_bind, Option.bind_some, Bool.false_eq_true,
      if_false, Option.some.injEq] at taken
    subst taken
    exact ⟨inv.baseEq, fun healthy => absurd healthy ok⟩

omit shallow in
theorem stream_pop_step (next : IspStream) (taken : streamStep stream .popEntry = some next) : StreamInv base next := by
  cases got : stream.got with
  | none => simp [streamStep, got] at taken
  | some entry =>
      obtain ⟨pos, list⟩ := entry
      by_cases ok : stream.handler.status = .ok
      · obtain ⟨read, write, held⟩ := inv.intact ok
        obtain ⟨after, popped, heldNext⟩ := stream_pop_full base stream read write held geometry ok pos list got
        rw [popped] at taken
        cases taken
        exact ⟨heldNext.tracks.baseEq, fun _ => ⟨_, _, heldNext⟩⟩
      · simp only [streamStep, got, ispPopNLine, pop_after_error _ _ ok, Bool.false_eq_true, if_false, Option.some.injEq] at taken
        subst taken
        exact ⟨inv.baseEq, fun healthy => absurd healthy ok⟩

theorem stream_step_inv (event : StreamEvent) (next : IspStream) (taken : streamStep stream event = some next) :
    StreamInv base next := by
  cases event with
  | nLines => exact stream_push_step base stream inv geometry shallow next taken
  | getEntry list => exact stream_get_step base stream inv geometry shallow list next taken
  | popEntry => exact stream_pop_step base stream inv geometry next taken

omit geometry shallow in
theorem stream_inv_intact (ok : stream.handler.status = .ok) : StreamIntact stream := by
  obtain ⟨read, write, held⟩ := inv.intact ok
  refine ⟨?_, ?_, ?_⟩
  · rw [held.taken, held.recorded]
    exact stream_lines_prefix _ _ _ (tracks_ordered base stream.handler read write held.tracks)
  · rw [held.recorded, inv.baseEq]
    simp [streamLines]
  · rw [inv.baseEq]
    exact held.placed

end Stream

theorem stream_start_inv (handler : SispHandler) (base : SispControlInfo) :
    StreamInv base (startStream (ispcStart handler base)) := by
  refine ⟨rfl, fun _ => ⟨⟨0, 0⟩, ⟨0, 0⟩, tracks_start base handler, ?_, ?_, Nat.dvd_zero _, Nat.dvd_zero _, .inr rfl,
    ?_, ?_, ?_, ?_⟩⟩
  · simp [startStream]
  · simp [startStream]
  · simp [startStream, LinePos.index, streamLines]
  · simp [startStream, consumedLines, LinePos.index, streamLines]
  · intro pos list got
    cases got
  · intro entry member
    cases member

-- The line stream of an accepted configuration stays intact as long as the
-- ISP reports no error.
theorem isp_stream_intact (handler start : SispHandler) (config : SispConfigPar) (events : List StreamEvent)
    (finish : IspStream) (accepted : ispHandlerConfig handler config = some (start, .ok)) (shallow : Shallow start.base)
    (ran : Runs.run streamStep (startStream start) events = some finish) (ok : finish.handler.status = .ok) :
    StreamIntact finish := by
  obtain ⟨base, geometry, -, begun⟩ := isp_config_start handler start config accepted
  have same : start.base = base := by rw [begun]; rfl
  rw [same] at shallow
  have inv := Runs.run_invariant streamStep (StreamInv base)
    (fun stream event next held taken => stream_step_inv base stream held geometry shallow event next taken)
    (startStream start) finish events (by rw [begun]; exact stream_start_inv handler base) ran
  exact stream_inv_intact base finish inv ok

def smallIsp (bufferSize : UInt32) : SispHandler :=
  ((ispHandlerConfig (zeroHandler 0) (smallIspConfig bufferSize)).map Prod.fst).getD (zeroHandler 0)

def noBuffers : SispBuffer × SispBuffer := (⟨0, 0, 0, 0, 0⟩, ⟨0, 0, 0, 0, 0⟩)

-- A ring of one frame and a consumer that lags across the frame boundary.
def shallowStream : Option IspStream := Runs.run streamStep (startStream (smallIsp 512))
  [.nLines, .getEntry noBuffers, .nLines, .popEntry, .nLines, .getEntry noBuffers, .popEntry, .nLines, .getEntry noBuffers, .popEntry]

theorem isp_stream_intact_one_frame_ring : StreamIntact (shallowStream.get (by decide)) :=
  isp_stream_intact (zeroHandler 0) (smallIsp 512) (smallIspConfig 512) _ _ (by decide) (by unfold Shallow; decide)
    (Option.some_get _).symm (by decide)

-- A ring of a frame and a half: the producer finishes frame 1 while the
-- consumer still has lines of frame 0 to read, and their FIFO is reset.
theorem isp_stream_drops_lines : ¬ ∀ (handler start : SispHandler) (config : SispConfigPar) (events : List StreamEvent)
    (finish : IspStream), ispHandlerConfig handler config = some (start, .ok) →
    Runs.run streamStep (startStream start) events = some finish → finish.handler.status = .ok → StreamIntact finish := by
  intro claim
  let events : List StreamEvent := [.nLines, .nLines, .nLines, .getEntry noBuffers, .popEntry, .nLines, .nLines,
    .getEntry noBuffers, .popEntry]
  have intact := claim (zeroHandler 0) (smallIsp 768) (smallIspConfig 768) events
    ((Runs.run streamStep (startStream (smallIsp 768)) events).get (by decide)) (by decide) (Option.some_get _).symm (by decide)
  exact absurd intact.inOrder (by decide)

end CsiDsp
