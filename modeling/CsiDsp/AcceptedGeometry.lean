import CsiDsp.FrontEnd
import CsiDsp.IspStream
import CsiDsp.PostIspRing

set_option autoImplicit false

namespace CsiDsp

open CInt

-- The ISP fed entry by entry, with the front end wrapper as its consumer.
-- produced and popped count lines, refused is set when a push or a get on a
-- FIFO with lines fails.
structure IspFeed where
  handler : SispHandler
  got : Option EntryStruct
  produced : Nat
  popped : Nat
  refused : Bool
deriving DecidableEq, Repr

def startFeed (handler : SispHandler) : IspFeed := ⟨handler, none, 0, 0, false⟩

-- The event getEntry carries the caller's buffer list and entry before the call.
inductive FeedEvent where
  | produce
  | getEntry (list : SispBuffer × SispBuffer) (ctrlInfo : EntryStruct)
  | popEntry
deriving DecidableEq, Repr

-- Full entries, and at the end of each frame one of line_num_in_last_entry lines.
def nextEntryLines (feed : IspFeed) : Nat :=
  let base := feed.handler.base
  if feed.produced % base.lineNumPerFrame + base.lineNumInLastEntry = base.lineNumPerFrame then base.lineNumInLastEntry
  else base.lineNumPerEntry

def feedStep (feed : IspFeed) : FeedEvent → Option IspFeed
  | .produce => do
      let count := nextEntryLines feed
      let (handler, pushed) ← ispcPushNewLine feed.handler count
      some { feed with handler := handler, produced := feed.produced + count, refused := feed.refused || !pushed }
  | .getEntry list ctrlInfo => do
      let empty := isEmptyFifo (feed.handler.fifo.get feed.handler.customerPingPongFlag)
      let (handler, ctrlInfo, found) ← getIspNextEntry list feed.handler ctrlInfo
      some { feed with
        handler := handler
        got := if found then some ctrlInfo else none
        refused := feed.refused || (!empty && !found) }
  | .popEntry =>
      match feed.got with
      | none => none
      | some ctrlInfo =>
          let (handler, popped) := ispEntryDone feed.handler ctrlInfo
          some { feed with
            handler := handler
            got := none
            popped := if popped then feed.popped + ctrlInfo.height.toNat else feed.popped }

-- An entry is produced only while the consumer keeps its limit.
def FeedPaced (feed : IspFeed) : FeedEvent → Prop
  | .produce => feed.produced - feed.popped + feed.handler.base.lineNumPerEntry ≤ feed.handler.base.lineNumPerBuffer
  | _ => True

instance (feed : IspFeed) : ∀ event, Decidable (FeedPaced feed event)
  | .produce => inferInstanceAs (Decidable (_ ≤ _))
  | .getEntry _ _ => inferInstanceAs (Decidable True)
  | .popEntry => inferInstanceAs (Decidable True)

structure FeedWorks (feed : IspFeed) : Prop where
  accepted : feed.refused = false
  status : feed.handler.status = .ok
  producer : feed.handler.producePingPongFlag = frameSide (feed.produced / feed.handler.base.lineNumPerFrame)
  consumer : feed.handler.customerPingPongFlag = frameSide (feed.popped / feed.handler.base.lineNumPerFrame)

-- What the feed may ask for next comes back: no division traps on the way.
structure FeedReturns (feed : IspFeed) : Prop where
  pushes : FeedPaced feed .produce → (feedStep feed .produce).isSome
  gets : ∀ list ctrlInfo, (feedStep feed (.getEntry list ctrlInfo)).isSome
  pops : feed.got.isSome → (feedStep feed .popEntry).isSome

def IspRunsWork (start : SispHandler) : Prop := ∀ (events : List FeedEvent) (finish : IspFeed),
  Runs.Guarded feedStep FeedPaced (startFeed start) events → Runs.run feedStep (startFeed start) events = some finish →
  FeedWorks finish ∧ FeedReturns finish

def RingPaced (ring : PostIspRing) : RingEvent → Prop
  | .push => RingRoom ring
  | _ => True

instance (ring : PostIspRing) : ∀ event, Decidable (RingPaced ring event)
  | .getNext _ => inferInstanceAs (Decidable True)
  | .push => inferInstanceAs (Decidable (RingRoom ring))
  | .pop => inferInstanceAs (Decidable True)

structure RingWorks (ring : PostIspRing) : Prop where
  accepted : ring.refused = false
  status : ring.handler.status = .ok
  producer : ring.handler.producePingPongFlag = frameSide (ring.produced / ring.handler.base.lineNumPerFrame)
  consumer : ring.handler.customerPingPongFlag = frameSide (ring.popped / ring.handler.base.lineNumPerFrame)

structure RingReturns (ring : PostIspRing) : Prop where
  gets : ∀ entry, (ringStep ring (.getNext entry)).isSome
  pushes : RingPaced ring .push → ring.last.isSome → (ringStep ring .push).isSome
  pops : (ringStep ring .pop).isSome

def PostIspRunsWork (start : SispHandler) : Prop := ∀ (events : List RingEvent) (finish : PostIspRing),
  Runs.Guarded ringStep RingPaced (startRing start) events → Runs.run ringStep (startRing start) events = some finish →
  RingWorks finish ∧ RingReturns finish

structure FeedAt (base : SispControlInfo) (feed : IspFeed) (read write : LinePos) : Prop where
  tracks : Tracks base feed.handler read write
  readAligned : base.lineNumPerEntry ∣ read.line
  writeAligned : base.lineNumPerEntry ∣ write.line
  pending : ∀ ctrlInfo, feed.got = some ctrlInfo →
    ctrlInfo.height = base.lineNumPerEntry ∧ base.lineNumPerEntry ≤ readableLines base read write
  producedEq : feed.produced = write.index base.lineNumPerFrame
  poppedEq : feed.popped = read.index base.lineNumPerFrame

theorem index_frame (height : Nat) (pos : LinePos) (inFrame : pos.line < height) : pos.index height / height = pos.frame := by
  rw [LinePos.index, Nat.mul_comm, Nat.mul_add_div (by omega), Nat.div_eq_of_lt inFrame, Nat.add_zero]

section Feed

variable (base : SispControlInfo) (feed : IspFeed) (read write : LinePos)
variable (geometry : Geometry base) (even : EvenGeometry base) (used : base.lineNumUsedPerFrame = base.lineNumPerFrame)
variable (held : FeedAt base feed read write) (ok : feed.handler.status = .ok)

include geometry even held ok

theorem feed_produce (paced : FeedPaced feed .produce) :
    ∃ next, feedStep feed .produce = some next ∧ next.handler.status = .ok ∧ next.refused = feed.refused ∧
      FeedAt base next read (write.advance base.lineNumPerFrame base.lineNumPerEntry) := by
  have positive := geometry.entryPos
  have short := even.short
  have filled := even.filled
  have size : nextEntryLines feed = base.lineNumPerEntry := by
    simp only [nextEntryLines, held.tracks.baseEq, even_last_entry base geometry even, ite_self]
  have room : heldLines base read write + base.lineNumPerEntry ≤ base.lineNumPerBuffer := by
    simpa only [FeedPaced, held.producedEq, held.poppedEq, held.tracks.baseEq, heldLines] using paced
  have inFrame : write.line + base.lineNumPerEntry ≤ base.lineNumPerFrame := by
    have writeIn := held.tracks.writeIn
    have rest := Nat.le_of_dvd (by omega) (Nat.dvd_sub even.frames held.writeAligned)
    omega
  have together := tracked_flip_together base feed.handler read write held.tracks geometry held.readAligned held.writeAligned
    (by omega) room
  obtain ⟨handler, pushed, status, tracks⟩ := tracked_push base feed.handler read write base.lineNumPerEntry geometry held.tracks
    ok (.inl ⟨Nat.le_refl _, by omega⟩) room inFrame together
  refine ⟨{ feed with handler := handler, produced := feed.produced + base.lineNumPerEntry },
    by simp [feedStep, size, pushed], status, rfl, ?_⟩
  refine { tracks := tracks, readAligned := held.readAligned, writeAligned := advance_aligned _ _ _ held.writeAligned,
           pending := ?_, producedEq := ?_, poppedEq := held.poppedEq }
  · intro ctrlInfo got
    obtain ⟨sized, stored⟩ := held.pending ctrlInfo got
    exact ⟨sized, Nat.le_trans stored (readable_grows base read write geometry inFrame fun fills => (together fills).1)⟩
  · rw [advance_index _ _ _ inFrame, ← held.producedEq]

include used in
theorem feed_get (list : SispBuffer × SispBuffer) (ctrlInfo : EntryStruct) :
    ∃ next, feedStep feed (.getEntry list ctrlInfo) = some next ∧ next.handler.status = .ok ∧ next.refused = feed.refused ∧
      FeedAt base next read write := by
  have nonempty := tracked_nonempty base feed.handler read write held.tracks
  by_cases empty : readableLines base read write = 0
  · rw [decide_eq_true empty] at nonempty
    refine ⟨{ feed with got := none }, by simp [feedStep, nonempty, getIspNextEntry, get_entry_empty], ok, rfl, ?_⟩
    exact { held with pending := fun _ got => by cases got }
  · rw [decide_eq_false empty] at nonempty
    have aligned := readable_aligned base read write held.readAligned held.writeAligned (.inr even.frames)
    have stored := Nat.le_of_dvd (by omega) aligned
    have inside := ring_block_inside base even used read held.readAligned
    have short := even.short
    have frameMax := frame_bound base geometry
    have lineMax := geometry.lineMax
    have entryMax := entry_bound base geometry
    have near : ringLine base read * base.sizePerLine < 2147483648 := by
      calc ringLine base read * base.sizePerLine ≤ 3192 * 65535 := Nat.mul_le_mul (by omega) (by omega)
        _ < 2147483648 := by decide
    obtain ⟨entry, found, placed⟩ := tracked_get_entry base feed.handler read write list geometry held.tracks ok stored near
    obtain ⟨wholeBlock, noSecond⟩ := placed.2.2 inside
    refine ⟨{ feed with got := some {
        x := 0
        y := u16 (ispGetPopedLineNum feed.handler)
        height := i16 entry.1.lineNum
        fmt := i16 entry.2.fmt
        frameHeight := ispGetFrameHeight feed.handler
        pitch := i16 entry.1.lineSize
        pBuff := entry.1.startAddr
        frameMeta := zeroMeta } }, by simp [feedStep, nonempty, getIspNextEntry, found, noSecond], ok, rfl, ?_⟩
    refine { held with pending := ?_ }
    intro got same
    cases same
    exact ⟨by rw [wholeBlock, i16_fits _ (by omega)], stored⟩

theorem feed_pop (ctrlInfo : EntryStruct) (got : feed.got = some ctrlInfo) :
    ∃ next, feedStep feed .popEntry = some next ∧ next.handler.status = .ok ∧ next.refused = feed.refused ∧
      FeedAt base next (read.advance base.lineNumPerFrame base.lineNumPerEntry) write := by
  obtain ⟨sized, stored⟩ := held.pending ctrlInfo got
  have positive := geometry.entryPos
  have entryMax := entry_bound base geometry
  have inFrame : read.line + base.lineNumPerEntry ≤ base.lineNumPerFrame := by
    have writeIn := held.tracks.writeIn
    have short := even.short
    unfold readableLines at stored
    split at stored <;> omega
  obtain ⟨handler, popped, status, tracks⟩ := tracked_pop_line base feed.handler read write base.lineNumPerEntry held.tracks
    geometry ok positive stored
  have count : u16 (base.lineNumPerEntry : Int) = base.lineNumPerEntry := u16_fits _ (by omega)
  refine ⟨{ feed with handler := handler, got := none, popped := feed.popped + base.lineNumPerEntry }, ?_, status, rfl, ?_⟩
  · simp [feedStep, got, ispEntryDone, ispPopNLine, count, popped, sized]
  · refine { tracks := tracks, readAligned := advance_aligned _ _ _ held.readAligned, writeAligned := held.writeAligned,
             pending := (fun _ none_left => by cases none_left), producedEq := held.producedEq, poppedEq := ?_ }
    rw [advance_index _ _ _ inFrame, ← held.poppedEq]

include used in
theorem feed_step (event : FeedEvent) (next : IspFeed) (paced : FeedPaced feed event) (taken : feedStep feed event = some next) :
    next.handler.status = .ok ∧ next.refused = feed.refused ∧ ∃ read write, FeedAt base next read write := by
  cases event with
  | produce =>
      obtain ⟨after, stepped, status, accepted, kept⟩ := feed_produce base feed read write geometry even held ok paced
      rw [stepped] at taken
      cases taken
      exact ⟨status, accepted, _, _, kept⟩
  | getEntry list ctrlInfo =>
      obtain ⟨after, stepped, status, accepted, kept⟩ := feed_get base feed read write geometry even used held ok list ctrlInfo
      rw [stepped] at taken
      cases taken
      exact ⟨status, accepted, _, _, kept⟩
  | popEntry =>
      cases got : feed.got with
      | none => simp [feedStep, got] at taken
      | some ctrlInfo =>
          obtain ⟨after, stepped, status, accepted, kept⟩ := feed_pop base feed read write geometry even held ok ctrlInfo got
          rw [stepped] at taken
          cases taken
          exact ⟨status, accepted, _, _, kept⟩

include used in
theorem feed_returns : FeedReturns feed := by
  refine ⟨fun paced => ?_, fun list ctrlInfo => ?_, fun got => ?_⟩
  · obtain ⟨next, pushed, -⟩ := feed_produce base feed read write geometry even held ok paced
    exact Option.isSome_of_eq_some pushed
  · obtain ⟨next, handed, -⟩ := feed_get base feed read write geometry even used held ok list ctrlInfo
    exact Option.isSome_of_eq_some handed
  · obtain ⟨ctrlInfo, got⟩ := Option.isSome_iff_exists.mp got
    obtain ⟨next, popped, -⟩ := feed_pop base feed read write geometry even held ok ctrlInfo got
    exact Option.isSome_of_eq_some popped

end Feed

theorem feed_start_at (handler : SispHandler) (base : SispControlInfo) :
    FeedAt base (startFeed (ispcStart handler base)) ⟨0, 0⟩ ⟨0, 0⟩ := by
  refine ⟨tracks_start base handler, Nat.dvd_zero _, Nat.dvd_zero _, ?_, ?_, ?_⟩
  · intro ctrlInfo got
    cases got
  · simp [startFeed, LinePos.index]
  · simp [startFeed, LinePos.index]

theorem isp_runs_work (id : Nat) (config : SispConfigPar) (start : SispHandler)
    (accepted : ispHandlerConfig (zeroHandler id) config = some (start, .ok)) (even : EvenGeometry start.base) :
    IspRunsWork start := by
  intro events finish guarded ran
  obtain ⟨base, geometry, used, begun⟩ := isp_config_start (zeroHandler id) start config accepted
  have same : start.base = base := by rw [begun]; rfl
  rw [same] at even
  obtain ⟨status, noRefusal, read, write, held⟩ := Runs.guarded_run_invariant feedStep FeedPaced
    (fun feed => feed.handler.status = .ok ∧ feed.refused = false ∧ ∃ read write, FeedAt base feed read write)
    (by
      intro feed event next inv paced taken
      obtain ⟨ok, noRefusal, read, write, held⟩ := inv
      obtain ⟨status, same, kept⟩ := feed_step base feed read write geometry even used held ok event next paced taken
      exact ⟨status, same.trans noRefusal, kept⟩)
    (startFeed start) finish events
    ⟨by rw [begun]; rfl, rfl, _, _, by rw [begun]; exact feed_start_at (zeroHandler id) base⟩ guarded ran
  have filled := even.filled
  have short := even.short
  have readIn := held.tracks.readIn
  have writeIn := held.tracks.writeIn
  refine ⟨⟨noRefusal, status, ?_, ?_⟩, feed_returns base finish read write geometry even used held status⟩
  · rw [held.tracks.baseEq, held.producedEq, index_frame _ _ (by omega), held.tracks.producerSide]
  · rw [held.tracks.baseEq, held.poppedEq, index_frame _ _ (by omega), held.tracks.customerSide]

-- A ring in step with its stream answers whatever it is asked for.
theorem ring_returns (base : SispControlInfo) (ring : PostIspRing) (read write : LinePos) (geometry : Geometry base)
    (even : EvenGeometry base) (used : base.lineNumUsedPerFrame = base.lineNumPerFrame) (held : RingAt base ring read write)
    (ok : ring.handler.status = .ok) : RingReturns ring := by
  refine ⟨fun entry => ?_, fun room last => ?_, ?_⟩
  · obtain ⟨handed, found, -⟩ := ring_get_step base ring read write geometry even used held entry
    exact Option.isSome_of_eq_some found
  · obtain ⟨count, last⟩ := Option.isSome_iff_exists.mp last
    rw [RingPaced, RingRoom, held.tracks.baseEq] at room
    obtain ⟨next, pushed, -⟩ := ring_push_room base ring read write geometry even used held ok count last room
    exact Option.isSome_of_eq_some pushed
  · by_cases empty : isEmptyFifo (ring.handler.fifo.get ring.handler.customerPingPongFlag) = true
    · exact Option.isSome_of_eq_some (ring_pop_idle ring (.inr empty))
    · have nonempty := tracked_nonempty base ring.handler read write held.tracks
      rw [Bool.not_eq_true _ |>.mp empty, eq_comm, decide_eq_false_iff_not] at nonempty
      obtain ⟨next, popped, -⟩ := ring_pop_entry base ring read write geometry even held ok (Nat.pos_of_ne_zero nonempty)
      exact Option.isSome_of_eq_some popped

theorem post_isp_runs_work (id : Nat) (config : SispConfigPar) (start : SispHandler)
    (accepted : postIspHandlerConfig (zeroHandler id) config = some (start, .ok)) (even : EvenGeometry start.base) :
    PostIspRunsWork start := by
  intro events finish guarded ran
  obtain ⟨base, geometry, used, begun⟩ := post_isp_config_start (zeroHandler id) start config accepted
  have same : start.base = base := by rw [begun]; rfl
  rw [same] at even
  obtain ⟨status, noRefusal, read, write, held⟩ := Runs.guarded_run_invariant ringStep RingPaced
    (fun ring => ring.handler.status = .ok ∧ ring.refused = false ∧ ∃ read write, RingAt base ring read write)
    (by
      intro ring event next inv paced taken
      obtain ⟨ok, noRefusal, read, write, held⟩ := inv
      have step := ring_step base ring read write geometry even (used even) held event next taken
      obtain ⟨status, same⟩ := step.healthy (by
        intro isPush
        subst isPush
        rw [← held.tracks.baseEq]
        exact paced) ok
      exact ⟨status, same.trans noRefusal, step.inStep⟩)
    (startRing start) finish events
    ⟨by rw [begun]; rfl, rfl, _, _, by rw [begun]; exact ring_start_at (zeroHandler id) base⟩ guarded ran
  have filled := even.filled
  have short := even.short
  have readIn := held.tracks.readIn
  have writeIn := held.tracks.writeIn
  refine ⟨⟨noRefusal, status, ?_, ?_⟩, ring_returns base finish read write geometry even (used even) held status⟩
  · rw [held.tracks.baseEq, held.producedEq, index_frame _ _ (by omega), held.tracks.producerSide]
  · rw [held.tracks.baseEq, held.poppedEq, index_frame _ _ (by omega), held.tracks.customerSide]

-- Every accepted configuration of even geometry works, on the ISP and on the post ISP.
theorem even_geometry_works (id : Nat) (config : SispConfigPar) (start : SispHandler) (even : EvenGeometry start.base) :
    (ispHandlerConfig (zeroHandler id) config = some (start, .ok) → IspRunsWork start) ∧
    (postIspHandlerConfig (zeroHandler id) config = some (start, .ok) → PostIspRunsWork start) :=
  ⟨fun accepted => isp_runs_work id config start accepted even, fun accepted => post_isp_runs_work id config start accepted even⟩

def smallIspRun : List FeedEvent :=
  let entry : EntryStruct := ⟨0, 0, 0, 0, 0, 0, 0, zeroMeta⟩
  [.produce, .produce, .getEntry noBuffers entry, .popEntry, .produce, .getEntry noBuffers entry, .popEntry]

theorem even_geometry_works_two_frames :
    FeedWorks ((Runs.run feedStep (startFeed (smallIsp 512)) smallIspRun).get (by decide)) ∧
    RingWorks ((Runs.run ringStep (startRing smallPostIsp) [.getNext noBuffer, .push, .getNext noBuffer, .push, .pop,
      .getNext noBuffer, .push]).get (by decide)) :=
  ⟨(even_geometry_works 0 (smallIspConfig 512) (smallIsp 512) ⟨by decide, by decide, by decide, by decide⟩).1 (by decide)
      smallIspRun _ (by decide) (Option.some_get _).symm |>.1,
    ((even_geometry_works 0 smallPostIspConfig smallPostIsp ⟨by decide, by decide, by decide, by decide⟩).2 (by decide)
      _ _ (by decide) (Option.some_get _).symm).1⟩

-- Six lines a frame in entries of four: the last entry has two lines and its push is refused.
theorem short_last_entry_refused : ¬ ∀ (id : Nat) (config : SispConfigPar) (start : SispHandler),
    (ispHandlerConfig (zeroHandler id) config = some (start, .ok) → IspRunsWork start) ∧
    (postIspHandlerConfig (zeroHandler id) config = some (start, .ok) → PostIspRunsWork start) := by
  intro claim
  let config : SispConfigPar := ⟨0, 640, 6, 0, 4, 64, 512, 0x1000⟩
  let start := ((ispHandlerConfig (zeroHandler 0) config).map Prod.fst).getD (zeroHandler 0)
  have works := (claim 0 config start).1 (by decide) [.produce, .produce]
    ((Runs.run feedStep (startFeed start) [.produce, .produce]).get (by decide)) (by decide) (Option.some_get _).symm
  exact absurd works.1.status (by decide)

end CsiDsp
