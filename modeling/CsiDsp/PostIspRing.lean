import CsiDsp.Base.Runs
import CsiDsp.LineTransfer
import CsiDsp.PostIsp

set_option autoImplicit false

namespace CsiDsp

open CInt

-- Frames and ring hold whole entries, and the ring holds no more than a frame.
structure EvenGeometry (base : SispControlInfo) : Prop where
  frames : base.lineNumPerEntry ∣ base.lineNumPerFrame
  ring : base.lineNumPerEntry ∣ base.lineNumPerBuffer
  filled : 0 < base.lineNumPerBuffer
  short : base.lineNumPerBuffer ≤ base.lineNumPerFrame

-- The post ISP's ring and its two users. unread holds the ring lines that are
-- pushed and not yet popped, handedOut each entry that was returned as good
-- together with the unread lines of that moment.
structure PostIspRing where
  handler : SispHandler
  last : Option Nat
  unread : List Nat
  handedOut : List (SispBuffer × List Nat)
  produced : Nat
  popped : Nat
  refused : Bool
deriving DecidableEq, Repr

def startRing (handler : SispHandler) : PostIspRing := ⟨handler, none, [], [], 0, 0, false⟩

-- The event getNext carries what the caller's buffer holds before the call.
inductive RingEvent where
  | getNext (entry : SispBuffer)
  | push
  | pop
deriving DecidableEq, Repr

def nextLines (handler : SispHandler) (count : Nat) : List Nat :=
  match getTailFifo (handler.fifo.get handler.producePingPongFlag) with
  | some index => List.range' index.toNat count
  | none => []

def ringStep (ring : PostIspRing) : RingEvent → Option PostIspRing
  | .getNext entry => do
      let (handler, entry, ret) ← postIspGetNextEntry ring.handler entry
      some { ring with
        handler := handler
        last := some entry.lineNum
        handedOut := if ret = .ok then ring.handedOut ++ [(entry, ring.unread)] else ring.handedOut
        refused := ring.refused || ret != .ok }
  | .push => do
      let count ← ring.last
      let (handler, pushed) ← postIspPushEntry ring.handler count
      if pushed then
        some { ring with
          handler := handler
          unread := ring.unread ++ nextLines ring.handler count
          produced := ring.produced + count }
      else some { ring with handler := handler, refused := true }
  | .pop =>
      let count := postIspPopSize ring.handler
      let (handler, popped) := postIspPopEntry ring.handler
      if popped then some { ring with handler := handler, unread := ring.unread.drop count, popped := ring.popped + count }
      else some { ring with handler := handler }

-- An entry covers ring lines inside the buffer, none of which is unread.
def RegionSafe (base : SispControlInfo) (entry : SispBuffer) (unread : List Nat) : Prop :=
  ∃ line, entry.startAddr = u64 (base.frameBufferAddr + line * base.sizePerLine : Nat) ∧
    line + entry.lineNum ≤ base.lineNumPerBuffer ∧ ∀ cell ∈ List.range' line entry.lineNum, cell ∉ unread

instance (base : SispControlInfo) (entry : SispBuffer) (unread : List Nat) : Decidable (RegionSafe base entry unread) :=
  decidable_of_iff (∃ line < base.lineNumPerBuffer + 1,
      entry.startAddr = u64 (base.frameBufferAddr + line * base.sizePerLine : Nat) ∧
      line + entry.lineNum ≤ base.lineNumPerBuffer ∧ ∀ cell ∈ List.range' line entry.lineNum, cell ∉ unread)
    ⟨fun ⟨line, _, placed, inside, free⟩ => ⟨line, placed, inside, free⟩,
     fun ⟨line, placed, inside, free⟩ => ⟨line, by omega, placed, inside, free⟩⟩

def RegionsSafe (ring : PostIspRing) : Prop :=
  ∀ handed ∈ ring.handedOut, RegionSafe ring.handler.base handed.1 handed.2

def RingRoom (ring : PostIspRing) : Prop :=
  ring.unread.length + ring.handler.base.lineNumPerEntry ≤ ring.handler.base.lineNumPerBuffer

instance (ring : PostIspRing) : Decidable (RingRoom ring) := inferInstanceAs (Decidable (_ ≤ _))

structure RingAt (base : SispControlInfo) (ring : PostIspRing) (read write : LinePos) : Prop where
  tracks : Tracks base ring.handler read write
  readAligned : base.lineNumPerEntry ∣ read.line
  writeAligned : base.lineNumPerEntry ∣ write.line
  unreadEq : ring.unread = (trackedWindow base ring.handler read write tracks).cells
  lastEq : ∀ count, ring.last = some count → count = base.lineNumPerEntry
  producedEq : ring.produced = write.index base.lineNumPerFrame
  poppedEq : ring.popped = read.index base.lineNumPerFrame

section Ring

variable (base : SispControlInfo) (ring : PostIspRing) (read write : LinePos)
variable (geometry : Geometry base) (even : EvenGeometry base) (used : base.lineNumUsedPerFrame = base.lineNumPerFrame)
variable (held : RingAt base ring read write)

include geometry even in
theorem even_last_entry : base.lineNumInLastEntry = base.lineNumPerEntry := by
  rw [geometry.last, if_pos (Nat.mod_eq_zero_of_dvd even.frames)]

include used in
theorem ring_line_index (pos : LinePos) : ringLine base pos = pos.index base.lineNumPerFrame % base.lineNumPerBuffer := by
  rw [ringLine, LinePos.index, used]

include even in
theorem index_aligned (pos : LinePos) (aligned : base.lineNumPerEntry ∣ pos.line) :
    base.lineNumPerEntry ∣ pos.index base.lineNumPerFrame := by
  exact Nat.dvd_add (Nat.dvd_mul_left_of_dvd even.frames _) aligned

include even used in
theorem ring_block_inside (pos : LinePos) (aligned : base.lineNumPerEntry ∣ pos.line) :
    ringLine base pos + base.lineNumPerEntry ≤ base.lineNumPerBuffer := by
  rw [ring_line_index base used]
  exact Window.block_inside _ _ even.filled even.ring (index_aligned base even pos aligned)

include geometry even in
theorem ring_tail (handler : SispHandler) (tracks : Tracks base handler read write) :
    getTailFifo (handler.fifo.get handler.producePingPongFlag) = some ((ringLine base write : Nat) : Int) := by
  have fifo := tracked_producer_fifo base handler read write tracks
  have below := Nat.mod_lt (frameStart base write.frame + write.line) even.filled
  have frameMax := frame_bound base geometry
  have short := even.short
  rw [frame_fifo_tail _ _ _ _ _ _ fifo even.filled (by omega), ring_line_start]

include held in
theorem unread_length : ring.unread.length = heldLines base read write := by
  rw [held.unreadEq, Window.cells_length]
  rfl

include geometry even used held in
theorem ring_next_entry (entry : SispBuffer) : ∃ handed, postIspGetNextEntry ring.handler entry = some (ring.handler, handed, .ok) ∧
    handed.startAddr = lineAddr base write ∧ handed.lineNum = base.lineNumPerEntry := by
  have tail := ring_tail base read write geometry even ring.handler held.tracks
  have last := even_last_entry base geometry even
  have inside := ring_block_inside base even used write held.writeAligned
  have positive := geometry.entryPos
  have lineMax := geometry.lineMax
  have frameMax := frame_bound base geometry
  have short := even.short
  have near : ringLine base write * base.sizePerLine < 2147483648 := by
    calc ringLine base write * base.sizePerLine ≤ 3192 * 65535 := Nat.mul_le_mul (by omega) (by omega)
      _ < 2147483648 := by decide
  have aligned : ringLine base write % base.lineNumPerEntry = 0 := by
    rw [ring_line_index base used, Nat.mod_mod_of_dvd _ even.ring]
    exact Nat.mod_eq_zero_of_dvd (index_aligned base even write held.writeAligned)
  have remainder : Int.tmod (ringLine base write : Int) (base.lineNumPerEntry : Int) = 0 := by
    rw [tmod_nat, aligned]
    rfl
  have product : (ringLine base write : Int) * (base.sizePerLine : Int) = ((ringLine base write * base.sizePerLine : Nat) : Int) := by
    rw [Int.natCast_mul]
  have address : u64 ((base.frameBufferAddr : Int) + i32 ((ringLine base write : Int) * (base.sizePerLine : Int))) =
      lineAddr base write := by
    rw [product, i32_fits _ near, lineAddr, Int.natCast_add]
  refine ⟨⟨base.format, base.lineNumPerEntry, u32 (base.lineNumPerEntry * base.sizePerLine : Nat), base.sizePerLine,
    lineAddr base write⟩, ?_, rfl, rfl⟩
  have nonneg : ¬ (ringLine base write : Int) < 0 := by omega
  have nonzero : ¬ base.lineNumPerEntry = 0 := by omega
  simp only [postIspGetNextEntry, held.tracks.producerInfo, tail, Option.bind_eq_bind, Option.bind_some, if_neg nonneg,
    if_neg nonzero, remainder, ne_eq, not_true_eq_false, if_false, last, ite_self, address]

include even used held in
theorem ring_push_cells : (trackedWindow base ring.handler read write held.tracks).pushCells base.lineNumPerEntry =
    List.range' (ringLine base write) base.lineNumPerEntry := by
  have inside := ring_block_inside base even used write held.writeAligned
  rw [ring_line_index base used] at inside ⊢
  exact Window.block_cells _ _ inside

-- The next entry is free of unread lines exactly when the ring has room for it.
include even used held in
theorem ring_entry_free_iff : (∀ cell ∈ List.range' (ringLine base write) base.lineNumPerEntry, cell ∉ ring.unread) ↔
    ring.unread.length + base.lineNumPerEntry ≤ base.lineNumPerBuffer := by
  have fits := Nat.le_of_dvd even.filled even.ring
  have room := Window.room_iff_disjoint (trackedWindow base ring.handler read write held.tracks) base.lineNumPerEntry fits
  rw [ring_push_cells base ring read write even used held, ← held.unreadEq] at room
  rw [← room, held.unreadEq, Window.cells_length]
  have order := (trackedWindow base ring.handler read write held.tracks).ordered
  omega

include geometry even used held in
theorem ring_get_step (entry : SispBuffer) : ∃ handed, ringStep ring (.getNext entry) = some { ring with
      last := some base.lineNumPerEntry
      handedOut := ring.handedOut ++ [(handed, ring.unread)] } ∧
    handed.startAddr = lineAddr base write ∧ handed.lineNum = base.lineNumPerEntry := by
  obtain ⟨handed, found, placed, sized⟩ := ring_next_entry base ring read write geometry even used held entry
  exact ⟨handed, by simp [ringStep, found, sized], placed, sized⟩

theorem ring_push_error (count : Nat) (last : ring.last = some count) (failed : ring.handler.status ≠ .ok) :
    ringStep ring .push = some { ring with refused := true } := by
  simp [ringStep, last, postIspPushEntry, push_after_error _ _ failed]

theorem post_isp_push_entry (handler next : SispHandler) (count : Nat) (pushed : ispcPushNewLine handler count = some (next, true)) :
    ∃ value, postIspPushEntry handler count = some ({ next with currentNValue := value }, true) :=
  ⟨u16 (ispcGetPushedLineNum next), by simp [postIspPushEntry, pushed]⟩

theorem tracks_trigger (handler : SispHandler) (value : Nat) (tracks : Tracks base handler read write) :
    Tracks base { handler with currentNValue := value } read write := by
  obtain ⟨baseEq, customerInfo, producerInfo, customerSide, producerSide, readIn, writeIn, fifos, healthy⟩ := tracks
  exact ⟨baseEq, customerInfo, producerInfo, customerSide, producerSide, readIn, writeIn, fifos, healthy⟩

include geometry even used held in
theorem ring_push_room (ok : ring.handler.status = .ok) (count : Nat) (last : ring.last = some count)
    (room : ring.unread.length + base.lineNumPerEntry ≤ base.lineNumPerBuffer) :
    ∃ next, ringStep ring .push = some next ∧ next.handler.status = .ok ∧ next.refused = ring.refused ∧
      next.handedOut = ring.handedOut ∧ RingAt base next read (write.advance base.lineNumPerFrame base.lineNumPerEntry) := by
  have sized := held.lastEq count last
  subst sized
  have positive := geometry.entryPos
  have space := room
  rw [unread_length base ring read write held] at space
  have inFrame : write.line + base.lineNumPerEntry ≤ base.lineNumPerFrame := by
    have writeIn := held.tracks.writeIn
    have short := even.short
    have filled := even.filled
    have rest := Nat.le_of_dvd (by omega) (Nat.dvd_sub even.frames held.writeAligned)
    omega
  obtain ⟨handler, pushed, ok', tracks⟩ := tracked_push base ring.handler read write base.lineNumPerEntry geometry held.tracks ok
    (.inl ⟨Nat.le_refl _, by omega⟩) space inFrame
    (tracked_flip_together base ring.handler read write held.tracks geometry held.readAligned held.writeAligned
      (by have short := even.short; omega) space)
  have tail := ring_tail base read write geometry even ring.handler held.tracks
  obtain ⟨value, triggered⟩ := post_isp_push_entry _ _ _ pushed
  refine ⟨{ ring with
    handler := { handler with currentNValue := value }
    unread := ring.unread ++ nextLines ring.handler base.lineNumPerEntry
    produced := ring.produced + base.lineNumPerEntry }, by simp [ringStep, last, triggered], ok', rfl, rfl, ?_⟩
  refine { tracks := tracks_trigger base _ _ handler _ tracks, readAligned := held.readAligned,
           writeAligned := advance_aligned _ _ _ held.writeAligned, unreadEq := ?_, lastEq := held.lastEq,
           producedEq := ?_, poppedEq := held.poppedEq }
  · have cells : nextLines ring.handler base.lineNumPerEntry =
        (trackedWindow base ring.handler read write held.tracks).pushCells base.lineNumPerEntry := by
      rw [ring_push_cells base ring read write even used held, nextLines, tail]
      rfl
    have bounded : (trackedWindow base ring.handler read write held.tracks).pushed + base.lineNumPerEntry ≤
        (trackedWindow base ring.handler read write held.tracks).popped + base.lineNumPerBuffer := by
      have order := (trackedWindow base ring.handler read write held.tracks).ordered
      rw [held.unreadEq, Window.cells_length] at room
      omega
    show ring.unread ++ nextLines ring.handler base.lineNumPerEntry = _
    rw [held.unreadEq, cells, ← Window.push_cells _ _ bounded]
    congr 1
    exact Window.ext rfl (advance_index _ _ _ inFrame).symm
  · rw [advance_index _ _ _ inFrame, ← held.producedEq]

include geometry held in
theorem ring_push_crowded (ok : ring.handler.status = .ok) (count : Nat) (last : ring.last = some count)
    (crowded : base.lineNumPerBuffer < ring.unread.length + base.lineNumPerEntry) :
    ∃ next, ringStep ring .push = some next ∧ next.handedOut = ring.handedOut ∧ RingAt base next read write := by
  have sized := held.lastEq count last
  subst sized
  rw [unread_length base ring read write held] at crowded
  obtain ⟨handler, refused, _, tracks⟩ := tracked_push_crowded base ring.handler read write base.lineNumPerEntry geometry held.tracks
    ok (.inl ⟨Nat.le_refl _, by omega⟩) crowded
  refine ⟨{ ring with handler := handler, refused := true }, by simp [ringStep, last, postIspPushEntry, refused], rfl, ?_⟩
  refine { tracks := tracks, readAligned := held.readAligned, writeAligned := held.writeAligned, unreadEq := ?_,
           lastEq := held.lastEq, producedEq := held.producedEq, poppedEq := held.poppedEq }
  rw [held.unreadEq]
  rfl

include geometry even held in
theorem ring_pop_size : postIspPopSize ring.handler = base.lineNumPerEntry := by
  simp only [postIspPopSize, held.tracks.customerInfo, even_last_entry base geometry even, ite_self]

theorem ring_pop_idle (idle : ring.handler.status ≠ .ok ∨
    isEmptyFifo (ring.handler.fifo.get ring.handler.customerPingPongFlag) = true) : ringStep ring .pop = some ring := by
  have unchanged : postIspPopEntry ring.handler = (ring.handler, false) := by
    rcases idle with failed | empty
    · exact pop_after_error _ _ failed
    · simp [postIspPopEntry, ispcPopNewLine, empty]
  simp [ringStep, unchanged]

include geometry even held in
theorem ring_pop_entry (ok : ring.handler.status = .ok) (stored : 0 < readableLines base read write) :
    ∃ next, ringStep ring .pop = some next ∧ next.handler.status = .ok ∧ next.refused = ring.refused ∧
      next.handedOut = ring.handedOut ∧ RingAt base next (read.advance base.lineNumPerFrame base.lineNumPerEntry) write := by
  have size := ring_pop_size base ring read write geometry even held
  have aligned := readable_aligned base read write held.readAligned held.writeAligned (.inr even.frames)
  have enough := Nat.le_of_dvd stored aligned
  have positive := geometry.entryPos
  have inFrame : read.line + base.lineNumPerEntry ≤ base.lineNumPerFrame := by
    have writeIn := held.tracks.writeIn
    unfold readableLines at enough
    split at enough <;> omega
  obtain ⟨handler, popped, ok', tracks⟩ := tracked_pop_line base ring.handler read write base.lineNumPerEntry held.tracks
    geometry ok positive enough
  refine ⟨{ ring with
    handler := handler
    unread := ring.unread.drop base.lineNumPerEntry
    popped := ring.popped + base.lineNumPerEntry }, by simp [ringStep, size, postIspPopEntry, popped], ok', rfl, rfl, ?_⟩
  refine { tracks := tracks, readAligned := advance_aligned _ _ _ held.readAligned, writeAligned := held.writeAligned,
           unreadEq := ?_, lastEq := held.lastEq, producedEq := held.producedEq, poppedEq := ?_ }
  · have index := advance_index base.lineNumPerFrame read base.lineNumPerEntry inFrame
    have stock : (trackedWindow base ring.handler read write held.tracks).popped + base.lineNumPerEntry ≤
        (trackedWindow base ring.handler read write held.tracks).pushed := by
      have order := tracks_ordered base handler _ write tracks
      rw [index] at order
      exact order
    show ring.unread.drop base.lineNumPerEntry = _
    rw [held.unreadEq, ← Window.pop_cells _ _ stock]
    congr 1
    exact Window.ext index.symm rfl
  · rw [advance_index _ _ _ inFrame, ← held.poppedEq]

-- What one step does to a ring in step with its stream: it stays so, an entry
-- handed out with room left is safe, and with room for every push nothing fails.
structure RingStep (base : SispControlInfo) (ring : PostIspRing) (event : RingEvent) (next : PostIspRing) : Prop where
  inStep : ∃ read write, RingAt base next read write
  handed : next.handedOut = ring.handedOut ∨ (∃ entry, event = .getNext entry) ∧ ∃ handed,
    next.handedOut = ring.handedOut ++ [(handed, ring.unread)] ∧
    (ring.unread.length + base.lineNumPerEntry ≤ base.lineNumPerBuffer → RegionSafe base handed ring.unread)
  healthy : (event = .push → ring.unread.length + base.lineNumPerEntry ≤ base.lineNumPerBuffer) →
    ring.handler.status = .ok → next.handler.status = .ok ∧ next.refused = ring.refused

include geometry even used held in
theorem ring_step_get (entry : SispBuffer) (next : PostIspRing) (taken : ringStep ring (.getNext entry) = some next) :
    RingStep base ring (.getNext entry) next := by
  obtain ⟨handed, found, placed, sized⟩ := ring_get_step base ring read write geometry even used held entry
  rw [found] at taken
  cases taken
  refine ⟨⟨read, write, { held with lastEq := fun count last => (Option.some.inj last).symm }⟩,
    .inr ⟨⟨entry, rfl⟩, handed, rfl, fun room => ?_⟩, fun _ ok => ⟨ok, rfl⟩⟩
  refine ⟨ringLine base write, placed, ?_, ?_⟩
  · rw [sized]
    exact ring_block_inside base even used write held.writeAligned
  · rw [sized]
    exact (ring_entry_free_iff base ring read write even used held).mpr room

include geometry even used held in
theorem ring_step_push (next : PostIspRing) (taken : ringStep ring .push = some next) : RingStep base ring .push next := by
  cases last : ring.last with
  | none => simp [ringStep, last] at taken
  | some count =>
      by_cases ok : ring.handler.status = .ok
      · by_cases room : ring.unread.length + base.lineNumPerEntry ≤ base.lineNumPerBuffer
        · obtain ⟨after, pushed, status, accepted, handed, kept⟩ :=
            ring_push_room base ring read write geometry even used held ok count last room
          rw [pushed] at taken
          cases taken
          exact ⟨⟨_, _, kept⟩, .inl handed, fun _ _ => ⟨status, accepted⟩⟩
        · obtain ⟨after, refused, handed, kept⟩ := ring_push_crowded base ring read write geometry held ok count last (by omega)
          rw [refused] at taken
          cases taken
          exact ⟨⟨_, _, kept⟩, .inl handed, fun allowed _ => absurd (allowed rfl) room⟩
      · rw [ring_push_error ring count last ok] at taken
        cases taken
        exact ⟨⟨read, write, { held with }⟩, .inl rfl, fun _ healthy => absurd healthy ok⟩

include geometry even held in
theorem ring_step_pop (next : PostIspRing) (taken : ringStep ring .pop = some next) : RingStep base ring .pop next := by
  by_cases idle : ring.handler.status ≠ .ok ∨ isEmptyFifo (ring.handler.fifo.get ring.handler.customerPingPongFlag) = true
  · rw [ring_pop_idle ring idle] at taken
    cases taken
    exact ⟨⟨read, write, held⟩, .inl rfl, fun _ ok => ⟨ok, rfl⟩⟩
  · simp only [not_or, Decidable.not_not, Bool.not_eq_true] at idle
    have nonempty := tracked_nonempty base ring.handler read write held.tracks
    rw [idle.2, eq_comm, decide_eq_false_iff_not] at nonempty
    obtain ⟨after, popped, status, accepted, handed, kept⟩ :=
      ring_pop_entry base ring read write geometry even held idle.1 (by omega)
    rw [popped] at taken
    cases taken
    exact ⟨⟨_, _, kept⟩, .inl handed, fun _ _ => ⟨status, accepted⟩⟩

include geometry even used held in
theorem ring_step (event : RingEvent) (next : PostIspRing) (taken : ringStep ring event = some next) :
    RingStep base ring event next := by
  cases event with
  | getNext entry => exact ring_step_get base ring read write geometry even used held entry next taken
  | push => exact ring_step_push base ring read write geometry even used held next taken
  | pop => exact ring_step_pop base ring read write geometry even held next taken

end Ring

theorem ring_start_at (handler : SispHandler) (base : SispControlInfo) :
    RingAt base (startRing (ispcStart handler base)) ⟨0, 0⟩ ⟨0, 0⟩ := by
  refine ⟨tracks_start base handler, Nat.dvd_zero _, Nat.dvd_zero _, ?_, ?_, ?_, ?_⟩
  · simp [startRing, trackedWindow, Window.cells, Window.items, Window.held]
  · intro count last
    cases last
  · simp [startRing, LinePos.index]
  · simp [startRing, LinePos.index]

theorem post_isp_config_start (handler start : SispHandler) (config : SispConfigPar)
    (accepted : postIspHandlerConfig handler config = some (start, .ok)) :
    ∃ base, Geometry base ∧ (EvenGeometry base → base.lineNumUsedPerFrame = base.lineNumPerFrame) ∧
      start = ispcStart handler base := by
  unfold postIspHandlerConfig at accepted
  cases update : ispcBaseInfoUpdate handler.base config with
  | none => simp [update] at accepted
  | some result =>
      obtain ⟨base, code⟩ := result
      by_cases ok : code = .ok
      · subst ok
        simp only [update, Option.bind_eq_bind, Option.bind_some, ne_eq, not_true_eq_false, if_false, Option.some.injEq,
          Prod.mk.injEq, and_true] at accepted
        have geometry := base_info_geometry handler.base base config update
        have frameMax := frame_bound base geometry
        refine ⟨_, ?_, ?_, accepted.symm⟩
        · exact ⟨geometry.entryPos, geometry.entryMax, geometry.frameMax, geometry.depthMax, geometry.lineMax, geometry.last⟩
        · intro even
          show u16 ((base.lineNumPerFrame : Int) - base.lineNumInLastEntry + base.lineNumPerEntry) = base.lineNumPerFrame
          rw [geometry.last, if_pos (Nat.mod_eq_zero_of_dvd even.frames), Int.sub_add_cancel]
          exact u16_fits _ (by omega)
      · simp [update, ok] at accepted

-- The check the caller of post_isp_get_next_entry would have to make.
def RoomToWrite (ring : PostIspRing) : RingEvent → Prop
  | .getNext _ => RingRoom ring
  | _ => True

instance (ring : PostIspRing) : ∀ event, Decidable (RoomToWrite ring event)
  | .getNext _ => inferInstanceAs (Decidable (RingRoom ring))
  | .push => inferInstanceAs (Decidable True)
  | .pop => inferInstanceAs (Decidable True)

-- In an even geometry, entries asked for only while the ring has room are safe to write.
theorem post_isp_regions_safe (handler start : SispHandler) (config : SispConfigPar) (events : List RingEvent)
    (finish : PostIspRing) (accepted : postIspHandlerConfig handler config = some (start, .ok)) (even : EvenGeometry start.base)
    (guarded : Runs.Guarded ringStep RoomToWrite (startRing start) events)
    (ran : Runs.run ringStep (startRing start) events = some finish) : RegionsSafe finish := by
  obtain ⟨base, geometry, used, begun⟩ := post_isp_config_start handler start config accepted
  have same : start.base = base := by rw [begun]; rfl
  rw [same] at even
  have inv := Runs.guarded_run_invariant ringStep RoomToWrite
    (fun ring => (∃ read write, RingAt base ring read write) ∧ ∀ handed ∈ ring.handedOut, RegionSafe base handed.1 handed.2)
    (by
      intro ring event next held room taken
      obtain ⟨⟨read, write, inStep⟩, safe⟩ := held
      have step := ring_step base ring read write geometry even (used even) inStep event next taken
      refine ⟨step.inStep, ?_⟩
      rcases step.handed with kept | ⟨⟨entry, isGet⟩, handed, appended, fresh⟩
      · rw [kept]
        exact safe
      · subst isGet
        rw [appended]
        intro pair member
        rcases List.mem_append.mp member with old | new
        · exact safe pair old
        · rw [List.mem_singleton.mp new]
          apply fresh
          rw [← inStep.tracks.baseEq]
          exact room)
    (startRing start) finish events
    ⟨⟨_, _, by rw [begun]; exact ring_start_at handler base⟩, fun _ member => by cases member⟩ guarded ran
  obtain ⟨⟨read, write, inStep⟩, safe⟩ := inv
  intro handed member
  rw [inStep.tracks.baseEq]
  exact safe handed member

-- Eight lines a frame in entries of four, in a ring of one frame.
def smallPostIspConfig : SispConfigPar := ⟨0, 640, 8, 0, 4, 64, 512, 0x1000⟩

def smallPostIsp : SispHandler := ((postIspHandlerConfig (zeroHandler 0) smallPostIspConfig).map Prod.fst).getD (zeroHandler 0)

def noBuffer : SispBuffer := ⟨0, 0, 0, 0, 0⟩

theorem post_isp_regions_safe_two_frames : RegionsSafe ((Runs.run ringStep (startRing smallPostIsp)
    [.getNext noBuffer, .push, .getNext noBuffer, .push, .pop, .getNext noBuffer, .push, .pop, .getNext noBuffer]).get (by decide)) :=
  post_isp_regions_safe (zeroHandler 0) smallPostIsp smallPostIspConfig _ _ (by decide)
    ⟨by decide, by decide, by decide, by decide⟩ (by decide) (Option.some_get _).symm

-- With both entries of the frame unread the next entry is handed out all the same.
theorem post_isp_hands_out_unread_lines : ¬ ∀ (handler start : SispHandler) (config : SispConfigPar) (events : List RingEvent)
    (finish : PostIspRing), postIspHandlerConfig handler config = some (start, .ok) →
    Runs.run ringStep (startRing start) events = some finish → RegionsSafe finish := by
  intro claim
  let events : List RingEvent := [.getNext noBuffer, .push, .getNext noBuffer, .push, .getNext noBuffer]
  have safe := claim (zeroHandler 0) smallPostIsp smallPostIspConfig events
    ((Runs.run ringStep (startRing smallPostIsp) events).get (by decide)) (by decide) (Option.some_get _).symm
  exact absurd safe (by unfold RegionsSafe; decide)

end CsiDsp
