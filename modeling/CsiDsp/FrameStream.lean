import CsiDsp.VipreFrames

set_option autoImplicit false

namespace CsiDsp

open Runs CInt

-- The driver in frame mode beside the device: what the device has left at
-- frame_meta_reg for each frame it completed so far, the number of the frame a
-- place of the rings stands for, and the frames in the order they were popped.
structure FrameStream where
  handler : SvipreHandler
  contents : List FrameMeta
  frames : PingPong (Nat → Nat)
  popped : List Nat

inductive FrameOp where
  | push (content : FrameMeta)
  | get (id : Nat) (buffer : SvipreBuffer)
  | pop (lineNum : Int)
  | update

def headNumber (stream : FrameStream) : Option Nat :=
  let side := stream.handler.customerPingPongFlag
  if vipreIsEmpty stream.handler then none else some (stream.frames.get side (stream.handler.fifo.get side).head)

def storeEntry (stream : FrameStream) (handler : SvipreHandler) (content : FrameMeta) : FrameStream :=
  let side := stream.handler.producePingPongFlag
  let place := (stream.handler.fifo.get side).tail
  { stream with
    handler := handler
    contents := stream.contents ++ [content]
    frames := stream.frames.set side (Function.update (stream.frames.get side) place stream.contents.length) }

def frameOpStep (stream : FrameStream) : FrameOp → Option FrameStream
  | .push content => (viprePushNewEntry stream.handler content).map fun (handler, pushed) =>
      if pushed then storeEntry stream handler content
      else { stream with handler := handler, contents := stream.contents ++ [content] }
  | .get id buffer => (vipreGetNextEntry stream.handler id buffer).map fun (handler, _) => { stream with handler := handler }
  | .pop lineNum => (viprePopNewEntry stream.handler lineNum).map fun (handler, popped) =>
      { stream with
        handler := handler
        popped := if popped then stream.popped ++ (headNumber stream).toList else stream.popped }
  | .update => (vipreRecoveryStateUpdate stream.handler).map fun handler => { stream with handler := handler }

def frameStream (handler : SvipreHandler) : FrameStream := ⟨handler, [], .const fun _ => 0, []⟩

-- A side of the rings that holds the frames up to the place tail, each at the
-- place that its number leaves modulo the number of buffers.
structure SideHolds (fifo : Sfifo) (numbers : Nat → Nat) (number tail : Nat) : Prop where
  ring : ∃ head, head ≤ tail ∧ head < number ∧ FrameFifo fifo number number 0 head tail
  healthy : fifo.status ≠ .overflow
  numbers : ∀ place < tail, numbers place % number = place

-- What holds in every run, also when the device runs over frames that are not
-- popped: the consumer is on the producer's side or on a complete one.
structure FrameSides (stream : FrameStream) (number : Nat) : Prop where
  mode : stream.handler.vipreMode = .mFrame
  status : stream.handler.status = .ok
  buffers : stream.handler.baseBufferInfo.bufferNum = number
  positive : 0 < number
  short : number ≤ maxVipreBuffer
  produce : SideHolds (stream.handler.fifo.get stream.handler.producePingPongFlag) (stream.frames.get stream.handler.producePingPongFlag)
    number (stream.contents.length % number)
  apart : stream.handler.customerPingPongFlag ≠ stream.handler.producePingPongFlag →
    SideHolds (stream.handler.fifo.get stream.handler.customerPingPongFlag) (stream.frames.get stream.handler.customerPingPongFlag)
      number number

theorem flag_flipped (side other : Bool) (different : side ≠ other) : other = !side := by
  cases side <;> cases other <;> first | rfl | exact absurd rfl different

theorem side_reset (number : Nat) (positive : 0 < number) (numbers : Nat → Nat) :
    SideHolds (resetFifo number 0 number) numbers number 0 :=
  ⟨⟨0, Nat.le_refl 0, positive, frame_fifo_reset number number 0⟩, EfifoStatus.noConfusion,
    fun place none_ => absurd none_ (Nat.not_lt_zero place)⟩

theorem side_pushed (fifo : Sfifo) (numbers : Nat → Nat) (number count : Nat)
    (holds : SideHolds fifo numbers number (count % number)) :
    SideHolds { fifo with tail := count % number + 1 } (Function.update numbers fifo.tail count) number (count % number + 1) := by
  obtain ⟨head, ordered, below, ring⟩ := holds.ring
  refine ⟨⟨head, by omega, below, frame_fifo_pushed fifo number number 0 head _ ring 1⟩, holds.healthy, fun place earlier => ?_⟩
  rw [ring.tailEq]
  by_cases new : place = count % number
  · rw [new, Function.update_self]
  · rw [Function.update_of_ne new]
    exact holds.numbers place (by omega)

theorem next_head_mod (number count : Nat) (positive : 0 < number) : nextHead number (count % number) = (count + 1) % number := by
  have below := Nat.mod_lt count positive
  rw [nextHead, show (count + 1) % number = (count % number + 1) % number from (Nat.mod_add_mod count number 1).symm]
  by_cases last : count % number + 1 = number
  · rw [if_pos last, last, Nat.mod_self]
  · rw [if_neg last, Nat.mod_eq_of_lt (show count % number + 1 < number by omega)]

section Sides

variable (stream : FrameStream) (number : Nat) (sides : FrameSides stream number)

include sides

theorem sides_customer : ∃ tail, SideHolds (stream.handler.fifo.get stream.handler.customerPingPongFlag)
      (stream.frames.get stream.handler.customerPingPongFlag) number tail ∧ tail ≤ number ∧
    (tail = number → stream.handler.customerPingPongFlag ≠ stream.handler.producePingPongFlag) := by
  have below := Nat.mod_lt stream.contents.length sides.positive
  by_cases same : stream.handler.customerPingPongFlag = stream.handler.producePingPongFlag
  · refine ⟨stream.contents.length % number, ?_, Nat.le_of_lt below, fun full => ?_⟩
    · rw [same]
      exact sides.produce
    · omega
  · exact ⟨number, sides.apart same, Nat.le_refl number, fun _ => same⟩

-- The frame at the head lies in the buffer that its number leaves modulo the number of buffers.
theorem head_buffer (frame : Nat) (found : headNumber stream = some frame) :
    vipreIsEmpty stream.handler = false ∧
      getHeadFifo (stream.handler.fifo.get stream.handler.customerPingPongFlag) = some (frame % number) := by
  have limit : number ≤ 4 := sides.short
  obtain ⟨tail, holds, inside, -⟩ := sides_customer stream number sides
  obtain ⟨head, ordered, below, fifo⟩ := holds.ring
  rw [headNumber] at found
  split at found
  · cases found
  · rename_i some_
    have different : tail ≠ head := by
      intro same
      rw [vipreIsEmpty, isEmptyFifo, fifo.headEq, fifo.tailEq, same] at some_
      exact some_ (beq_self_eq_true head)
    have place := holds.numbers head (by omega)
    cases found
    refine ⟨(Bool.not_eq_true _).mp some_, ?_⟩
    rw [frame_fifo_head _ number number 0 head tail fifo sides.positive (by omega), Nat.zero_add, Nat.mod_eq_of_lt below,
      fifo.headEq, place]

theorem sides_push (content : FrameMeta) :
    ∃ next, frameOpStep stream (.push content) = some next ∧ FrameSides next number ∧
      next.contents = stream.contents ++ [content] := by
  have inside := Nat.mod_lt stream.contents.length sides.positive
  have grown := side_pushed _ _ number stream.contents.length sides.produce
  obtain ⟨head, ordered, below, ring⟩ := sides.produce.ring
  obtain ⟨frameMeta, -, pushed⟩ :=
    push_new_entry stream.handler number content head _ sides.mode ring sides.produce.healthy sides.short inside
  have after := next_head_mod number stream.contents.length sides.positive
  simp only [frameOpStep, pushed, Option.map_some, if_true]
  refine ⟨_, rfl, ?_, rfl⟩
  by_cases last : stream.contents.length % number + 1 = number
  · rw [nextHead, if_pos last] at after
    rw [if_pos last]
    refine ⟨sides.mode, sides.status, sides.buffers, sides.positive, sides.short, ?_, fun different => ?_⟩
    · simp only [storeEntry, List.length_append, List.length_singleton, ← after, PingPong.get_set_same, sides.buffers]
      exact side_reset number sides.positive _
    · have same : stream.handler.producePingPongFlag = stream.handler.customerPingPongFlag := by
        have flipped := flag_flipped _ _ different
        simp only [storeEntry] at flipped
        exact Bool.not_inj flipped
      simp only [storeEntry, ← same, PingPong.get_set_flipped, PingPong.get_set_same]
      rw [last] at grown
      simp only [last]
      exact grown
  · rw [nextHead, if_neg last] at after
    rw [if_neg last]
    refine ⟨sides.mode, sides.status, sides.buffers, sides.positive, sides.short, ?_, fun different => ?_⟩
    · simp only [storeEntry, List.length_append, List.length_singleton, ← after, PingPong.get_set_same]
      exact grown
    · have kept := sides.apart different
      have flipped := flag_flipped _ _ (Ne.symm different)
      simp only [storeEntry, PingPong.get_set] at flipped kept ⊢
      rw [flipped] at kept ⊢
      simpa using kept

-- Looking at the head, and the update of a state that is not an error, leave the driver as it is.
theorem sides_get (id : Nat) (buffer : SvipreBuffer) : ∃ entry found,
    vipreGetNextEntry stream.handler id buffer = some (stream.handler, entry, found) := by
  have empty : vipreIsEmpty stream.handler = isEmptyFifo (stream.handler.fifo.get stream.handler.customerPingPongFlag) := rfl
  cases drained : vipreIsEmpty stream.handler with
  | true =>
      rw [empty] at drained
      simp only [vipreGetNextEntry, drained, if_true]
      exact ⟨_, _, rfl⟩
  | false =>
      obtain ⟨-, head⟩ := head_buffer stream number sides _ (by rw [headNumber, drained]; rfl)
      rw [empty] at drained
      simp only [vipreGetNextEntry, drained, sides.mode, head, Bool.false_eq_true, if_false, Option.bind_eq_bind, Option.bind_some]
      split <;> exact ⟨_, _, rfl⟩

theorem sides_update : vipreRecoveryStateUpdate stream.handler = some stream.handler := by
  rw [vipreRecoveryStateUpdate, sides.mode, sides.status]

theorem sides_pop (lineNum : Int) : ∃ next, frameOpStep stream (.pop lineNum) = some next ∧ FrameSides next number ∧
    next.contents = stream.contents := by
  obtain ⟨tail, holds, inside, complete⟩ := sides_customer stream number sides
  obtain ⟨head, ordered, below, fifo⟩ := holds.ring
  by_cases drained : head = tail
  · have empty : isEmptyFifo (stream.handler.fifo.get stream.handler.customerPingPongFlag) = true := by
      rw [isEmptyFifo, fifo.headEq, fifo.tailEq, drained, beq_self_eq_true]
    simp only [frameOpStep, viprePopNewEntry, empty, if_true, Option.map_some]
    exact ⟨_, rfl, ⟨sides.mode, sides.status, sides.buffers, sides.positive, sides.short, sides.produce, sides.apart⟩, rfl⟩
  · have entry := pop_new_entry stream.handler number head lineNum tail sides.mode fifo holds.healthy (by omega) inside sides.short
    have shorter := frame_fifo_popped _ number number 0 head tail fifo 1
    have ends : isLastEntryPopFifo { stream.handler.fifo.get stream.handler.customerPingPongFlag with head := head + 1 } = true ↔
        head + 1 = number := by
      rw [isLastEntryPopFifo, beq_iff_eq, fifo.maxEq]
    have customer : SideHolds { stream.handler.fifo.get stream.handler.customerPingPongFlag with head := head + 1 }
        (stream.frames.get stream.handler.customerPingPongFlag) number tail ∨ head + 1 = number := by
      by_cases last : head + 1 = number
      · exact .inr last
      · exact .inl ⟨⟨head + 1, by omega, by omega, shorter⟩, holds.healthy, holds.numbers⟩
    simp only [frameOpStep, entry, Option.map_some]
    refine ⟨_, rfl, ?_, rfl⟩
    by_cases last : head + 1 = number
    · have flipped := flag_flipped _ _ (complete (by omega))
      have kept := sides.produce
      rw [vipreFinishPop, if_pos (ends.mpr last)]
      simp only [flipped, ne_eq, not_true_eq_false, if_false] at kept ⊢
      refine ⟨sides.mode, sides.status, sides.buffers, sides.positive, sides.short, ?_, fun other => absurd rfl other⟩
      simp only [PingPong.get_set_other]
      exact kept
    · have rest := customer.resolve_right last
      rw [vipreFinishPop, if_neg fun found => last (ends.mp found)]
      refine ⟨sides.mode, sides.status, sides.buffers, sides.positive, sides.short, ?_, fun different => ?_⟩
      · by_cases same : stream.handler.customerPingPongFlag = stream.handler.producePingPongFlag
        · have filled : tail = stream.contents.length % number := by
            obtain ⟨_, -, -, produce⟩ := sides.produce.ring
            rw [← same] at produce
            exact fifo.tailEq.symm.trans produce.tailEq
          simp only [← same, ← filled, PingPong.get_set_same]
          exact rest
        · have kept := sides.produce
          rw [flag_flipped _ _ same] at kept
          simp only [flag_flipped _ _ same, PingPong.get_set_other]
          exact kept
      · have full : tail = number := by
          obtain ⟨_, -, -, other⟩ := (sides.apart different).ring
          exact fifo.tailEq.symm.trans other.tailEq
        rw [full] at rest
        simp only [PingPong.get_set_same]
        exact rest

theorem sides_step (event : FrameOp) : ∃ next, frameOpStep stream event = some next ∧ FrameSides next number := by
  have same (popped : List Nat) : FrameSides { stream with popped := popped } number :=
    ⟨sides.mode, sides.status, sides.buffers, sides.positive, sides.short, sides.produce, sides.apart⟩
  cases event with
  | push content =>
      obtain ⟨next, taken, kept, -⟩ := sides_push stream number sides content
      exact ⟨next, taken, kept⟩
  | pop lineNum =>
      obtain ⟨next, taken, kept, -⟩ := sides_pop stream number sides lineNum
      exact ⟨next, taken, kept⟩
  | get id buffer =>
      obtain ⟨entry, found, looked⟩ := sides_get stream number sides id buffer
      rw [frameOpStep, looked]
      exact ⟨_, rfl, same stream.popped⟩
  | update =>
      rw [frameOpStep, sides_update stream number sides]
      exact ⟨_, rfl, same stream.popped⟩

-- No step traps, so every list of events is a run.
theorem sides_run (events : List FrameOp) : ∃ finish, run frameOpStep stream events = some finish ∧ FrameSides finish number := by
  induction events generalizing stream with
  | nil => exact ⟨stream, rfl, sides⟩
  | cons event rest ih =>
      obtain ⟨next, taken, kept⟩ := sides_step stream number sides event
      obtain ⟨finish, ran, last⟩ := ih next kept
      refine ⟨finish, ?_, last⟩
      rw [run, taken]
      exact ran

end Sides

-- The configurations that frame mode accepts, with what they leave in the driver.
structure FrameConfigured (config : VipreConfigPar) (handler : SvipreHandler) (number : Nat) : Prop where
  ring : FrameRing handler number 0 0
  channels : activeChannels handler.activeChannle ≠ []
  active : handler.activeChannle = config.actChannel.toNat
  frameMetaReg : handler.frameMetaReg = u32 (config.bufferAddr 11).toNat
  total : config.bufferNum.toNat = (activeChannels handler.activeChannle).length * number
  addresses : ∀ channel ∈ activeChannels handler.activeChannle, ∀ buffer < number, handler.baseBufferInfo.bufferAddr channel buffer =
    (config.bufferAddr ((activeChannels handler.activeChannle).idxOf channel * number + buffer)).toNat

theorem frame_configured (config : VipreConfigPar) (before handler : SvipreHandler)
    (accepted : vipreFrameModeHandlerConfig before config = some (handler, true)) : ∃ number, FrameConfigured config handler number := by
  rw [vipreFrameModeHandlerConfig] at accepted
  simp only at accepted
  split at accepted
  · cases accepted
  · split at accepted
    · cases accepted
    · rename_i few
      split at accepted
      · cases accepted
      · rename_i channels
        split at accepted
        · cases accepted
        · rename_i whole
          cases accepted
          have short : config.bufferNum.toNat / (activeChannels config.actChannel.toNat).length ≤ maxVipreBuffer :=
            Nat.div_le_of_le_mul (by rw [Nat.mul_comm]; exact Nat.le_of_not_lt few)
          refine ⟨config.bufferNum.toNat / (activeChannels config.actChannel.toNat).length,
            ⟨rfl, rfl, rfl, short, .inr rfl, Nat.zero_le _, ?_, ?_, ?_, fun _ => rfl, ?_⟩, fun none_ => channels (by rw [none_]; rfl),
            rfl, rfl, ?_, fun channel member buffer below => if_pos ⟨member, below⟩⟩
          · exact frame_fifo_reset _ _ 0
          · simp [resetFifo]
          · rfl
          · intro full positive
            omega
          · exact (Nat.mul_div_cancel' (Nat.dvd_of_mod_eq_zero (not_not.mp whole))).symm

theorem configured_sides (config : VipreConfigPar) (handler : SvipreHandler) (number : Nat)
    (configured : FrameConfigured config handler number)
    (some_ : 0 < number) : FrameSides (frameStream handler) number := by
  have together := configured.ring.together (.inl (by omega))
  refine ⟨configured.ring.mode, configured.ring.status, configured.ring.buffers, some_, configured.ring.short, ?_,
    fun different => absurd together.symm different⟩
  have customer := configured.ring.customer
  have healthy := configured.ring.healthy
  rw [← together, Nat.zero_add, Nat.min_eq_left (Nat.zero_le number)] at customer
  rw [← together] at healthy
  simp only [frameStream, List.length_nil, Nat.zero_mod]
  exact ⟨⟨0, Nat.le_refl 0, some_, customer⟩, healthy, fun place none_ => absurd none_ (Nat.not_lt_zero place)⟩

-- The device completes a frame only where the last one is handed back.
def FrameRoom (stream : FrameStream) : FrameOp → Prop
  | .push _ => unpoppedFrames stream.handler < stream.handler.baseBufferInfo.bufferNum
  | .get _ _ | .pop _ | .update => True

instance (stream : FrameStream) : ∀ event, Decidable (FrameRoom stream event)
  | .push _ => inferInstanceAs (Decidable (_ < _))
  | .get _ _ | .pop _ | .update => inferInstanceAs (Decidable True)

structure OrderInv (start : SvipreHandler) (stream : FrameStream) (number head count oldest : Nat) : Prop where
  ring : FrameRing stream.handler number head count
  device : SameDevice start stream.handler
  register : stream.handler.frameMetaReg = start.frameMetaReg
  phase : 0 < number → head = oldest % number
  stored : stream.contents.length = oldest + count
  popped : stream.popped = List.range oldest
  frames : ∀ step < count, stream.frames.get (placeSide number head stream.handler.customerPingPongFlag step)
    (placeIndex number head step) = oldest + step
  metas : start.frameMetaReg ≠ 0 → ∀ step < count,
    stream.contents[oldest + step]? = some (stream.handler.frameMeta (placeIndex number head step))

theorem ring_push (handler : SvipreHandler) (number head count : Nat) (ring : FrameRing handler number head count) (content : FrameMeta)
    (room : count < number) : ∃ next, viprePushNewEntry handler content = some (next, true) ∧ FrameRing next number head (count + 1) ∧
      next.customerPingPongFlag = handler.customerPingPongFlag ∧ SameDevice handler next ∧ next.frameMetaReg = handler.frameMetaReg ∧
      next.frameMeta = if handler.frameMetaReg = 0 then handler.frameMeta
        else Function.update handler.frameMeta (placeIndex number head count) content := by
  obtain ⟨next, interrupted, grown, customer, same⟩ := frame_ring_push handler number head count ring content room
  obtain ⟨side, first, frame, healthy⟩ := ring_produces handler number head count ring room
  have inside := ring.inside
  have place : placeIndex number head count < number := by
    rw [placeIndex]
    split <;> omega
  obtain ⟨frameMeta, written, pushed⟩ :=
    push_new_entry handler number content first (placeIndex number head count) ring.mode frame healthy
    ring.short place
  rw [vipreInterruptHandler, if_pos rfl, pushed] at interrupted
  have result := Option.some.inj interrupted
  dsimp only at result
  refine ⟨next, ?_, grown, customer, same, ?_, ?_⟩
  · rw [pushed, ← result]
  · rw [← result]
    split <;> rfl
  · rw [← result, ← written]
    split <;> rfl

theorem finish_keeps_meta (handler : SvipreHandler) (fifo : Sfifo) : (vipreFinishPop handler fifo).1.frameMetaReg = handler.frameMetaReg ∧
    (vipreFinishPop handler fifo).1.frameMeta = handler.frameMeta := by
  rw [vipreFinishPop]
  split
  · dsimp only
    split <;> exact ⟨rfl, rfl⟩
  · exact ⟨rfl, rfl⟩

section Order

variable (start : SvipreHandler) (stream : FrameStream) (number head count oldest : Nat)
  (inv : OrderInv start stream number head count oldest)

include inv

theorem head_number (filled : 0 < count) : headNumber stream = some oldest := by
  have inside := inv.ring.inside
  have bound := inv.ring.bound
  have first := inv.frames 0 filled
  rw [placeSide, placeIndex, if_pos (by omega), if_pos (by omega), Nat.add_zero, Nat.add_zero] at first
  rw [headNumber, ring_filled _ number head count inv.ring, decide_eq_false (by omega)]
  simp only [Bool.false_eq_true, if_false, inv.ring.customer.headEq, first]

theorem head_number_none (drained : count = 0) : headNumber stream = none := by
  rw [headNumber, ring_filled _ number head count inv.ring, decide_eq_true drained]
  rfl

theorem order_push (content : FrameMeta) (room : count < number) :
    ∃ next, frameOpStep stream (.push content) = some next ∧ OrderInv start next number head (count + 1) oldest := by
  obtain ⟨side, first, produce, -⟩ := ring_produces _ number head count inv.ring room
  obtain ⟨handler, pushed, ring, customer, device, register, metas⟩ := ring_push _ number head count inv.ring content room
  have inside := inv.ring.inside
  have apart : ∀ step < count, placeIndex number head step ≠ placeIndex number head count := by
    intro step earlier
    rw [placeIndex, placeIndex]
    split <;> split <;> omega
  simp only [frameOpStep, pushed, Option.map_some, if_true]
  refine ⟨_, rfl, ring, ⟨device.1.trans inv.device.1, device.2.trans inv.device.2⟩, register.trans inv.register, inv.phase,
    ?_, inv.popped,
    fun step earlier => ?_, fun present step earlier => ?_⟩
  · simp only [storeEntry, List.length_append, List.length_singleton, inv.stored, Nat.add_assoc]
  · simp only [storeEntry]
    rw [customer, produce.tailEq, side, PingPong.get_set]
    by_cases new : step = count
    · rw [new, if_pos rfl, Function.update_self, inv.stored]
    · have old : step < count := by omega
      have kept := inv.frames step old
      by_cases same : placeSide number head stream.handler.customerPingPongFlag step =
          placeSide number head stream.handler.customerPingPongFlag count
      · rw [if_pos same, Function.update_of_ne (apart step old), ← same, kept]
      · rw [if_neg same, kept]
  · simp only [storeEntry]
    rw [metas, if_neg (by rw [inv.register]; exact present)]
    by_cases new : step = count
    · rw [new, ← inv.stored, List.getElem?_concat_length, Function.update_self]
    · have old : step < count := by omega
      rw [List.getElem?_append_left (by rw [inv.stored]; omega), Function.update_of_ne (apart step old)]
      exact inv.metas present step old

theorem order_pop (lineNum : Int) : ∃ next, frameOpStep stream (.pop lineNum) = some next ∧ OrderInv start next number
    (if 0 < count then nextHead number head else head) (count - 1) (if 0 < count then oldest + 1 else oldest) := by
  by_cases drained : count = 0
  · have empty : vipreIsEmpty stream.handler = true := by
      rw [ring_filled _ number head count inv.ring, decide_eq_true drained]
    subst drained
    simp only [frameOpStep, pop_empty _ lineNum empty, Option.map_some, Bool.false_eq_true, if_false, Nat.lt_irrefl, Nat.zero_sub]
    exact ⟨_, rfl, inv.ring, inv.device, inv.register, inv.phase, inv.stored, inv.popped, inv.frames, inv.metas⟩
  · have filled : 0 < count := Nat.pos_of_ne_zero drained
    obtain ⟨handler, removed, ring, customer, device⟩ := frame_ring_pop _ number head count inv.ring lineNum filled
    have inside := inv.ring.inside
    have bound := inv.ring.bound
    have entry := pop_new_entry _ number head lineNum _ inv.ring.mode inv.ring.customer inv.ring.healthy (by omega) (by omega) inv.ring.short
    rw [removed] at entry
    have result := congrArg Prod.fst (Option.some.inj entry)
    dsimp only at result
    have register : handler.frameMetaReg = stream.handler.frameMetaReg := by
      rw [result]
      exact (finish_keeps_meta _ _).1
    have metas : handler.frameMeta = stream.handler.frameMeta := by
      rw [result]
      exact (finish_keeps_meta _ _).2
    have index (step : Nat) (within : step < count - 1) : placeIndex number (nextHead number head) step =
        placeIndex number head (step + 1) := by
      rw [placeIndex, placeIndex, nextHead]
      split <;> split <;> split <;> omega
    have side (step : Nat) (within : step < count - 1) :
        placeSide number (nextHead number head) handler.customerPingPongFlag step =
          placeSide number head stream.handler.customerPingPongFlag (step + 1) := by
      rw [customer, placeSide, placeSide, placeSide, nextHead]
      by_cases last : head + 1 = number
      · rw [if_pos last, if_pos (by omega), if_neg (by omega), if_neg (by omega)]
      · rw [if_neg last, if_pos (show head + 1 < number by omega), Nat.add_assoc, Nat.add_comm 1 step]
    rw [if_pos filled, if_pos filled]
    simp only [frameOpStep, removed, Option.map_some, if_true, head_number start stream number head count oldest inv filled]
    refine ⟨_, rfl, ring, ⟨device.1.trans inv.device.1, device.2.trans inv.device.2⟩, register.trans inv.register,
      fun positive => ?_, ?_, ?_, fun step within => ?_, fun present step within => ?_⟩
    · rw [inv.phase positive, next_head_mod number oldest positive]
    · rw [inv.stored]
      omega
    · rw [inv.popped, List.range_succ]
      rfl
    · rw [index step within, side step within, inv.frames (step + 1) (by omega)]
      omega
    · rw [metas, index step within, show oldest + 1 + step = oldest + (step + 1) by omega]
      exact inv.metas present (step + 1) (by omega)

end Order

theorem order_step (start : SvipreHandler) (stream next : FrameStream) (number head count oldest : Nat)
    (inv : OrderInv start stream number head count oldest) (event : FrameOp) (room : FrameRoom stream event)
    (sides : FrameSides stream number) (taken : frameOpStep stream event = some next) :
    ∃ nextHead nextCount nextOldest, OrderInv start next number nextHead nextCount nextOldest := by
  cases event with
  | push content =>
      rw [FrameRoom, ring_unpopped _ number head count inv.ring, inv.ring.buffers] at room
      obtain ⟨pushed, done, later⟩ := order_push start stream number head count oldest inv content room
      cases taken.symm.trans done
      exact ⟨head, count + 1, oldest, later⟩
  | pop lineNum =>
      obtain ⟨popped, done, later⟩ := order_pop start stream number head count oldest inv lineNum
      cases taken.symm.trans done
      exact ⟨_, _, _, later⟩
  | get id buffer =>
      obtain ⟨entry, found, looked⟩ := sides_get stream number sides id buffer
      rw [frameOpStep, looked] at taken
      cases taken
      exact ⟨head, count, oldest, inv.ring, inv.device, inv.register, inv.phase, inv.stored, inv.popped, inv.frames, inv.metas⟩
  | update =>
      rw [frameOpStep, sides_update stream number sides] at taken
      cases taken
      exact ⟨head, count, oldest, inv.ring, inv.device, inv.register, inv.phase, inv.stored, inv.popped, inv.frames, inv.metas⟩

-- The frames go in the order they came, from the buffers of the configured
-- list, with the meta data that came with them, and the status stays OK.
structure FramesInOrder (config : VipreConfigPar) (start : SvipreHandler) (stream : FrameStream) : Prop where
  order : stream.popped = List.range stream.popped.length
  pending : headNumber stream = if stream.popped.length < stream.contents.length then some stream.popped.length else none
  status : stream.handler.status = .ok
  entry : ∀ frame, headNumber stream = some frame → ∀ buffer, ∃ entry,
    vipreGetNextEntry stream.handler 0 buffer = some (stream.handler, entry, true) ∧
      ∀ rank < (activeChannels config.actChannel.toNat).length, entry.startAddr rank =
        (config.bufferAddr (rank * start.baseBufferInfo.bufferNum + frame % start.baseBufferInfo.bufferNum)).toNat
  metas : start.frameMetaReg ≠ 0 → ∀ frame, headNumber stream = some frame →
    vipreGetFrameMeta stream.handler = some stream.contents[frame]?
  pops : ∀ frame lineNum, headNumber stream = some frame → ∃ next, viprePopNewEntry stream.handler lineNum = some (next, true)
  pushes : unpoppedFrames stream.handler < start.baseBufferInfo.bufferNum → ∀ content,
    ∃ next, viprePushNewEntry stream.handler content = some (next, true)

theorem channels_rank (actChannel rank : Nat) (inside : rank < (activeChannels actChannel).length) :
    (activeChannels actChannel).idxOf (activeChannels actChannel)[rank] = rank :=
  List.Nodup.idxOf_getElem (List.Nodup.filter _ List.nodup_range) rank inside

theorem order_kept (config : VipreConfigPar) (start : SvipreHandler) (stream : FrameStream) (number head count oldest : Nat)
    (configured : FrameConfigured config start number) (some_ : 0 < number) (inv : OrderInv start stream number head count oldest) :
    FramesInOrder config start stream := by
  have inside := inv.ring.inside
  have limit : number ≤ 4 := inv.ring.short
  have popped : stream.popped.length = oldest := by rw [inv.popped, List.length_range]
  have filled (frame : Nat) (found : headNumber stream = some frame) : 0 < count ∧ frame = oldest := by
    by_cases drained : count = 0
    · rw [head_number_none start stream number head count oldest inv drained] at found
      cases found
    · rw [head_number start stream number head count oldest inv (Nat.pos_of_ne_zero drained)] at found
      exact ⟨Nat.pos_of_ne_zero drained, (Option.some.inj found).symm⟩
  refine ⟨by rw [popped, inv.popped], ?_, inv.ring.status, fun frame found buffer => ?_, fun present frame found => ?_,
    fun frame lineNum found => ?_, fun room content => ?_⟩
  · rw [popped, inv.stored]
    by_cases drained : count = 0
    · rw [head_number_none start stream number head count oldest inv drained, if_neg (by omega)]
    · rw [head_number start stream number head count oldest inv (Nat.pos_of_ne_zero drained), if_pos (by omega)]
  · obtain ⟨some_entry, rfl⟩ := filled frame found
    have empty := ring_filled _ number head count inv.ring
    rw [vipreIsEmpty, decide_eq_false (by omega)] at empty
    have even (place : Nat) : (evenOddFrameMatch 0 place = false) = False := by simp [evenOddFrameMatch]
    simp only [vipreGetNextEntry, empty, inv.ring.mode, ring_head _ number head count inv.ring some_entry, inv.ring.list, even,
      Bool.false_eq_true, if_false, Option.bind_eq_bind, Option.bind_some]
    refine ⟨_, rfl, fun rank ranked => ?_⟩
    have channels : activeChannels stream.handler.activeChannle = activeChannels config.actChannel.toNat := by
      rw [inv.device.1, configured.active]
    have listed : (activeChannels config.actChannel.toNat)[rank]? = some (activeChannels config.actChannel.toNat)[rank] :=
      List.getElem?_eq_getElem ranked
    have below : head < number := by omega
    have address := configured.addresses (activeChannels config.actChannel.toNat)[rank]
      (by rw [configured.active]; exact List.getElem_mem ranked) head below
    rw [configured.active, channels_rank _ rank ranked] at address
    simp only [channelAddresses, channels, listed, inv.device.2]
    rw [address, configured.ring.buffers, inv.phase some_]
  · obtain ⟨some_entry, rfl⟩ := filled frame found
    have stored := inv.metas present 0 some_entry
    rw [placeIndex, if_pos (by omega), Nat.add_zero, Nat.add_zero] at stored
    have small : head < maxVipreBuffer := by
      rw [maxVipreBuffer]
      omega
    rw [vipreGetFrameMeta, inv.ring.mode]
    simp only [ring_head _ number head count inv.ring some_entry, Option.bind_eq_bind, Option.bind_some, if_pos small, stored]
  · obtain ⟨some_entry, rfl⟩ := filled frame found
    obtain ⟨next, removed, -⟩ := frame_ring_pop _ number head count inv.ring lineNum some_entry
    exact ⟨next, removed⟩
  · rw [ring_unpopped _ number head count inv.ring, configured.ring.buffers] at room
    obtain ⟨next, pushed, -⟩ := ring_push stream.handler number head count inv.ring content room
    exact ⟨next, pushed⟩

theorem configured_order (config : VipreConfigPar) (start : SvipreHandler) (number : Nat)
    (configured : FrameConfigured config start number) :
    OrderInv start (frameStream start) number 0 0 0 :=
  ⟨configured.ring, ⟨rfl, rfl⟩, rfl, fun _ => (Nat.zero_mod number).symm, rfl, rfl, fun step none_ => absurd none_ (Nat.not_lt_zero step),
    fun _ step none_ => absurd none_ (Nat.not_lt_zero step)⟩

-- Whatever order the device and the tasks come in, as long as the device waits for a buffer.
theorem frame_mode_in_order (config : VipreConfigPar) (before start : SvipreHandler)
    (accepted : vipreFrameModeHandlerConfig before config = some (start, true)) (some_ : 1 ≤ start.baseBufferInfo.bufferNum)
    (finish : FrameStream) (events : List FrameOp) (room : Guarded frameOpStep FrameRoom (frameStream start) events)
    (ran : run frameOpStep (frameStream start) events = some finish) : FramesInOrder config start finish := by
  obtain ⟨number, configured⟩ := frame_configured config before start accepted
  have positive : 0 < number := by
    rw [configured.ring.buffers] at some_
    exact some_
  have initial := configured_order config start number configured
  have preserved (stream : FrameStream) (event : FrameOp) (next : FrameStream)
      (held : FrameSides stream number ∧ ∃ head count oldest, OrderInv start stream number head count oldest)
      (guard : FrameRoom stream event) (taken : frameOpStep stream event = some next) :
      FrameSides next number ∧ ∃ head count oldest, OrderInv start next number head count oldest := by
    obtain ⟨sides, head, count, oldest, inv⟩ := held
    obtain ⟨reached, done, kept⟩ := sides_step stream number sides event
    cases taken.symm.trans done
    exact ⟨kept, order_step start stream next number head count oldest inv event guard sides taken⟩
  obtain ⟨-, head, count, oldest, inv⟩ := guarded_run_invariant frameOpStep FrameRoom
    (fun stream => FrameSides stream number ∧ ∃ head count oldest, OrderInv start stream number head count oldest) preserved
    (frameStream start) finish events ⟨configured_sides config start number configured positive, 0, 0, 0, initial⟩ room ran
  exact order_kept config start finish number head count oldest configured positive inv

def twoFramesStart : SvipreHandler := ((vipreFrameModeHandlerConfig zeroVipre twoFrames).get (by decide)).1

-- Five frames through the two buffers, with a push between getting a frame and popping it.
def fiveFrames : List FrameOp := [.push zeroMeta, .get 0 ⟨0, 0, 0, 0, fun _ => 0⟩, .push zeroMeta, .pop 0, .push zeroMeta, .pop 0,
  .pop 0, .push zeroMeta, .get 0 ⟨0, 0, 0, 0, fun _ => 0⟩, .pop 0, .push zeroMeta]

theorem frame_mode_in_order_five :
    FramesInOrder twoFrames twoFramesStart ((run frameOpStep (frameStream twoFramesStart) fiveFrames).get (by decide)) :=
  frame_mode_in_order twoFrames zeroVipre twoFramesStart (Option.eq_some_of_isSome (by decide)) (by decide) _ fiveFrames (by decide)
    (Option.some_get _).symm

end CsiDsp
