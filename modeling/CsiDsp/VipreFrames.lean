import CsiDsp.Base.Runs
import CsiDsp.HwTask
import CsiDsp.TaskStatus

set_option autoImplicit false

namespace CsiDsp

-- The channels and the number of the buffer that vipre_pop_new_entry hands back
-- with CLEAR_VIPRE_BUFFER_REG and SET_VIPRE_M_FRAME_BUFFER_READ_DONE.
def vipreReadDone (handler : SvipreHandler) : List (Nat × Nat) :=
  match getHeadFifo (handler.fifo.get handler.customerPingPongFlag) with
  | none => []
  | some id => (activeChannels handler.activeChannle).map fun channel => (channel, id)

-- The bit of CLEAR_VIPRE_BUFFER_REG.
def clearVipreBufferReg (channel bufferIndex : Nat) : BitVec 32 :=
  1#32 <<< (maxVipreBuffer - 1 - (bufferIndex + 1) % maxVipreBuffer) <<< ((maxVipreChannel - 1 - channel) * maxVipreBuffer)

def vipreMFrameIdMask : BitVec 32 := 3#32 <<< 13

-- The word of SET_VIPRE_M_FRAME_BUFFER_READ_DONE, over what the read report of
-- the channel reads back.
def setVipreMFrameBufferReadDone (readBack : BitVec 32) (channel bufferIndex : Nat) : BitVec 32 :=
  match channel with
  | 0 | 2 => readBack ||| (BitVec.ofNat 32 bufferIndex <<< 13 &&& vipreMFrameIdMask)
  | 1 => readBack ||| BitVec.ofNat 32 bufferIndex <<< 29
  | _ => readBack

-- The field of the channel in its read report.
def reportedBuffer (channel : Nat) (report : BitVec 32) : BitVec 32 := (report >>> if channel = 1 then 29 else 13) &&& 3#32

-- What the two words tell the device: the bit is that of no other buffer, and
-- the report holds the id, as long as its field reads back empty.
structure NamesBuffer (channel bufferIndex : Nat) : Prop where
  cleared : ∀ other < maxVipreChannel, ∀ index < maxVipreBuffer,
    clearVipreBufferReg other index = clearVipreBufferReg channel bufferIndex → other = channel ∧ index = bufferIndex
  reported : ∀ readBack, reportedBuffer channel readBack = 0#32 →
    reportedBuffer channel (setVipreMFrameBufferReadDone readBack channel bufferIndex) = BitVec.ofNat 32 bufferIndex

theorem report_written (readBack word : BitVec 32) (channel : Nat) (empty : reportedBuffer channel readBack = 0#32) :
    reportedBuffer channel (readBack ||| word) = reportedBuffer channel word := by
  rw [reportedBuffer] at empty ⊢
  rw [BitVec.ushiftRight_or_distrib, BitVec.and_or_distrib_right, empty, BitVec.zero_or, reportedBuffer]

theorem names_buffer (channel bufferIndex : Nat) (active : channel < maxVipreChannel) (inside : bufferIndex < maxVipreBuffer) :
    NamesBuffer channel bufferIndex := by
  have words : ∀ (channel other : Fin maxVipreChannel) (index place : Fin maxVipreBuffer),
      clearVipreBufferReg other place = clearVipreBufferReg channel index → other = channel ∧ place = index := by decide
  have low : ∀ index < maxVipreBuffer, (BitVec.ofNat 32 index <<< 13 &&& vipreMFrameIdMask) >>> 13 &&& 3#32 = BitVec.ofNat 32 index := by
    decide
  have high : ∀ index < maxVipreBuffer, BitVec.ofNat 32 index <<< 29 >>> 29 &&& 3#32 = BitVec.ofNat 32 index := by decide
  refine ⟨fun other known index listed same => ?_, fun readBack empty => ?_⟩
  · have one := words ⟨channel, active⟩ ⟨other, known⟩ ⟨bufferIndex, inside⟩ ⟨index, listed⟩ same
    exact ⟨congrArg Fin.val one.1, congrArg Fin.val one.2⟩
  · match channel, active with
    | 0, _ | 2, _ => exact (report_written readBack _ _ empty).trans (low bufferIndex inside)
    | 1, _ => exact (report_written readBack _ _ empty).trans (high bufferIndex inside)

-- A frame of the device, by its number, and the buffers it lies in.
structure FrameEntry where
  frame : Nat
  buffers : List (Nat × Nat)
deriving DecidableEq

-- A call of vipre_pop_new_entry: whether it is entry_done, the frame that is in
-- processing, and the frame that goes.
structure FramePop where
  done : Bool
  taken : Option FrameEntry
  popped : Option FrameEntry

-- The entry a run of dsp_process_hw_task has got and not given back yet.
def HwPc.held : HwPc → Option EntryStruct
  | .beGetEntry entry | .dropEntry entry | .runAlgo entry _ | .entryDone entry _ => some entry
  | _ => none

-- The driver beside the device: which frame the device has stored for a place
-- of the rings, and which one it has last written to a buffer.
structure FrameWatch where
  dsp : Dsp
  running : Option (Nat × HwPc)
  stored : Nat
  frames : PingPong (Nat → Nat)
  memory : Nat × Nat → Nat
  taken : Option FrameEntry
  pops : List FramePop

inductive FrameEvent where
  | frameDone (content : FrameMeta)
  | overflow
  | start (pri : Nat)
  | task (scratch : Scratch) (algo : AlgoResult)

def headFrame (watch : FrameWatch) : Option FrameEntry :=
  let handler := watch.dsp.vipre
  let side := handler.customerPingPongFlag
  if vipreIsEmpty handler then none
  else some ⟨watch.frames.get side (handler.fifo.get side).head, vipreReadDone handler⟩

-- Which steps of dsp_process_hw_task call vipre_pop_new_entry, and whether the
-- call is the one of entry_done.
def framePopped (dsp : Dsp) (pri : Nat) (pc : HwPc) : Option Bool :=
  if (dsp.tasks pri).fe.ops ≠ some .vipre then none
  else
    match pc with
    | .entryDone _ _ | .dropEntry _ => some true
    | .overflowFe | .recoveredFe => if dsp.vipre.status = .overFlow then some false else none
    | _ => none

def takenFrame (watch : FrameWatch) (pri : Nat) (pc after : HwPc) : Option FrameEntry :=
  if (watch.dsp.tasks pri).fe.ops ≠ some .vipre ∨ after.held = none then none
  else if pc = .getEntry then headFrame watch else watch.taken

def storeFrame (watch : FrameWatch) (handler : SvipreHandler) : FrameWatch :=
  let side := watch.dsp.vipre.producePingPongFlag
  let place := (watch.dsp.vipre.fifo.get side).tail
  { watch with
    dsp := { watch.dsp with vipre := handler }
    stored := watch.stored + 1
    frames := watch.frames.set side (Function.update (watch.frames.get side) place watch.stored)
    memory := fun buffer =>
      if buffer.1 ∈ activeChannels watch.dsp.vipre.activeChannle ∧ buffer.2 = place then watch.stored else watch.memory buffer }

def stillRunning (pri : Nat) : HwPc → Option (Nat × HwPc)
  | .finish _ => none
  | after => some (pri, after)

-- The frame-done and the overflow interrupt of the device, and the runs of the
-- hardware tasks.
def frameWatchStep (watch : FrameWatch) : FrameEvent → Option FrameWatch
  | .frameDone content =>
      (vipreInterruptHandler watch.dsp.vipre ⟨true, false, false, content⟩).map (storeFrame watch)
  | .overflow =>
      (vipreInterruptHandler watch.dsp.vipre ⟨false, false, true, zeroMeta⟩).map fun handler =>
        { watch with
          dsp := { watch.dsp with vipre := handler }
          pops := ⟨false, watch.taken, headFrame watch⟩ :: watch.pops }
  | .start pri => if watch.running = none then some { watch with running := some (pri, .resetExtra) } else none
  | .task scratch algo => do
      let (pri, pc) ← watch.running
      let (dsp, after) ← hwStep scratch algo watch.dsp pri pc
      some { watch with
        dsp := dsp
        running := stillRunning pri after
        taken := takenFrame watch pri pc after
        pops := (framePopped watch.dsp pri pc).toList.map (fun done => ⟨done, watch.taken, headFrame watch⟩) ++ watch.pops }

def watchFrames (dsp : Dsp) : FrameWatch := ⟨dsp, none, 0, .const fun _ => 0, fun _ => 0, none, []⟩

-- entry_done removes the frame in processing, no other step hands back one of
-- its buffers or writes to it, and every frame goes once.
structure FramesKept (watch : FrameWatch) : Prop where
  done : ∀ pop ∈ watch.pops, pop.done = true → ∃ entry, pop.taken = some entry ∧ pop.popped = some entry
  dropped : ∀ pop ∈ watch.pops, pop.done = false → ∀ entry gone, pop.taken = some entry → pop.popped = some gone →
    ∀ buffer ∈ gone.buffers, buffer ∉ entry.buffers
  once : (watch.pops.filterMap fun pop => pop.popped.map FrameEntry.frame).Nodup
  named : ∀ pop ∈ watch.pops, ∀ entry, pop.popped = some entry → ∀ buffer ∈ entry.buffers, NamesBuffer buffer.1 buffer.2
  kept : ∀ entry, watch.taken = some entry → ∀ buffer ∈ entry.buffers, watch.memory buffer = entry.frame
  held : ∀ pri pc entry, watch.running = some (pri, pc) → (watch.dsp.tasks pri).fe.ops = some .vipre → pc.held = some entry →
    ∃ taken buffer, watch.taken = some taken ∧ taken.buffers.head? = some buffer ∧
      entry.pBuff = watch.dsp.vipre.baseBufferInfo.bufferAddr buffer.1 buffer.2

def unpoppedFrames (handler : SvipreHandler) : Nat :=
  let side := handler.customerPingPongFlag
  let other := handler.producePingPongFlag
  getElementNumFifo (handler.fifo.get side) + if other = side then 0 else getElementNumFifo (handler.fifo.get other)

-- The device stores a frame only where the last one is handed back, and raises
-- no overflow while a frame is in processing.
def KeepsFrames (watch : FrameWatch) : FrameEvent → Prop
  | .frameDone _ => unpoppedFrames watch.dsp.vipre < watch.dsp.vipre.baseBufferInfo.bufferNum
  | .overflow => watch.taken = none
  | .start _ | .task _ _ => True

-- The pending frames lie on the consumer's side up to its end, and then from
-- the start of the other side.
def placeIndex (number head step : Nat) : Nat := if head + step < number then head + step else head + step - number

def placeSide (number head : Nat) (side : Bool) (step : Nat) : Bool := if head + step < number then side else !side

-- The place after the oldest frame, on the other side when it was the last one.
def nextHead (number head : Nat) : Nat := if head + 1 = number then 0 else head + 1

structure FrameRing (handler : SvipreHandler) (number head count : Nat) : Prop where
  mode : handler.vipreMode = .mFrame
  status : handler.status = .ok
  buffers : handler.baseBufferInfo.bufferNum = number
  short : number ≤ maxVipreBuffer
  inside : head < number ∨ head = 0
  bound : count ≤ number
  customer : FrameFifo (handler.fifo.get handler.customerPingPongFlag) number number 0 head (min (head + count) number)
  healthy : (handler.fifo.get handler.customerPingPongFlag).status ≠ .overflow
  list : handler.bufferInfo.get handler.customerPingPongFlag = handler.baseBufferInfo
  together : head + count < number ∨ number = 0 → handler.producePingPongFlag = handler.customerPingPongFlag
  apart : number ≤ head + count → 0 < number → handler.producePingPongFlag = !handler.customerPingPongFlag ∧
    FrameFifo (handler.fifo.get (!handler.customerPingPongFlag)) number number 0 0 (head + count - number) ∧
    (handler.fifo.get (!handler.customerPingPongFlag)).status ≠ .overflow ∧
    handler.bufferInfo.get (!handler.customerPingPongFlag) = handler.baseBufferInfo

-- What the steps on the ring leave alone.
def SameDevice (handler next : SvipreHandler) : Prop :=
  next.activeChannle = handler.activeChannle ∧ next.baseBufferInfo = handler.baseBufferInfo

section Ring

variable (handler : SvipreHandler) (number head count : Nat)

theorem push_new_entry (content : FrameMeta) (first last : Nat) (mode : handler.vipreMode = .mFrame)
    (frame : FrameFifo (handler.fifo.get handler.producePingPongFlag) number number 0 first last)
    (healthy : (handler.fifo.get handler.producePingPongFlag).status ≠ .overflow) (short : number ≤ maxVipreBuffer)
    (room : last < number) :
    ∃ frameMeta, frameMeta = (if handler.frameMetaReg = 0 then handler.frameMeta else Function.update handler.frameMeta last content) ∧
      viprePushNewEntry handler content = some (
      if last + 1 = number then
        { handler with
          frameMeta := frameMeta
          bufferInfo := handler.bufferInfo.set (!handler.producePingPongFlag) handler.baseBufferInfo
          producePingPongFlag := !handler.producePingPongFlag
          fifo := (handler.fifo.set handler.producePingPongFlag
              { handler.fifo.get handler.producePingPongFlag with tail := last + 1 }).set (!handler.producePingPongFlag)
            (resetFifo handler.baseBufferInfo.bufferNum 0 handler.baseBufferInfo.bufferNum) }
      else
        { handler with
          frameMeta := frameMeta
          fifo := handler.fifo.set handler.producePingPongFlag
            { handler.fifo.get handler.producePingPongFlag with tail := last + 1 } }, true) := by
  have limit : number ≤ 4 := short
  have free : isOverflowFifo (handler.fifo.get handler.producePingPongFlag) = false := by simpa [isOverflowFifo] using healthy
  have tail := frame_fifo_tail _ number number 0 first last frame (by omega)
    (Nat.lt_of_lt_of_le (Nat.mod_lt _ (by omega)) (by omega))
  have pushed := frame_fifo_push _ number number 0 first last frame 1 0 (by omega) (by omega) (by omega)
  have index : (0 + last) % number = last := by rw [Nat.zero_add, Nat.mod_eq_of_lt room]
  rw [index] at tail
  have stored : vipreStoreFrameMeta handler (handler.fifo.get handler.producePingPongFlag) content = some { handler with
      frameMeta := if handler.frameMetaReg = 0 then handler.frameMeta else Function.update handler.frameMeta last content } := by
    have inMeta : (0 : Int) ≤ (last : Int) ∧ (last : Int) < maxVipreBuffer := ⟨by omega, by rw [maxVipreBuffer]; omega⟩
    simp only [vipreStoreFrameMeta, tail, Option.bind_eq_bind, Option.bind_some, inMeta.1, inMeta.2, true_and, Int.toNat_natCast]
    by_cases missing : handler.frameMetaReg = 0
    · rw [if_neg fun present => present missing, if_pos missing]
    · rw [if_pos missing, if_neg missing]
  refine ⟨_, rfl, ?_⟩
  simp only [viprePushNewEntry, mode, free, stored, pushed, Option.bind_eq_bind, Option.bind_some, Bool.false_eq_true, if_false,
    Bool.true_eq_false, isLastEntryPushFifo, frame.maxEq, beq_iff_eq]
  split <;> rfl

theorem pop_new_entry (lineNum : Int) (tail : Nat) (mode : handler.vipreMode = .mFrame)
    (frame : FrameFifo (handler.fifo.get handler.customerPingPongFlag) number number 0 head tail)
    (healthy : (handler.fifo.get handler.customerPingPongFlag).status ≠ .overflow) (filled : head < tail) (inside : tail ≤ number)
    (short : number ≤ maxVipreBuffer) : viprePopNewEntry handler lineNum = some (vipreFinishPop { handler with
      fifo := handler.fifo.set handler.customerPingPongFlag { handler.fifo.get handler.customerPingPongFlag with head := head + 1 } }
        { handler.fifo.get handler.customerPingPongFlag with head := head + 1 }) := by
  have limit : number ≤ 4 := short
  have some_ : isEmptyFifo (handler.fifo.get handler.customerPingPongFlag) = false := by
    rw [isEmptyFifo, frame.headEq, frame.tailEq, beq_eq_false_iff_ne]
    omega
  have popped := frame_fifo_pop _ number number 0 head tail frame 1 (by omega) healthy filled (by omega)
  simp only [viprePopNewEntry, some_, frame.depthEq, mode, popped, Bool.false_eq_true, if_false,
    if_neg (show ¬ number = 0 by omega), eisp_bool_never true]

variable (ring : FrameRing handler number head count)

include ring

theorem ring_produces (room : count < number) :
    handler.producePingPongFlag = placeSide number head handler.customerPingPongFlag count ∧
      ∃ first, FrameFifo (handler.fifo.get handler.producePingPongFlag) number number 0 first (placeIndex number head count) ∧
        (handler.fifo.get handler.producePingPongFlag).status ≠ .overflow := by
  rw [placeSide, placeIndex]
  by_cases together : head + count < number
  · have same := ring.together (.inl together)
    have customer := ring.customer
    rw [Nat.min_eq_left (Nat.le_of_lt together)] at customer
    rw [if_pos together, if_pos together, same]
    exact ⟨rfl, head, customer, ring.healthy⟩
  · obtain ⟨other, produce, healthy, -⟩ := ring.apart (Nat.le_of_not_lt together) (by omega)
    rw [if_neg together, if_neg together, other]
    exact ⟨rfl, 0, produce, healthy⟩

theorem frame_ring_push (content : FrameMeta) (room : count < number) :
    ∃ next, vipreInterruptHandler handler ⟨true, false, false, content⟩ = some next ∧ FrameRing next number head (count + 1) ∧
      next.customerPingPongFlag = handler.customerPingPongFlag ∧ SameDevice handler next := by
  obtain ⟨side, first, frame, healthy⟩ := ring_produces handler number head count ring room
  have inside := ring.inside
  have place : placeIndex number head count < number := by
    rw [placeIndex]
    split <;> omega
  obtain ⟨frameMeta, -, pushed⟩ := push_new_entry handler number content first (placeIndex number head count) ring.mode frame healthy
    ring.short place
  rw [vipreInterruptHandler, if_pos rfl, pushed]
  refine ⟨_, rfl, ?_⟩
  by_cases together : head + count < number
  · have same := ring.together (.inl together)
    have index : placeIndex number head count = head + count := by rw [placeIndex, if_pos together]
    have customer := frame_fifo_pushed _ number number 0 first (head + count) (index ▸ frame) 1
    have start : first = head := by
      have now := frame.headEq
      rw [same, ring.customer.headEq] at now
      exact now.symm
    rw [index, same]
    rw [start, same] at customer
    rw [same] at healthy
    by_cases last : head + count + 1 = number
    · rw [if_pos last]
      refine ⟨⟨ring.mode, ring.status, ring.buffers, ring.short, inside, room, ?_, ?_, ?_, ?_, ?_⟩, rfl, rfl, rfl⟩
      · rw [Nat.min_eq_right (by omega)]
        dsimp only
        rw [PingPong.get_set_flipped, PingPong.get_set_same]
        exact last ▸ customer
      · dsimp only
        rw [PingPong.get_set_flipped, PingPong.get_set_same]
        exact healthy
      · dsimp only
        rw [PingPong.get_set_flipped]
        exact ring.list
      · intro short
        omega
      · intro _ _
        dsimp only
        rw [PingPong.get_set_same, PingPong.get_set_same, ring.buffers, show head + (count + 1) - number = 0 by omega]
        exact ⟨rfl, frame_fifo_reset number number 0, by simp [resetFifo], rfl⟩
    · rw [if_neg last]
      refine ⟨⟨ring.mode, ring.status, ring.buffers, ring.short, inside, room, ?_, ?_, ring.list, ?_, ?_⟩, rfl, rfl, rfl⟩
      · rw [Nat.min_eq_left (by omega)]
        dsimp only
        rw [PingPong.get_set_same]
        exact customer
      · dsimp only
        rw [PingPong.get_set_same]
        exact healthy
      · exact fun _ => rfl
      · intro full
        omega
  · obtain ⟨other, produce, -, list⟩ := ring.apart (Nat.le_of_not_lt together) (by omega)
    have index : placeIndex number head count = head + count - number := by rw [placeIndex, if_neg together]
    have start : first = 0 := by
      have now := frame.headEq
      rw [other, produce.headEq] at now
      exact now.symm
    have grown := frame_fifo_pushed _ number number 0 first (head + count - number) (index ▸ frame) 1
    rw [other, start] at grown
    rw [other] at healthy
    rw [index, if_neg (by omega), other]
    refine ⟨⟨ring.mode, ring.status, ring.buffers, ring.short, inside, room, ?_, ?_, ring.list, ?_, ?_⟩, rfl, rfl, rfl⟩
    · have customer := ring.customer
      rw [Nat.min_eq_right (by omega)] at customer ⊢
      dsimp only
      rw [PingPong.get_set_flipped]
      exact customer
    · dsimp only
      rw [PingPong.get_set_flipped]
      exact ring.healthy
    · intro short
      omega
    · intro _ _
      dsimp only
      rw [PingPong.get_set_same, show head + (count + 1) - number = head + count - number + 1 by omega]
      exact ⟨rfl, grown, healthy, list⟩

theorem ring_filled : vipreIsEmpty handler = decide (count = 0) := by
  have inside := ring.inside
  have bound := ring.bound
  rw [vipreIsEmpty, isEmptyFifo, ring.customer.headEq, ring.customer.tailEq, Bool.eq_iff_iff, beq_iff_eq, decide_eq_true_eq]
  omega

theorem ring_head (filled : 0 < count) : getHeadFifo (handler.fifo.get handler.customerPingPongFlag) = some head := by
  have inside := ring.inside
  have bound := ring.bound
  have limit : number ≤ 4 := ring.short
  rw [frame_fifo_head _ number number 0 head _ ring.customer (by omega) (by omega), Nat.zero_add, Nat.mod_eq_of_lt (by omega)]

theorem frame_ring_pop (lineNum : Int) (filled : 0 < count) :
    ∃ next, viprePopNewEntry handler lineNum = some (next, true) ∧ FrameRing next number (nextHead number head) (count - 1) ∧
      next.customerPingPongFlag = placeSide number head handler.customerPingPongFlag 1 ∧ SameDevice handler next := by
  have inside := ring.inside
  have bound := ring.bound
  have limit : number ≤ 4 := ring.short
  have customer := frame_fifo_popped _ number number 0 head _ ring.customer 1
  have entry := pop_new_entry handler number head lineNum _ ring.mode ring.customer ring.healthy (by omega) (by omega) ring.short
  have ends : isLastEntryPopFifo { handler.fifo.get handler.customerPingPongFlag with head := head + 1 } = true ↔ head + 1 = number := by
    rw [isLastEntryPopFifo, beq_iff_eq, ring.customer.maxEq]
  rw [entry, vipreFinishPop]
  by_cases last : head + 1 = number
  · obtain ⟨other, produce, healthy, list⟩ := ring.apart (by omega) (by omega)
    rw [if_pos (ends.mpr last), nextHead, if_pos last, placeSide, if_neg (show ¬ head + 1 < number by omega)]
    dsimp only
    rw [other, if_neg fun differ => differ rfl]
    refine ⟨_, rfl, ⟨ring.mode, ring.status, ring.buffers, ring.short, .inr rfl, by omega, ?_, ?_, list, fun _ => rfl, ?_⟩, rfl, rfl, rfl⟩
    · dsimp only
      rw [PingPong.get_set_other, Nat.min_eq_left (by omega), show 0 + (count - 1) = head + count - number by omega]
      exact produce
    · dsimp only
      rw [PingPong.get_set_other]
      exact healthy
    · intro full
      omega
  · rw [if_neg fun found => last (ends.mp found), nextHead, if_neg last, placeSide, if_pos (show head + 1 < number by omega)]
    have sum : head + 1 + (count - 1) = head + count := by omega
    refine ⟨_, rfl, ⟨ring.mode, ring.status, ring.buffers, ring.short, .inl (by omega), by omega, ?_, ?_, ring.list, ?_, ?_⟩,
      rfl, rfl, rfl⟩
    · dsimp only
      rw [PingPong.get_set_same, sum]
      exact customer
    · dsimp only
      rw [PingPong.get_set_same]
      exact ring.healthy
    · rw [sum]
      exact ring.together
    · rw [sum]
      dsimp only
      rw [PingPong.get_set_other]
      exact ring.apart

theorem ring_unpopped : unpoppedFrames handler = count := by
  have inside := ring.inside
  have bound := ring.bound
  have limit : number ≤ 4 := ring.short
  rw [unpoppedFrames, frame_fifo_elements _ number number 0 head _ ring.customer (by omega) (by omega)]
  by_cases together : head + count < number ∨ number = 0
  · rw [if_pos (ring.together together)]
    omega
  · obtain ⟨other, produce, -⟩ := ring.apart (by omega) (by omega)
    rw [other, if_neg (by simp), frame_fifo_elements _ number number 0 0 _ produce (by omega) (by omega)]
    omega

theorem get_vipre_frame (next : SvipreHandler) (buffer : SvipreBuffer) (id : Int) (ctrlInfo entry : EntryStruct) (found : Bool)
    (done : getVipreNextEntry buffer id handler ctrlInfo = some (next, entry, found)) :
    next = handler ∧ (found = true → 0 < count ∧ ∀ channel rest, activeChannels handler.activeChannle = channel :: rest →
      entry.pBuff = handler.baseBufferInfo.bufferAddr channel head) := by
  have empty := ring_filled handler number head count ring
  obtain ⟨⟨middle, middleBuffer, middleFound⟩, looked, rest⟩ := Option.bind_eq_some_iff.mp done
  rw [vipreIsEmpty] at empty
  simp only [vipreGetNextEntry, empty, ring.mode] at looked
  by_cases drained : count = 0
  · simp only [drained, decide_true, if_true, Option.some.injEq, Prod.mk.injEq] at looked
    obtain ⟨rfl, -, rfl⟩ := looked
    cases rest
    exact ⟨rfl, fun taken => by cases taken⟩
  · have filled : 0 < count := Nat.pos_of_ne_zero drained
    simp only [drained, decide_false, Bool.false_eq_true, if_false, ring_head handler number head count ring filled, ring.list,
      Option.bind_eq_bind, Option.bind_some] at looked
    split at looked
    · cases looked
      cases rest
      exact ⟨rfl, fun taken => by cases taken⟩
    · cases looked
      simp only [Bool.true_eq_false, if_false, Option.bind_eq_bind] at rest
      obtain ⟨content, -, same⟩ := Option.bind_eq_some_iff.mp rest
      cases same
      refine ⟨rfl, fun _ => ⟨filled, fun channel others listed => ?_⟩⟩
      simp only [channelAddresses, listed, List.getElem?_cons_zero]

end Ring

-- What the pops so far say, when the frames before oldest are gone.
structure PopsSound (pops : List FramePop) (oldest : Nat) : Prop where
  done : ∀ pop ∈ pops, pop.done = true → ∃ entry, pop.taken = some entry ∧ pop.popped = some entry
  dropped : ∀ pop ∈ pops, pop.done = false → pop.taken = none
  once : (pops.filterMap fun pop => pop.popped.map FrameEntry.frame).Nodup
  below : ∀ pop ∈ pops, ∀ entry, pop.popped = some entry → entry.frame < oldest
  named : ∀ pop ∈ pops, ∀ entry, pop.popped = some entry → ∀ buffer ∈ entry.buffers, NamesBuffer buffer.1 buffer.2

structure WatchInv (watch : FrameWatch) (number head count oldest : Nat) : Prop where
  ring : FrameRing watch.dsp.vipre number head count
  channels : activeChannels watch.dsp.vipre.activeChannle ≠ []
  stored : watch.stored = oldest + count
  frames : ∀ step < count, watch.frames.get (placeSide number head watch.dsp.vipre.customerPingPongFlag step)
    (placeIndex number head step) = oldest + step
  memory : ∀ step < count, ∀ channel ∈ activeChannels watch.dsp.vipre.activeChannle,
    watch.memory (channel, placeIndex number head step) = oldest + step
  taken : ∀ entry, watch.taken = some entry → 0 < count ∧
    entry = ⟨oldest, (activeChannels watch.dsp.vipre.activeChannle).map fun channel => (channel, head)⟩
  pops : PopsSound watch.pops oldest
  held : ∀ pri pc entry, watch.running = some (pri, pc) → (watch.dsp.tasks pri).fe.ops = some .vipre → pc.held = some entry →
    ∃ taken buffer, watch.taken = some taken ∧ taken.buffers.head? = some buffer ∧
      entry.pBuff = watch.dsp.vipre.baseBufferInfo.bufferAddr buffer.1 buffer.2

theorem pops_sound_cons (pops : List FramePop) (oldest next : Nat) (sound : PopsSound pops oldest) (pop : FramePop)
    (grown : oldest ≤ next) (gone : ∀ entry, pop.popped = some entry → entry.frame = oldest ∧ oldest < next)
    (named : ∀ entry, pop.popped = some entry → ∀ buffer ∈ entry.buffers, NamesBuffer buffer.1 buffer.2)
    (done : pop.done = true → ∃ entry, pop.taken = some entry ∧ pop.popped = some entry)
    (dropped : pop.done = false → pop.taken = none) : PopsSound (pop :: pops) next := by
  refine ⟨fun other member => ?_, fun other member => ?_, ?_, fun other member entry popped => ?_, fun other member => ?_⟩
  · rcases List.mem_cons.mp member with rfl | before
    · exact done
    · exact sound.done other before
  · rcases List.mem_cons.mp member with rfl | before
    · exact dropped
    · exact sound.dropped other before
  · cases popped : pop.popped with
    | none => simpa [popped] using sound.once
    | some entry =>
        rw [List.filterMap_cons_some (by rw [popped]; rfl), List.nodup_cons]
        refine ⟨fun member => ?_, sound.once⟩
        obtain ⟨other, before, same⟩ := List.mem_filterMap.mp member
        obtain ⟨earlier, found, equal⟩ := Option.map_eq_some_iff.mp same
        have lower := sound.below other before earlier found
        have now := (gone entry popped).1
        omega
  · rcases List.mem_cons.mp member with rfl | before
    · have now := gone entry popped
      omega
    · have lower := sound.below other before entry popped
      omega
  · rcases List.mem_cons.mp member with rfl | before
    · exact named
    · exact sound.named other before

-- What one step of dsp_process_hw_task does to the driver of the VIPRE, and
-- which entry it holds afterwards.
structure FrameStep (dsp next : Dsp) (pri head count : Nat) (pc after : HwPc) : Prop where
  tasks : next.tasks = dsp.tasks
  same : framePopped dsp pri pc = none → next.vipre = dsp.vipre
  popped : ∀ done, framePopped dsp pri pc = some done → done = true ∧ pc.held ≠ none ∧ after.held = none ∧
    ∃ lineNum ok, viprePopNewEntry dsp.vipre lineNum = some (next.vipre, ok)
  held : ∀ entry, (dsp.tasks pri).fe.ops = some .vipre → after.held = some entry → framePopped dsp pri pc = none ∧
    (pc ≠ .getEntry → pc.held = some entry) ∧
    (pc = .getEntry → 0 < count ∧ ∀ channel rest, activeChannels dsp.vipre.activeChannle = channel :: rest →
      entry.pBuff = dsp.vipre.baseBufferInfo.bufferAddr channel head)

section Task

variable (dsp next : Dsp) (pri number head count : Nat) (ring : FrameRing dsp.vipre number head count)
variable (scratch : Scratch) (algo : AlgoResult) (pc after : HwPc)

theorem frame_step_still (tasks : next.tasks = dsp.tasks) (same : next.vipre = dsp.vipre) (popped : framePopped dsp pri pc = none)
    (held : ∀ entry, after.held = some entry → pc.held = some entry) : FrameStep dsp next pri head count pc after := by
  refine ⟨tasks, fun _ => same, fun done found => ?_, fun entry _ found => ⟨popped, fun _ => held entry found, fun place => ?_⟩⟩
  · rw [popped] at found
    cases found
  · have kept := held entry found
    rw [place] at kept
    cases kept

theorem be_entry_vipre (be : DspBeHandler) (out : CsiDspBuffer) (found : Bool)
    (looked : beGetNextEntry scratch dsp be = some (next, out, found)) : next.tasks = dsp.tasks ∧ next.vipre = dsp.vipre := by
  unfold beGetNextEntry at looked
  split at looked
  · cases looked
  · split at looked <;> (cases looked; exact ⟨rfl, rfl⟩)
  · obtain ⟨⟨handler, answer⟩, -, same⟩ := Option.map_eq_some_iff.mp looked
    cases same
    exact ⟨rfl, rfl⟩

theorem be_update_vipre (be : DspBeHandler) (updated : beUpdateState dsp be = some next) :
    next.tasks = dsp.tasks ∧ next.vipre = dsp.vipre := by
  unfold beUpdateState at updated
  split at updated
  · cases updated
  · cases updated
    exact ⟨rfl, rfl⟩
  · obtain ⟨handler, -, rfl⟩ := Option.map_eq_some_iff.mp updated
    exact ⟨rfl, rfl⟩

theorem be_start_vipre (be : DspBeHandler) (out : CsiDspBuffer) (started : Bool)
    (begun : beEntryStart dsp be out = some (next, started)) : next.tasks = dsp.tasks ∧ next.vipre = dsp.vipre := by
  unfold beEntryStart at begun
  split at begun
  · cases begun
  · cases begun
    exact ⟨rfl, rfl⟩
  · obtain ⟨⟨handler, answer⟩, -, same⟩ := Option.map_eq_some_iff.mp begun
    cases same
    exact ⟨rfl, rfl⟩

theorem frame_step_done (entry : EntryStruct) (place : pc.held = some entry) (last : after.held = none)
    (popped : (dsp.tasks pri).fe.ops = some .vipre → framePopped dsp pri pc = some true)
    (done : feEntryDone dsp (dsp.tasks pri).fe entry = some next) : FrameStep dsp next pri head count pc after := by
  have nothing (other : EntryStruct) (found : after.held = some other) : False := by
    rw [last] at found
    cases found
  unfold feEntryDone at done
  split at done
  · cases done
  · rename_i isp
    cases done
    exact frame_step_still dsp _ pri head count pc after rfl rfl (by rw [framePopped.eq_def, if_pos (by rw [isp]; decide)])
      fun other found => (nothing other found).elim
  · rename_i ops
    obtain ⟨⟨handler, ok⟩, removed, rfl⟩ := Option.map_eq_some_iff.mp done
    refine ⟨rfl, fun none_ => ?_, fun byTask found => ?_, fun other _ found => (nothing other found).elim⟩
    · rw [popped ops] at none_
      cases none_
    · rw [popped ops] at found
      cases found
      exact ⟨rfl, by rw [place]; simp, last, _, ok, removed⟩

include ring

theorem fe_update_vipre (fe : DspFeHandler) (updated : feUpdateState dsp fe = some next) :
    next.tasks = dsp.tasks ∧ next.vipre = dsp.vipre := by
  unfold feUpdateState at updated
  split at updated
  · cases updated
  · obtain ⟨handler, -, rfl⟩ := Option.map_eq_some_iff.mp updated
    exact ⟨rfl, rfl⟩
  · obtain ⟨handler, done, rfl⟩ := Option.map_eq_some_iff.mp updated
    simp only [vipreRecoveryStateUpdate, ring.mode, ring.status, Option.some.injEq] at done
    exact ⟨rfl, done.symm⟩

theorem frame_step_got (done : hwStep scratch algo dsp pri .getEntry = some (next, after)) :
    FrameStep dsp next pri head count .getEntry after := by
  obtain ⟨⟨middle, entry, found⟩, looked, same⟩ := Option.bind_eq_some_iff.mp done
  cases same
  have calls : framePopped dsp pri .getEntry = none := by simp [framePopped]
  unfold feGetNextEntry at looked
  split at looked
  · cases looked
  · rename_i isp
    obtain ⟨⟨handler, answer⟩, -, same⟩ := Option.map_eq_some_iff.mp looked
    cases same
    refine ⟨rfl, fun _ => rfl, fun byTask popped => (by rw [calls] at popped; cases popped), fun other ops _ => ?_⟩
    rw [isp] at ops
    cases ops
  · obtain ⟨⟨handler, answer⟩, got, same⟩ := Option.map_eq_some_iff.mp looked
    cases same
    obtain ⟨kept, given⟩ := get_vipre_frame dsp.vipre number head count ring handler _ _ _ entry found got
    refine ⟨rfl, fun _ => kept, fun byTask popped => (by rw [calls] at popped; cases popped), fun other _ held => ?_⟩
    cases found with
    | false => cases held
    | true =>
        cases held
        exact ⟨calls, fun away => absurd rfl away, fun _ => given rfl⟩

theorem frame_step (done : hwStep scratch algo dsp pri pc = some (next, after)) : FrameStep dsp next pri head count pc after := by
  have quiet (calls : framePopped dsp pri pc = none) (idle : after.held = none) (tasks : next.tasks = dsp.tasks)
      (same : next.vipre = dsp.vipre) : FrameStep dsp next pri head count pc after := by
    refine frame_step_still dsp next pri head count pc after tasks same calls fun entry found => ?_
    rw [idle] at found
    cases found
  cases pc with
  | resetExtra =>
      simp only [hwStep] at done
      split at done <;> cases done
      exact quiet (by simp [framePopped]) rfl rfl rfl
  | getEntry =>
      exact frame_step_got dsp next pri number head count ring scratch algo after done
  | checkOverflow | checkRecovering =>
      obtain ⟨state, -, same⟩ := Option.bind_eq_some_iff.mp done
      cases same
      exact quiet (by simp [framePopped]) (by split <;> rfl) rfl rfl
  | checkRecovered | feCheck out =>
      obtain ⟨state, -, same⟩ := Option.bind_eq_some_iff.mp done
      cases same
      exact quiet (by simp [framePopped]) (by split <;> rfl) rfl rfl
  | beCheck =>
      obtain ⟨state, -, same⟩ := Option.bind_eq_some_iff.mp done
      cases same
      exact quiet (by simp [framePopped]) rfl rfl rfl
  | overflowFe | recoveredFe =>
      obtain ⟨middle, updated, same⟩ := Option.map_eq_some_iff.mp done
      cases same
      obtain ⟨tasks, kept⟩ := fe_update_vipre dsp _ number head count ring _ updated
      exact quiet (by simp [framePopped, ring.status]) rfl tasks kept
  | overflowBe | recoveredBe =>
      obtain ⟨middle, updated, same⟩ := Option.map_eq_some_iff.mp done
      cases same
      obtain ⟨tasks, kept⟩ := be_update_vipre dsp _ _ updated
      exact quiet (by simp [framePopped]) rfl tasks kept
  | dropReport | resultReport out =>
      cases done
      exact quiet (by simp [framePopped]) rfl rfl rfl
  | beGetEntry entry =>
      obtain ⟨⟨middle, out, found⟩, looked, same⟩ := Option.bind_eq_some_iff.mp done
      cases same
      obtain ⟨tasks, kept⟩ := be_entry_vipre dsp next scratch _ out found looked
      refine frame_step_still dsp next pri head count _ _ tasks kept (by simp [framePopped]) fun other held => ?_
      split at held
      · exact held
      · split at held
        · exact held
        · cases held
  | dropEntry entry =>
      obtain ⟨middle, popped, same⟩ := Option.map_eq_some_iff.mp done
      cases same
      exact frame_step_done dsp next pri head count _ _ entry rfl rfl (fun ops => by simp [framePopped, ops]) popped
  | entryDone entry out =>
      obtain ⟨middle, popped, same⟩ := Option.map_eq_some_iff.mp done
      cases same
      exact frame_step_done dsp next pri head count _ _ entry rfl rfl (fun ops => by simp [framePopped, ops]) popped
  | runAlgo entry out =>
      simp only [hwStep] at done
      split at done
      · cases done
        exact quiet (by simp [framePopped]) rfl rfl rfl
      · cases done
        exact quiet (by simp [framePopped]) rfl rfl rfl
      · cases done
        exact frame_step_still dsp _ pri head count _ _ rfl rfl (by simp [framePopped]) fun other held => held
  | entryStart out =>
      obtain ⟨⟨middle, started⟩, begun, same⟩ := Option.bind_eq_some_iff.mp done
      cases same
      obtain ⟨tasks, kept⟩ := be_start_vipre dsp next _ out started begun
      refine quiet (by simp [framePopped]) ?_ tasks kept
      split
      · rfl
      · split <;> rfl
  | finish result =>
      cases done
      exact quiet (by simp [framePopped]) rfl rfl rfl

end Task

section Watch

variable (watch : FrameWatch) (number head count oldest : Nat) (inv : WatchInv watch number head count oldest)

include inv

theorem head_frame_oldest (filled : 0 < count) : headFrame watch =
    some ⟨oldest, (activeChannels watch.dsp.vipre.activeChannle).map fun channel => (channel, head)⟩ := by
  have inside := inv.ring.inside
  have bound := inv.ring.bound
  have first := inv.frames 0 filled
  rw [placeSide, placeIndex, if_pos (by omega), if_pos (by omega), Nat.add_zero, Nat.add_zero] at first
  rw [headFrame, ring_filled _ number head count inv.ring, decide_eq_false (by omega)]
  simp only [Bool.false_eq_true, if_false, inv.ring.customer.headEq, first, vipreReadDone, ring_head _ number head count inv.ring filled]

theorem head_frame_named (entry : FrameEntry) (found : headFrame watch = some entry) :
    ∀ buffer ∈ entry.buffers, NamesBuffer buffer.1 buffer.2 := by
  have filled : 0 < count := by
    by_contra drained
    rw [headFrame, ring_filled _ number head count inv.ring, decide_eq_true (by omega)] at found
    cases found
  rw [head_frame_oldest watch number head count oldest inv filled] at found
  cases found
  intro buffer member
  obtain ⟨channel, active, rfl⟩ := List.mem_map.mp member
  have inside := inv.ring.inside
  have bound := inv.ring.bound
  have short := inv.ring.short
  exact names_buffer channel head (List.mem_range.mp (List.mem_of_mem_filter active)) (by omega)

theorem head_frame_none (drained : count = 0) : headFrame watch = none := by
  rw [headFrame, ring_filled _ number head count inv.ring, decide_eq_true drained]
  rfl

theorem watch_store (next : SvipreHandler) (content : FrameMeta) (room : count < number)
    (done : vipreInterruptHandler watch.dsp.vipre ⟨true, false, false, content⟩ = some next) :
    WatchInv (storeFrame watch next) number head (count + 1) oldest := by
  obtain ⟨side, first, produce, -⟩ := ring_produces _ number head count inv.ring room
  obtain ⟨handler, pushed, ring, customer, channels, list⟩ := frame_ring_push _ number head count inv.ring content room
  rw [done] at pushed
  cases pushed
  have inside := inv.ring.inside
  have place := produce.tailEq
  have apart : ∀ step < count, placeIndex number head step ≠ placeIndex number head count := by
    intro step earlier
    rw [placeIndex, placeIndex]
    split <;> split <;> omega
  refine ⟨ring, by rw [storeFrame, channels]; exact inv.channels, by rw [storeFrame, inv.stored, Nat.add_assoc], ?_, ?_,
    fun entry taken => ?_, inv.pops, ?_⟩
  · intro step earlier
    simp only [storeFrame]
    rw [customer, place, side, PingPong.get_set]
    by_cases new : step = count
    · rw [new, if_pos rfl, Function.update_self, inv.stored]
    · have old : step < count := by omega
      have kept := inv.frames step old
      by_cases same : placeSide number head watch.dsp.vipre.customerPingPongFlag step =
          placeSide number head watch.dsp.vipre.customerPingPongFlag count
      · rw [if_pos same, Function.update_of_ne (apart step old), ← same, kept]
      · rw [if_neg same, kept]
  · intro step earlier channel member
    simp only [storeFrame] at member ⊢
    rw [channels] at member
    rw [place]
    by_cases new : step = count
    · rw [if_pos ⟨member, by rw [new]⟩, inv.stored, new]
    · have old : step < count := by omega
      rw [if_neg fun both => apart step old both.2]
      exact inv.memory step old channel member
  · obtain ⟨filled, same⟩ := inv.taken entry taken
    refine ⟨Nat.succ_pos count, ?_⟩
    simp only [storeFrame]
    rw [channels, same]
  · intro pri pc entry running ops held
    simp only [storeFrame]
    rw [list]
    exact inv.held pri pc entry running ops held

-- One frame goes, and the frame in processing, if there is one, is that frame.
theorem watch_pop (next : FrameWatch) (lineNum : Int) (done ok : Bool)
    (popped : viprePopNewEntry watch.dsp.vipre lineNum = some (next.dsp.vipre, ok))
    (stored : next.stored = watch.stored) (frames : next.frames = watch.frames)
    (memory : next.memory = watch.memory) (taken : next.taken = none)
    (pops : next.pops = ⟨done, watch.taken, headFrame watch⟩ :: watch.pops)
    (right : done = true ↔ watch.taken ≠ none)
    (idle : ∀ pri pc, next.running = some (pri, pc) → (next.dsp.tasks pri).fe.ops = some .vipre → pc.held = none) :
    ∃ nextHead nextCount nextOldest, WatchInv next number nextHead nextCount nextOldest := by
  have sound (later : Nat) (grown : oldest ≤ later)
      (gone : ∀ entry, headFrame watch = some entry → entry.frame = oldest ∧ oldest < later) : PopsSound next.pops later := by
    rw [pops]
    refine pops_sound_cons watch.pops oldest later inv.pops _ grown gone
      (head_frame_named watch number head count oldest inv) (fun byTask => ?_) fun other => ?_
    · obtain ⟨entry, present⟩ := Option.ne_none_iff_exists'.mp (right.mp byTask)
      obtain ⟨filled, same⟩ := inv.taken entry present
      exact ⟨entry, present, by rw [head_frame_oldest watch number head count oldest inv filled, same]⟩
    · by_contra present
      have byTask := right.mpr present
      rw [show done = false from other] at byTask
      cases byTask
  have held : ∀ pri pc entry, next.running = some (pri, pc) → (next.dsp.tasks pri).fe.ops = some .vipre → pc.held = some entry →
      ∃ taken buffer, next.taken = some taken ∧ taken.buffers.head? = some buffer ∧
        entry.pBuff = next.dsp.vipre.baseBufferInfo.bufferAddr buffer.1 buffer.2 := by
    intro pri pc entry running ops found
    rw [idle pri pc running ops] at found
    cases found
  have nothing : ∀ entry, next.taken ≠ some entry := by simp [taken]
  by_cases drained : count = 0
  · have empty : vipreIsEmpty watch.dsp.vipre = true := by
      rw [ring_filled _ number head count inv.ring, decide_eq_true drained]
    rw [pop_empty _ lineNum empty] at popped
    obtain ⟨same, -⟩ := Prod.mk.inj (Option.some.inj popped)
    refine ⟨head, count, oldest, by rw [← same]; exact inv.ring, by rw [← same]; exact inv.channels, by rw [stored]; exact inv.stored,
      by rw [← same, frames]; exact inv.frames, by rw [← same, memory]; exact inv.memory,
      fun entry present => absurd present (nothing entry), sound oldest (Nat.le_refl oldest) fun entry found => ?_, held⟩
    rw [head_frame_none watch number head count oldest inv drained] at found
    cases found
  · have filled : 0 < count := Nat.pos_of_ne_zero drained
    obtain ⟨handler, removed, ring, customer, channels, list⟩ := frame_ring_pop _ number head count inv.ring lineNum filled
    rw [popped] at removed
    obtain ⟨same, -⟩ := Prod.mk.inj (Option.some.inj removed)
    rw [← same] at ring customer channels list
    have inside := inv.ring.inside
    have bound := inv.ring.bound
    have index (step : Nat) (within : step < count - 1) : placeIndex number (nextHead number head) step =
        placeIndex number head (step + 1) := by
      rw [placeIndex, placeIndex, nextHead]
      split <;> split <;> split <;> omega
    have side (step : Nat) (within : step < count - 1) :
        placeSide number (nextHead number head) next.dsp.vipre.customerPingPongFlag step =
          placeSide number head watch.dsp.vipre.customerPingPongFlag (step + 1) := by
      rw [customer, placeSide, placeSide, placeSide, nextHead]
      by_cases last : head + 1 = number
      · rw [if_pos last, if_pos (by omega), if_neg (by omega), if_neg (by omega)]
      · rw [if_neg last, if_pos (show head + 1 < number by omega), Nat.add_assoc, Nat.add_comm 1 step]
    refine ⟨nextHead number head, count - 1, oldest + 1, ring, by rw [channels]; exact inv.channels,
      by rw [stored, inv.stored]; omega, fun step within => ?_, fun step within channel member => ?_,
      fun entry present => absurd present (nothing entry), sound (oldest + 1) (Nat.le_succ oldest) fun entry found => ?_, held⟩
    · rw [frames, index step within, side step within, inv.frames (step + 1) (by omega)]
      omega
    · rw [channels] at member
      rw [memory, index step within, inv.memory (step + 1) (by omega) channel member]
      omega
    · rw [head_frame_oldest watch number head count oldest inv filled] at found
      cases found
      exact ⟨rfl, Nat.lt_succ_self oldest⟩

theorem watch_task (next : FrameWatch) (scratch : Scratch) (algo : AlgoResult)
    (done : frameWatchStep watch (.task scratch algo) = some next) :
    ∃ nextHead nextCount nextOldest, WatchInv next number nextHead nextCount nextOldest := by
  obtain ⟨⟨pri, pc⟩, running, rest⟩ := Option.bind_eq_some_iff.mp done
  obtain ⟨⟨dsp, after⟩, taken, same⟩ := Option.bind_eq_some_iff.mp rest
  have step := frame_step watch.dsp dsp pri number head count inv.ring scratch algo pc after taken
  cases same
  have current (other : Nat) (place : HwPc) (found : stillRunning pri after = some (other, place)) : other = pri ∧ place = after := by
    cases after with
    | finish result => cases found
    | _ => cases found; exact ⟨rfl, rfl⟩
  cases popped : framePopped watch.dsp pri pc with
  | some byTask =>
      obtain ⟨rfl, held, last, lineNum, ok, removed⟩ := step.popped byTask popped
      have ops : (watch.dsp.tasks pri).fe.ops = some .vipre := by
        rw [framePopped.eq_def] at popped
        by_contra other
        rw [if_pos other] at popped
        cases popped
      obtain ⟨entry, found⟩ := Option.ne_none_iff_exists'.mp held
      obtain ⟨frame, -, present, -⟩ := inv.held pri pc entry running ops found
      refine watch_pop watch number head count oldest inv _ lineNum true ok removed rfl rfl rfl ?_ rfl
        ⟨fun _ => by rw [present]; simp, fun _ => rfl⟩ fun other place found _ => ?_
      · simp only [takenFrame, last, or_true, if_true]
      · rw [(current other place found).2, last]
  | none =>
      have vipre := step.same popped
      refine ⟨head, count, oldest, by dsimp only; rw [vipre]; exact inv.ring, by dsimp only; rw [vipre]; exact inv.channels, inv.stored,
        by dsimp only; rw [vipre]; exact inv.frames, by dsimp only; rw [vipre]; exact inv.memory, fun entry found => ?_, inv.pops,
        fun other place entry found ops held => ?_⟩
      · dsimp only at found ⊢
        rw [vipre]
        rw [takenFrame] at found
        split at found
        · cases found
        · rename_i busy
          rw [not_or, not_not] at busy
          split at found
          · rename_i fresh
            obtain ⟨ctrlInfo, held⟩ := Option.ne_none_iff_exists'.mp busy.2
            have filled := ((step.held ctrlInfo busy.1 held).2.2 fresh).1
            rw [head_frame_oldest watch number head count oldest inv filled] at found
            exact ⟨filled, (Option.some.inj found).symm⟩
          · exact inv.taken entry found
      · obtain ⟨rfl, rfl⟩ := current other place found
        dsimp only at ops ⊢
        rw [step.tasks] at ops
        obtain ⟨-, kept, fresh⟩ := step.held entry ops held
        have busy : ¬ ((watch.dsp.tasks other).fe.ops ≠ some .vipre ∨ place.held = none) := by simp [ops, held]
        rw [vipre, takenFrame, if_neg busy]
        by_cases get : pc = .getEntry
        · obtain ⟨filled, address⟩ := fresh get
          rw [if_pos get, head_frame_oldest watch number head count oldest inv filled]
          cases listed : activeChannels watch.dsp.vipre.activeChannle with
          | nil => exact absurd listed inv.channels
          | cons channel rest => exact ⟨_, (channel, head), rfl, rfl, address channel rest listed⟩
        · rw [if_neg get]
          exact inv.held other pc entry running ops (kept get)

theorem watch_step (next : FrameWatch) (event : FrameEvent) (keeps : KeepsFrames watch event)
    (done : frameWatchStep watch event = some next) :
    ∃ nextHead nextCount nextOldest, WatchInv next number nextHead nextCount nextOldest := by
  cases event with
  | frameDone content =>
      obtain ⟨handler, pushed, rfl⟩ := Option.map_eq_some_iff.mp done
      have room : count < number := by
        rw [KeepsFrames, ring_unpopped _ number head count inv.ring, inv.ring.buffers] at keeps
        exact keeps
      exact ⟨head, count + 1, oldest, watch_store watch number head count oldest inv handler content room pushed⟩
  | overflow =>
      obtain ⟨handler, popped, rfl⟩ := Option.map_eq_some_iff.mp done
      obtain ⟨⟨result, ok⟩, removed, rfl⟩ := Option.map_eq_some_iff.mp popped
      refine watch_pop watch number head count oldest inv _ 1 false ok removed rfl rfl rfl keeps rfl
        ⟨fun byTask => (by cases byTask), fun busy => absurd keeps busy⟩ fun pri pc running ops => ?_
      cases held : pc.held with
      | none => rfl
      | some entry =>
          obtain ⟨frame, -, present, -⟩ := inv.held pri pc entry running ops held
          rw [KeepsFrames, present] at keeps
          cases keeps
  | start pri =>
      rw [frameWatchStep, Option.ite_none_right_eq_some] at done
      obtain ⟨-, same⟩ := done
      cases same
      refine ⟨head, count, oldest, inv.ring, inv.channels, inv.stored, inv.frames, inv.memory, inv.taken, inv.pops,
        fun other place entry found ops held => ?_⟩
      cases found
      cases held
  | task scratch algo => exact watch_task watch number head count oldest inv next scratch algo done

end Watch

theorem watch_inv_kept (watch : FrameWatch) (number head count oldest : Nat) (inv : WatchInv watch number head count oldest) :
    FramesKept watch := by
  refine ⟨inv.pops.done, fun pop member other entry gone taken => ?_, inv.pops.once, inv.pops.named, fun entry taken buffer member => ?_, inv.held⟩
  · rw [inv.pops.dropped pop member other] at taken
    cases taken
  · obtain ⟨filled, same⟩ := inv.taken entry taken
    have inside := inv.ring.inside
    have bound := inv.ring.bound
    subst same
    obtain ⟨channel, active, rfl⟩ := List.mem_map.mp member
    have stored := inv.memory 0 filled channel active
    rw [placeIndex, if_pos (by omega)] at stored
    exact stored

theorem configured_ring (config : VipreConfigPar) (handler : SvipreHandler) (frameMode : config.lineNum = 0)
    (accepted : vipreConfigure config = some (handler, true)) :
    ∃ number, FrameRing handler number 0 0 ∧ activeChannels handler.activeChannle ≠ [] := by
  rw [vipreConfigure, if_pos frameMode, vipreFrameModeHandlerConfig] at accepted
  simp only at accepted
  split at accepted
  · cases accepted
  · split at accepted
    · cases accepted
    · rename_i few
      split at accepted
      · cases accepted
      · rename_i channels
        split at accepted
        · cases accepted
        · cases accepted
          have short : config.bufferNum.toNat / (activeChannels config.actChannel.toNat).length ≤ maxVipreBuffer :=
            Nat.div_le_of_le_mul (by rw [Nat.mul_comm]; exact Nat.le_of_not_lt few)
          refine ⟨config.bufferNum.toNat / (activeChannels config.actChannel.toNat).length,
            ⟨rfl, rfl, rfl, short, .inr rfl, Nat.zero_le _, ?_, ?_, ?_, fun _ => rfl, ?_⟩, fun none_ => channels (by rw [none_]; rfl)⟩
          · exact frame_fifo_reset _ _ 0
          · simp [resetFifo]
          · rfl
          · intro full positive
            omega

theorem configured_watch (config : VipreConfigPar) (dsp : Dsp) (frameMode : config.lineNum = 0)
    (accepted : vipreConfigure config = some (dsp.vipre, true)) : ∃ number, WatchInv (watchFrames dsp) number 0 0 0 := by
  obtain ⟨number, ring, channels⟩ := configured_ring config dsp.vipre frameMode accepted
  refine ⟨number, ring, channels, rfl, fun step none_ => absurd none_ (Nat.not_lt_zero step),
    fun step none_ => absurd none_ (Nat.not_lt_zero step), fun entry taken => (by cases taken), ⟨?_, ?_, List.nodup_nil, ?_, ?_⟩,
    fun pri pc entry running => (by cases running)⟩
  · exact fun pop member => absurd member List.not_mem_nil
  · exact fun pop member => absurd member List.not_mem_nil
  · exact fun pop member => absurd member List.not_mem_nil
  · exact fun pop member => absurd member List.not_mem_nil

-- In a run that keeps to the rules of the device, and in which no overflow
-- interrupt meets a frame in processing, the frames are kept.
theorem vipre_frames_kept (config : VipreConfigPar) (dsp : Dsp) (frameMode : config.lineNum = 0)
    (accepted : vipreConfigure config = some (dsp.vipre, true)) (finish : FrameWatch) (events : List FrameEvent)
    (keeps : Runs.Guarded frameWatchStep KeepsFrames (watchFrames dsp) events)
    (ran : Runs.run frameWatchStep (watchFrames dsp) events = some finish) : FramesKept finish := by
  obtain ⟨number, start⟩ := configured_watch config dsp frameMode accepted
  have preserved (watch : FrameWatch) (event : FrameEvent) (next : FrameWatch)
      (held : ∃ head count oldest, WatchInv watch number head count oldest) (guard : KeepsFrames watch event)
      (taken : frameWatchStep watch event = some next) : ∃ head count oldest, WatchInv next number head count oldest := by
    obtain ⟨head, count, oldest, inv⟩ := held
    exact watch_step watch number head count oldest inv next event guard taken
  obtain ⟨head, count, oldest, inv⟩ := Runs.guarded_run_invariant frameWatchStep KeepsFrames
    (fun watch => ∃ head count oldest, WatchInv watch number head count oldest) preserved (watchFrames dsp) finish events
    ⟨0, 0, 0, start⟩ keeps ran
  exact watch_inv_kept finish number head count oldest inv

instance (watch : FrameWatch) : ∀ event, Decidable (KeepsFrames watch event)
  | .frameDone _ => inferInstanceAs (Decidable (_ < _))
  | .overflow => inferInstanceAs (Decidable (_ = _))
  | .start _ | .task _ _ => inferInstanceAs (Decidable True)

-- One channel with two buffers.
def twoFrames : VipreConfigPar := ⟨0, 1, 0, 2, 0, 640, 480, 640, 0, fun buffer => if buffer = 0 then 0x10000 else 0x60000⟩

def frameTask : Dsp := (Runs.run statusStep (initDsp reportCmd anyReport)
  [.taskAlloc (some .hwToSw) true, .reportConfig 2 .setup 256, .feConfig 2 (.vipre twoFrames),
    .beConfig 2 (.host ⟨3, fun _ => zeroBuffer⟩ (some 100)),
    .algoConfig 2 ⟨0, 0, 0, 0, 0, 0⟩ (blocksEnv 200 (7, 2) (some 300)), .taskStart 2]).get (by decide)

def taskSteps (number : Nat) : List FrameEvent := List.replicate number (.task zeroScratch (.done []))

-- The second frame comes while the first is in processing, and an overflow
-- drops it afterwards.
theorem vipre_frames_kept_dropped : FramesKept ((Runs.run frameWatchStep (watchFrames frameTask)
    ([.frameDone zeroMeta, .start 0] ++ taskSteps 2 ++ [.frameDone zeroMeta] ++ taskSteps 6 ++ [.overflow])).get (by decide)) :=
  vipre_frames_kept twoFrames frameTask rfl rfl _ _ (by decide) (Option.some_get _).symm

-- An overflow takes the frame in processing, and entry_done the one after it.
theorem frame_recycled : ¬ ∀ (config : VipreConfigPar) (dsp : Dsp) (finish : FrameWatch) (events : List FrameEvent),
    config.lineNum = 0 → vipreConfigure config = some (dsp.vipre, true) →
      Runs.run frameWatchStep (watchFrames dsp) events = some finish → FramesKept finish := by
  intro claim
  let events := [.frameDone zeroMeta, .frameDone zeroMeta, .start 0] ++ taskSteps 2 ++ [.overflow] ++ taskSteps 3
  let finish := (Runs.run frameWatchStep (watchFrames frameTask) events).get (by decide)
  have kept := claim twoFrames frameTask finish events rfl rfl (Option.some_get _).symm
  have recycled : ∃ pop ∈ finish.pops, pop.done = true ∧ pop.taken ≠ pop.popped := by decide
  obtain ⟨pop, member, done, other⟩ := recycled
  obtain ⟨entry, taken, popped⟩ := kept.done pop member done
  exact other (taken.trans popped.symm)

end CsiDsp
