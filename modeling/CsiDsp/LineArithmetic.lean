import CsiDsp.LineCounter
import CsiDsp.RefusedPop
import CsiDsp.IspRecovery

set_option autoImplicit false

namespace CsiDsp

open CInt

-- What fill_hw_task_algo_param writes: the first two buffers of the algorithm
-- and the lines and frame data of its extra parameters.
structure HwAlgoParam where
  bufferNum : Nat
  input : CsiDspBuffer
  output : CsiDspBuffer
  startLine : Nat
  endLine : Nat
  totalLine : Nat
  frameMeta : FrameMeta
deriving DecidableEq, Repr

def fillHwTaskAlgoParam (param : HwAlgoParam) (inInfo : EntryStruct) (outInfo : CsiDspBuffer) : HwAlgoParam :=
  if param.bufferNum < 2 then param
  else
    let height := u32 inInfo.height
    let whole := height = inInfo.frameHeight
    { param with
      input := { param.input with
        height := height
        planeCount := 1
        bufPhy := inInfo.pBuff
        stride := u32 inInfo.pitch
        size := u32 (inInfo.height * inInfo.pitch) }
      startLine := if whole then 0 else inInfo.y
      endLine := if whole then 0 else u16 (inInfo.y + inInfo.height)
      totalLine := if whole then 0 else inInfo.frameHeight
      frameMeta := inInfo.frameMeta
      output := if outInfo.planeCount = 0 then
          { param.output with height := outInfo.height, format := outInfo.format, planeCount := 0 }
        else outInfo }

-- A line driver and the number of frames it has laid out in the ring so far.
structure LineRun where
  handler : SispHandler
  frames : Nat
deriving DecidableEq, Repr

def LineRun.fifo (run : LineRun) : Sfifo := producerFifo run.handler

inductive IspLineEvent where
  | nLines (line : UInt16)
  | frameDone
  | getEntry (list : SispBuffer × SispBuffer) (ctrlInfo : EntryStruct)
  | entryDone (ctrlInfo : EntryStruct)
  | updateState

def flipped (before after : SispHandler) : Nat :=
  if after.producePingPongFlag = before.producePingPongFlag then 0 else 1

-- The result none is a trap. The task calls isp_recovery_state_update in two states only.
def ispLineStep (run : LineRun) : IspLineEvent → Option LineRun
  | .nLines line => (ispInterruptHandler run.handler ⟨true, line, false⟩).map fun next =>
      ⟨next, run.frames + flipped run.handler next⟩
  | .frameDone => (ispInterruptHandler run.handler ⟨false, 0, true⟩).map fun next =>
      ⟨next, if run.handler.status = .recoverying then run.frames + 1 else run.frames⟩
  | .getEntry list ctrlInfo => (getIspNextEntry list run.handler ctrlInfo).map fun answer => { run with handler := answer.1 }
  | .entryDone ctrlInfo => some { run with handler := (ispEntryDone run.handler ctrlInfo).1 }
  | .updateState =>
      if run.handler.status = .overFlow ∨ run.handler.status = .recoverying then
        (ispRecoveryStateUpdate run.handler).map fun next =>
          ⟨next, if run.handler.status = .recoverying then run.frames + 1 else run.frames⟩
      else some run

def lastEntryLines (height entry : Nat) : Nat := if entry ∣ height then entry else height % entry

-- The lines of the next entry of a FIFO: a full entry where it holds one.
def entryHeight (height entry available : Nat) : Nat := if entry ≤ available then entry else lastEntryLines height entry

section Config

variable (config : SispConfigPar)

def ringLines : Nat := config.bufferSize.toNat / config.lineStride.toNat

-- The values of the configuration as the driver stores them.
structure ConfigExact (base : SispControlInfo) (used : Nat) : Prop where
  lines : base.lineNumPerBuffer = ringLines config
  lastEntry : base.lineNumInLastEntry = lastEntryLines config.ver.toNat config.lineInEntry.toNat
  pitch : base.sizePerLine = config.lineStride.toNat
  usedLines : base.lineNumUsedPerFrame = used

structure ImageExact (image : CsiDspBuffer) (height pitch : Nat) : Prop where
  heightEq : image.height = height
  strideEq : image.stride = pitch
  sizeEq : image.size = height * pitch

-- Every entry handed out in this state reaches the algorithm with its height, pitch and size.
def IspHandsExact (handler : SispHandler) : Prop :=
  ∀ list ctrlInfo next entry, getIspNextEntry list handler ctrlInfo = some (next, entry, true) →
    ∀ (param : HwAlgoParam) (outInfo : CsiDspBuffer), 2 ≤ param.bufferNum →
      ImageExact (fillHwTaskAlgoParam param entry outInfo).input
        (entryHeight config.ver.toNat config.lineInEntry.toNat
        ((handler.fifo.get handler.customerPingPongFlag).tail - (handler.fifo.get handler.customerPingPongFlag).head))
        config.lineStride.toNat

def FrameOffsetExact (run : LineRun) (used : Nat) : Prop :=
  run.fifo.offset = (run.frames * used % ringLines config : Nat)

-- The configuration is refused, or no run of the driver traps and every derived value is exact.
def IspArithmetic : Prop :=
  ∃ start ret, ispHandlerConfig (zeroHandler config.id.toNat) config = some (start, ret) ∧
    (ret = .ok → ConfigExact config start.base config.ver.toNat ∧
      ∀ events, ∃ finish, Runs.run ispLineStep ⟨start, 0⟩ events = some finish ∧
        FrameOffsetExact config finish config.ver.toNat ∧ IspHandsExact config finish.handler)

-- ispc_base_info_update refuses the configuration.
def IspRefused : Prop :=
  config.hor.toNat > maxHorizontal ∨ config.ver.toNat > maxVertical ∨ config.lineInEntry.toNat > linesMask ∨
    config.lineStride.toNat ≠ 0 ∧ (config.bufferSize.toNat % config.lineStride.toNat ≠ 0 ∨ config.bufferAddr.toNat = 0)

-- The divisors are positive, and the ring is neither empty nor too long for its
-- fields nor for the frames that follow each other.
structure RingFits (used : Nat) : Prop where
  stridePos : 0 < config.lineStride.toNat
  entryPos : 0 < config.lineInEntry.toNat
  linesPos : 0 < ringLines config
  linesMax : ringLines config ≤ 65535
  short : ∀ frame, frame * used % ringLines config < 32768

def IspGeometryFits : Prop :=
  IspRefused config ∨ RingFits config config.ver.toNat ∧
    (config.lineStride.toNat ≤ 32767 ∨ ringLines config < config.lineInEntry.toNat)

end Config

-- A side of the driver in use: a FIFO over the whole ring, which stays empty when
-- the ring does not hold an entry.
structure SideReady (base info : SispControlInfo) (fifo : Sfifo) : Prop where
  infoEq : info = base
  depth : fifo.depth = base.lineNumPerBuffer
  empty : base.lineNumPerBuffer < base.lineNumPerEntry → fifo.tail = fifo.head
  tailIn : fifo.tail < 65536
  aligned : ∃ frame, fifo.offset = (frameStart base frame : Nat)

structure RunReady (base : SispControlInfo) (handler : SispHandler) (frames : Nat) : Prop where
  baseEq : handler.base = base
  producer : SideReady base (producerInfo handler) (producerFifo handler)
  offset : (producerFifo handler).offset = (frameStart base frames : Nat)
  customer : handler.status = .ok ∨ handler.status = .recoveryDone →
    SideReady base (handler.info.get handler.customerPingPongFlag) (handler.fifo.get handler.customerPingPongFlag)

theorem next_base_runs (fifo : Sfifo) (info : SispControlInfo) (positive : 0 < fifo.depth) :
    nextBaseIndex fifo info = some (i16 (Int.tmod (fifo.offset + info.lineNumUsedPerFrame) fifo.depth)) := by
  rw [nextBaseIndex, if_neg (Nat.ne_of_gt positive)]

-- A new head or tail changes nothing else of a side.
theorem ready_moved (base : SispControlInfo) (fits : base.lineNumPerEntry ≤ base.lineNumPerBuffer) (fifos : PingPong Sfifo)
    (side other : Bool)
    (info : SispControlInfo) (head tail : Nat) (tailIn : tail < 65536) (held : SideReady base info (fifos.get other)) :
    SideReady base info ((fifos.set side { fifos.get side with head := head, tail := tail }).get other) := by
  rw [PingPong.get_set]
  split
  · rename_i same
    rw [← same]
    exact ⟨held.infoEq, held.depth, fun small => absurd fits (Nat.not_le_of_lt small), tailIn, held.aligned⟩
  · exact held

theorem ready_reset (base : SispControlInfo) (frame : Nat) :
    SideReady base base (resetFifo base.lineNumPerBuffer (frameStart base frame) base.lineNumPerFrame) :=
  ⟨rfl, rfl, fun _ => rfl, Nat.zero_lt_succ _, frame, rfl⟩

theorem push_runs (handler : SispHandler) (positive : 0 < (producerFifo handler).depth) (element : Nat) :
    ∃ next recorded, ispcPushNewLine handler element = some (next, recorded) := by
  have index (tail : Nat) := next_base_runs { handler.fifo.get handler.producePingPongFlag with tail := tail }
    (handler.info.get handler.producePingPongFlag) positive
  rw [ispcPushNewLine]
  split
  · exact ⟨_, _, rfl⟩
  · split
    · exact ⟨_, _, rfl⟩
    · by_cases space : isEnoughSpaceToPushFifo (handler.fifo.get handler.producePingPongFlag)
          (u16 ((handler.info.get handler.producePingPongFlag).lineNumPerEntry + ispcPushOffset handler : Nat)) = true
      · simp only [pushFifo, if_pos space, Bool.true_eq_false, if_false]
        split
        · rw [index]
          split <;> exact ⟨_, _, rfl⟩
        · exact ⟨_, _, rfl⟩
      · simp only [pushFifo, if_neg space, if_true]
        exact ⟨_, _, rfl⟩

section Ready

variable (base : SispControlInfo) (handler : SispHandler) (frames : Nat) (ready : RunReady base handler frames)

include ready

theorem ready_small_push_offset (ok : handler.status = .ok) (small : base.lineNumPerBuffer < base.lineNumPerEntry) :
    ispcPushOffset handler = 0 := by
  have empty := (ready.customer (.inl ok)).empty small
  rw [ispcPushOffset]
  split
  · rw [getElementNumFifo, empty, Int.sub_self]
    rfl
  · rfl

-- A ring shorter than an entry takes none.
theorem ready_push_fits (geometry : Geometry base) (element : Nat) (ok : handler.status = .ok) (next : SispHandler)
    (pushed : ispcPushNewLine handler element = some (next, true)) : base.lineNumPerEntry ≤ base.lineNumPerBuffer := by
  refine Nat.le_of_not_lt fun small => ?_
  have room := (push_taken handler element ok next pushed).room
  have entryMax := entry_bound base geometry
  have empty := ready.producer.empty small
  rw [ready.producer.infoEq, ready_small_push_offset base handler frames ready ok small, Nat.add_zero, u16_fits _ (by omega),
    isEnoughSpaceToPushFifo, decide_eq_true_eq, empty, ready.producer.depth] at room
  omega

theorem ready_failed (status : EhwErrorCode) (failed : ¬ (status = .ok ∨ status = .recoveryDone)) :
    RunReady base { handler with status := status } frames :=
  ⟨ready.baseEq, ready.producer, ready.offset, fun healthy => absurd healthy failed⟩

theorem ready_push_step (geometry : Geometry base) (short : ShortStarts base) (element : Nat) (next : SispHandler) (recorded : Bool)
    (pushed : ispcPushNewLine handler element = some (next, recorded)) :
    RunReady base next (frames + flipped handler next) := by
  have outcome := push_outcome handler next element recorded pushed
  cases outcome with
  | stopped failed =>
      rw [flipped, if_pos rfl]
      exact ready
  | unsized ok sized =>
      rw [flipped, if_pos rfl]
      exact ready_failed base handler frames ready _ (by decide)
  | crowded ok sized =>
      rw [flipped, if_pos rfl]
      refine ⟨ready.baseEq, ?_, ?_, fun healthy => ?_⟩
      · rw [producerFifo, PingPong.get_set_same]
        exact { ready.producer with }
      · rw [producerFifo, PingPong.get_set_same]
        exact ready.offset
      · rcases healthy with healthy | healthy <;> cases healthy
  | recorded ok sized tail moved more =>
      have fits := ready_push_fits base handler frames ready geometry element ok _ pushed
      have tailIn : tail < 65536 := by rw [moved]; exact u16_lt _
      rw [flipped, if_pos rfl]
      refine ⟨ready.baseEq, ready_moved base fits _ _ _ _ _ tail tailIn ready.producer, ?_, fun _ => ?_⟩
      · rw [producerFifo, PingPong.get_set_same]
        exact ready.offset
      · exact ready_moved base fits _ _ _ _ _ tail tailIn (ready.customer (.inl ok))
  | finished ok sized tail baseIndex moved last following =>
      have fits := ready_push_fits base handler frames ready geometry element ok _ pushed
      have flips : ¬ (!handler.producePingPongFlag) = handler.producePingPongFlag := Bool.not_ne_self _
      have info : handler.info.get handler.producePingPongFlag = base := ready.producer.infoEq
      rw [info, ready.baseEq, switch_buffer_same, if_neg Bool.false_ne_true] at following
      have start := next_base_start base _ frames baseIndex short ready.producer.depth ready.offset following
      have tailIn : tail < 65536 := by rw [moved]; exact u16_lt _
      have entered : SideReady base handler.base
          (resetFifo handler.base.lineNumPerBuffer baseIndex handler.base.lineNumPerFrame) := by
        rw [ready.baseEq, start]
        exact ready_reset base (frames + 1)
      rw [flipped, if_neg flips]
      refine ⟨ready.baseEq, ?_, ?_, fun _ => ?_⟩
      · rw [producerInfo, producerFifo, PingPong.get_set_same, PingPong.get_set_same]
        exact entered
      · rw [producerFifo, PingPong.get_set_same, start]
        rfl
      · dsimp only
        rw [PingPong.get_set, PingPong.get_set]
        split
        · exact entered
        · exact ready_moved base fits _ _ _ _ _ tail tailIn (ready.customer (.inl ok))

theorem ready_pop_step (count : Nat) : RunReady base (ispcPopNewLine handler count).1 frames := by
  by_cases idle : handler.status ≠ .ok ∨ isEmptyFifo (handler.fifo.get handler.customerPingPongFlag) = true
  · rw [isp_pop_idle handler count idle]
    exact ready
  · rw [not_or, Decidable.not_not] at idle
    have customer := ready.customer (.inl idle.1)
    have fits : base.lineNumPerEntry ≤ base.lineNumPerBuffer := by
      refine Nat.le_of_not_lt fun small => idle.2 ?_
      rw [isEmptyFifo, beq_iff_eq]
      exact customer.empty small
    have producer (head : Nat) := ready_moved base fits handler.fifo handler.customerPingPongFlag handler.producePingPongFlag
      _ head (handler.fifo.get handler.customerPingPongFlag).tail customer.tailIn ready.producer
    have offset (head : Nat) :=
      (pop_keeps_tail handler.fifo handler.customerPingPongFlag handler.producePingPongFlag head).2.1.trans ready.offset
    have outcome := pop_outcome handler count
    generalize ispcPopNewLine handler count = answer at outcome ⊢
    obtain ⟨next, taken⟩ := answer
    cases outcome with
    | idle => exact ready
    | kept ok head =>
        exact ⟨ready.baseEq, producer head, offset head, fun _ => ready_moved base fits _ _ _ _ head _ customer.tailIn customer⟩
    | outside ok head =>
        refine ⟨ready.baseEq, producer head, offset head, fun healthy => ?_⟩
        rcases healthy with healthy | healthy <;> cases healthy
    | finished ok head ahead =>
        refine ⟨ready.baseEq, producer head, offset head, fun _ => ?_⟩
        dsimp only
        rw [ahead]
        exact producer head
    | unswitched ok head =>
        refine ⟨ready.baseEq, producer head, offset head, fun healthy => ?_⟩
        rcases healthy with healthy | healthy <;> cases healthy

theorem ready_reset_step (positive : 0 < base.lineNumPerBuffer) (short : ShortStarts base) :
    ∃ next, ispcFifoReset handler = some next ∧ next.status = handler.status ∧
      next.customerPingPongFlag = next.producePingPongFlag ∧ RunReady base next (frames + 1) := by
  have index := next_base_runs (handler.fifo.get handler.producePingPongFlag) (handler.info.get handler.producePingPongFlag)
    (Nat.lt_of_lt_of_eq positive ready.producer.depth.symm)
  have reset : ∃ next, ispcFifoReset handler = some next := by
    rw [ispcFifoReset, index]
    exact ⟨_, rfl⟩
  obtain ⟨next, reset⟩ := reset
  have same := fifo_reset_start base handler next frames short ready.baseEq ready.producer.infoEq ready.producer.depth ready.offset reset
  refine ⟨next, reset, ?_, ?_, ?_⟩
  · rw [same]
  · rw [same]
  · rw [same]
    refine ⟨rfl, ?_, ?_, fun _ => ?_⟩
    · rw [producerInfo, producerFifo, PingPong.get_set_same, PingPong.get_set_same]
      exact ready_reset base (frames + 1)
    · rw [producerFifo, PingPong.get_set_same]
      rfl
    · dsimp only
      rw [PingPong.get_set_same, PingPong.get_set_same]
      exact ready_reset base (frames + 1)

end Ready

theorem last_entry_lines (base : SispControlInfo) (geometry : Geometry base) :
    0 < base.lineNumInLastEntry ∧ base.lineNumInLastEntry ≤ base.lineNumPerEntry := by
  have positive := geometry.entryPos
  have below := Nat.mod_lt base.lineNumPerFrame positive
  rw [geometry.last]
  split
  · exact ⟨positive, Nat.le_refl _⟩
  · exact ⟨by omega, by omega⟩

-- The lines of the entry isp_get_next_entry asks for.
def entryAsked (base : SispControlInfo) (fifo : Sfifo) : Nat :=
  if isEnoughElementToPopFifo fifo base.lineNumPerEntry then base.lineNumPerEntry else base.lineNumInLastEntry

section Handed

variable (base : SispControlInfo) (handler : SispHandler) (geometry : Geometry base)
variable (customer : SideReady base (handler.info.get handler.customerPingPongFlag) (handler.fifo.get handler.customerPingPongFlag))

include customer

theorem ready_head (positive : 0 < base.lineNumPerBuffer) (geometry : Geometry base) :
    ∃ start, getHeadFifo (handler.fifo.get handler.customerPingPongFlag) = some start ∧ start < base.lineNumPerBuffer := by
  obtain ⟨frame, aligned⟩ := customer.aligned
  have depthMax := geometry.depthMax
  refine ⟨_, frame_fifo_head _ base.lineNumPerBuffer _ (frameStart base frame) _ _
    ⟨rfl, rfl, customer.depth, rfl, aligned⟩ positive (by omega), ?_⟩
  exact Nat.mod_lt _ positive

-- An entry that goes over the end of the ring comes in two parts, and is not handed on.
theorem ready_entry_to_pop (positive : 0 < base.lineNumPerBuffer) (geometry : Geometry base) (pitchPos : 0 < base.sizePerLine)
    (filled : isEmptyFifo (handler.fifo.get handler.customerPingPongFlag) = false) (lineNum : Nat) (linePos : 0 < lineNum)
    (lineMax : lineNum ≤ base.lineNumPerEntry)
    (enough : isEnoughElementToPopFifo (handler.fifo.get handler.customerPingPongFlag) lineNum = true) (list : SispBuffer × SispBuffer) :
    ∃ entry, ispcGetEntryToPop handler lineNum list = some (entry, true) ∧
      (entry.2.size = 0 → entry.1.lineNum = lineNum ∧ entry.1.lineSize = base.sizePerLine) := by
  have fits : base.lineNumPerEntry ≤ base.lineNumPerBuffer := by
    refine Nat.le_of_not_lt fun small => ?_
    rw [isEmptyFifo, beq_eq_false_iff_ne] at filled
    exact filled (customer.empty small)
  have tailIn := customer.tailIn
  have entryMax := entry_bound base geometry
  have depthMax := geometry.depthMax
  have pitchMax := geometry.lineMax
  rw [isEnoughElementToPopFifo, decide_eq_true_eq] at enough
  obtain ⟨frame, aligned⟩ := customer.aligned
  have elements := frame_fifo_elements (handler.fifo.get handler.customerPingPongFlag) _ _ (frameStart base frame) _ _
    ⟨rfl, rfl, rfl, rfl, aligned⟩ (by omega) tailIn
  obtain ⟨start, head, below⟩ := ready_head base handler customer positive geometry
  have allowed : (decide (lineNum > base.lineNumPerBuffer) ||
      decide (lineNum > getElementNumFifo (handler.fifo.get handler.customerPingPongFlag))) = false := by
    rw [elements, decide_eq_false (by omega), decide_eq_false (by omega)]
    rfl
  simp only [ispcGetEntryToPop, filled, customer.depth, customer.infoEq, allowed, head, Option.bind_eq_bind, Option.bind_some,
    Bool.false_eq_true, if_false]
  by_cases whole : base.lineNumPerBuffer ≥ start + lineNum
  · rw [if_pos whole]
    exact ⟨_, rfl, fun _ => ⟨rfl, rfl⟩⟩
  · rw [if_neg whole]
    refine ⟨_, rfl, fun nothing => ?_⟩
    dsimp only at nothing
    have upper : u16 ((base.lineNumPerBuffer : Int) - (start : Int)) = base.lineNumPerBuffer - start := by
      rw [← Int.ofNat_sub (by omega), u16_fits _ (by omega)]
    have lower : u16 ((lineNum : Int) - ((base.lineNumPerBuffer - start : Nat) : Int)) = lineNum - (base.lineNumPerBuffer - start) := by
      rw [← Int.ofNat_sub (by omega), u16_fits _ (by omega)]
    have small : (lineNum - (base.lineNumPerBuffer - start)) * base.sizePerLine < 8192 * 65536 :=
      Nat.mul_lt_mul'' (by omega) pitchMax
    have some : 0 < (lineNum - (base.lineNumPerBuffer - start)) * base.sizePerLine := Nat.mul_pos (by omega) pitchPos
    rw [upper, lower, u32_fits _ (by omega)] at nothing
    omega

end Handed

section Get

variable (base : SispControlInfo) (handler : SispHandler) (geometry : Geometry base) (positive : 0 < base.lineNumPerBuffer)
variable (pitchPos : 0 < base.sizePerLine)
variable (customer : handler.status = .ok →
  SideReady base (handler.info.get handler.customerPingPongFlag) (handler.fifo.get handler.customerPingPongFlag))

include geometry positive pitchPos customer

theorem ready_get_entry (list : SispBuffer × SispBuffer) : ∃ next entry found, ispGetNextEntry handler list = some (next, entry, found) ∧
    (found = true → isEmptyFifo (handler.fifo.get handler.customerPingPongFlag) = false ∧ next = handler ∧
      (entry.2.size = 0 → entry.1.lineNum = entryAsked base (handler.fifo.get handler.customerPingPongFlag) ∧
        entry.1.lineSize = base.sizePerLine)) := by
  by_cases ok : handler.status = .ok
  · have customer := customer ok
    have lastLines := last_entry_lines base geometry
    cases filled : isEmptyFifo (handler.fifo.get handler.customerPingPongFlag) with
    | true => exact ⟨_, _, _, get_entry_empty handler list filled, Bool.noConfusion⟩
    | false =>
        have pop (lineNum : Nat) := ready_entry_to_pop base handler customer positive geometry pitchPos filled lineNum
        rw [ispGetNextEntry]
        simp only [ok, ne_eq, not_true_eq_false, filled, Bool.false_eq_true, if_false, customer.infoEq]
        cases full : isEnoughElementToPopFifo (handler.fifo.get handler.customerPingPongFlag) base.lineNumPerEntry with
        | true =>
            obtain ⟨entry, found, exact⟩ := pop base.lineNumPerEntry geometry.entryPos (Nat.le_refl _) full list
            refine ⟨handler, entry, true, ?_, fun _ => ⟨trivial, rfl, ?_⟩⟩
            · rw [if_pos rfl, found]
              rfl
            · rw [entryAsked, full, if_pos rfl]
              exact exact
        | false =>
            rw [if_neg Bool.false_ne_true]
            cases short : isEnoughElementToPopFifo (handler.fifo.get handler.customerPingPongFlag) base.lineNumInLastEntry with
            | true =>
                obtain ⟨entry, found, exact⟩ := pop base.lineNumInLastEntry lastLines.1 lastLines.2 short list
                refine ⟨handler, entry, true, ?_, fun _ => ⟨trivial, rfl, ?_⟩⟩
                · rw [if_pos rfl, found]
                  rfl
                · rw [entryAsked, full, if_neg Bool.false_ne_true]
                  exact exact
            | false => exact ⟨_, _, _, rfl, Bool.noConfusion⟩
  · exact ⟨_, _, _, get_entry_after_error handler list ok, Bool.noConfusion⟩

theorem ready_get_isp (list : SispBuffer × SispBuffer) (ctrlInfo : EntryStruct) :
    ∃ next entry found, getIspNextEntry list handler ctrlInfo = some (next, entry, found) ∧
      (next = handler ∨ handler.status = .ok ∧ next = { handler with status := .popFail }) ∧
      (found = true → isEmptyFifo (handler.fifo.get handler.customerPingPongFlag) = false ∧
        entry.height = i16 (entryAsked base (handler.fifo.get handler.customerPingPongFlag)) ∧ entry.pitch = i16 base.sizePerLine) := by
  obtain ⟨next, parts, found, got, handed⟩ := ready_get_entry base handler geometry positive pitchPos customer list
  have outcome := get_outcome handler next list parts found got
  rw [getIspNextEntry, got]
  dsimp only [Option.bind_eq_bind, Option.bind_some]
  cases found with
  | false => exact ⟨next, _, _, rfl, outcome, Bool.noConfusion⟩
  | true =>
      obtain ⟨filled, -, whole⟩ := handed rfl
      by_cases split : parts.2.size ≠ 0
      · exact ⟨next, _, _, by rw [if_neg Bool.noConfusion, if_pos split], outcome, Bool.noConfusion⟩
      · obtain ⟨lineNum, lineSize⟩ := whole (Decidable.not_not.mp split)
        refine ⟨next, _, _, by rw [if_neg Bool.noConfusion, if_neg split], outcome, fun _ => ⟨filled, ?_, ?_⟩⟩
        · dsimp only
          rw [lineNum]
        · dsimp only
          rw [lineSize]

end Get

theorem n_lines_step (run : LineRun) (line : UInt16) (next : SispHandler) (recorded : Bool)
    (pushed : ispcPushNewLine run.handler (u16 ((line.toNat : Int) - ispcGetPushedLineNum run.handler)) = some (next, recorded)) :
    ispLineStep run (.nLines line) = some ⟨{ next with currentNValue := line.toNat }, run.frames + flipped run.handler next⟩ := by
  simp only [ispLineStep, ispInterruptHandler, ispServeNLines, pushed, if_true, Option.bind_eq_bind, Option.bind_some,
    Bool.false_eq_true, if_false, Option.map_some]
  rfl

section IspRun

variable (base : SispControlInfo) (geometry : Geometry base) (positive : 0 < base.lineNumPerBuffer) (pitchPos : 0 < base.sizePerLine)
variable (short : ShortStarts base)

include geometry positive pitchPos short

theorem ready_isp_step (run : LineRun) (event : IspLineEvent) (ready : RunReady base run.handler run.frames) :
    ∃ next, ispLineStep run event = some next ∧ RunReady base next.handler next.frames := by
  have reset := ready_reset_step base run.handler run.frames ready positive short
  cases event with
  | nLines line =>
      obtain ⟨next, recorded, pushed⟩ := push_runs run.handler (Nat.lt_of_lt_of_eq positive ready.producer.depth.symm)
        (u16 ((line.toNat : Int) - ispcGetPushedLineNum run.handler))
      have kept := ready_push_step base run.handler run.frames ready geometry short _ next recorded pushed
      exact ⟨_, n_lines_step run line next recorded pushed, kept.baseEq, kept.producer, kept.offset, kept.customer⟩
  | frameDone =>
      simp only [ispLineStep, ispInterruptHandler, Bool.false_eq_true, if_false, if_true, serve_frame_done, Option.bind_eq_bind,
        Option.bind_some]
      by_cases done : run.handler.status = .recoveryDone
      · refine ⟨⟨{ run.handler with status := .ok }, run.frames⟩, ?_, ?_⟩
        · rw [if_pos done, done]
          rfl
        · exact ⟨ready.baseEq, ready.producer, ready.offset, fun _ => ready.customer (.inr done)⟩
      · rw [if_neg done]
        by_cases recovering : run.handler.status = .recoverying
        · obtain ⟨next, taken, -, -, kept⟩ := reset
          refine ⟨⟨next, run.frames + 1⟩, ?_, kept⟩
          rw [if_pos recovering, if_pos recovering, ispFifoReset, taken]
          rfl
        · refine ⟨run, ?_, ready⟩
          rw [if_neg recovering, if_neg recovering]
          rfl
  | getEntry list ctrlInfo =>
      obtain ⟨next, entry, found, got, outcome, -⟩ := ready_get_isp base run.handler geometry positive pitchPos
        (fun ok => ready.customer (.inl ok)) list ctrlInfo
      refine ⟨⟨next, run.frames⟩, ?_, ?_⟩
      · rw [ispLineStep, got]
        rfl
      · rcases outcome with same | ⟨ok, failed⟩
        · rw [same]
          exact ready
        · rw [failed]
          exact ready_failed base run.handler run.frames ready _ (by decide)
  | entryDone ctrlInfo => exact ⟨_, rfl, ready_pop_step base run.handler run.frames ready (u16 ctrlInfo.height)⟩
  | updateState =>
      by_cases called : run.handler.status = .overFlow ∨ run.handler.status = .recoverying
      · rw [ispLineStep, if_pos called]
        rcases called with overflow | recovering
        · refine ⟨⟨{ run.handler with status := .recoverying }, run.frames⟩, ?_, ?_⟩
          · rw [ispRecoveryStateUpdate, overflow]
            rfl
          · exact ready_failed base run.handler run.frames ready _ (by decide)
        · obtain ⟨next, taken, -, sides, kept⟩ := reset
          refine ⟨⟨{ next with status := .recoveryDone }, run.frames + 1⟩, ?_, ?_⟩
          · rw [ispRecoveryStateUpdate, recovering, ispFifoReset, taken]
            rfl
          · refine ⟨kept.baseEq, kept.producer, kept.offset, fun _ => ?_⟩
            dsimp only
            rw [sides]
            exact kept.producer
      · refine ⟨run, ?_, ready⟩
        rw [ispLineStep, if_neg called]

end IspRun

-- The base information of an accepted configuration.
def acceptedInfo (config : SispConfigPar) (used : Nat) : SispControlInfo := {
  lineNumPerEntry := config.lineInEntry.toNat
  lineNumPerFrame := config.ver.toNat
  lineNumInLastEntry := if config.ver.toNat % config.lineInEntry.toNat = 0 then config.lineInEntry.toNat
    else config.ver.toNat % config.lineInEntry.toNat
  sizePerLine := config.lineStride.toNat
  lineNumPerBuffer := u16 (config.bufferSize.toNat / config.lineStride.toNat : Nat)
  lineNumUsedPerFrame := used
  format := config.dataFmt.toNat
  frameBufferAddr := config.bufferAddr.toNat }

section Accepted

variable (config : SispConfigPar)

theorem base_info_refused (base : SispControlInfo) (refused : IspRefused config) :
    ispcBaseInfoUpdate base config = some (base, .parmaInvalid) := by
  rw [ispcBaseInfoUpdate]
  by_cases large : config.hor.toNat > maxHorizontal ∨ config.ver.toNat > maxVertical ∨ config.lineInEntry.toNat > linesMask
  · rw [if_pos (by simpa [or_assoc] using large)]
  · have unfit : config.lineStride.toNat ≠ 0 ∧
        (config.bufferSize.toNat % config.lineStride.toNat ≠ 0 ∨ config.bufferAddr.toNat = 0) := by
      rcases refused with hor | ver | entry | unfit
      · exact absurd (.inl hor) large
      · exact absurd (.inr (.inl ver)) large
      · exact absurd (.inr (.inr entry)) large
      · exact unfit
    rw [if_neg (by simpa [or_assoc] using large), if_neg unfit.1, if_pos (by simpa using unfit.2)]

variable (passed : ¬ IspRefused config)

include passed

theorem base_info_passed (base : SispControlInfo) : ispcBaseInfoUpdate base config =
    if 0 < config.lineStride.toNat ∧ 0 < config.lineInEntry.toNat then some (acceptedInfo config base.lineNumUsedPerFrame, .ok)
    else none := by
  rw [IspRefused, not_or, not_or, not_or] at passed
  obtain ⟨hor, ver, entry, fit⟩ := passed
  have small : ¬ ((decide (config.hor.toNat > maxHorizontal) || decide (config.ver.toNat > maxVertical) ||
      decide (config.lineInEntry.toNat > linesMask)) = true) := by
    rw [decide_eq_false hor, decide_eq_false ver, decide_eq_false entry]
    exact Bool.false_ne_true
  rw [ispcBaseInfoUpdate, if_neg small]
  by_cases stride : config.lineStride.toNat = 0
  · rw [if_pos stride, if_neg fun held => Nat.ne_of_gt held.1 stride]
  · have divides : ¬ ((config.bufferSize.toNat % config.lineStride.toNat != 0 || config.bufferAddr.toNat == 0) = true) := by
      intro unfit
      rw [Bool.or_eq_true, bne_iff_ne, beq_iff_eq] at unfit
      exact fit ⟨stride, unfit⟩
    rw [if_neg stride, if_neg divides]
    by_cases lines : config.lineInEntry.toNat = 0
    · rw [if_pos lines, if_neg fun held => Nat.ne_of_gt held.2 lines]
    · rw [if_neg lines, if_pos ⟨Nat.pos_of_ne_zero stride, Nat.pos_of_ne_zero lines⟩]
      rfl

theorem accepted_geometry (used : Nat) (entryPos : 0 < config.lineInEntry.toNat) : Geometry (acceptedInfo config used) := by
  rw [IspRefused, not_or, not_or, not_or] at passed
  obtain ⟨-, ver, entry, -⟩ := passed
  exact ⟨entryPos, Nat.le_of_not_lt entry, Nat.le_of_not_lt ver,
    u16_lt ((config.bufferSize.toNat / config.lineStride.toNat : Nat) : Int), config.lineStride.toNat_lt, rfl⟩

omit passed

theorem accepted_last (used : Nat) :
    (acceptedInfo config used).lineNumInLastEntry = lastEntryLines config.ver.toNat config.lineInEntry.toNat := by
  simp only [lastEntryLines, Nat.dvd_iff_mod_eq_zero]
  rfl

theorem accepted_exact (used : Nat) (linesMax : ringLines config ≤ 65535) : ConfigExact config (acceptedInfo config used) used := by
  have lines : (acceptedInfo config used).lineNumPerBuffer = ringLines config := u16_fits _ (Nat.lt_succ_of_le linesMax)
  exact ⟨lines, accepted_last config used, rfl, rfl⟩

theorem fits_ready (used : Nat) (handler : SispHandler) :
    RunReady (acceptedInfo config used) (ispcStart handler (acceptedInfo config used)) 0 := by
  have side := ready_reset (acceptedInfo config used) 0
  have first : frameStart (acceptedInfo config used) 0 = 0 := by
    rw [frameStart, Nat.zero_mul, Nat.zero_mod]
  rw [first] at side
  refine ⟨rfl, ?_, ?_, fun _ => ?_⟩
  · rw [producerInfo, producerFifo, ispcStart, PingPong.get_set_same, PingPong.get_set_same]
    exact side
  · rw [producerFifo, ispcStart, PingPong.get_set_same, first]
    rfl
  · rw [ispcStart]
    dsimp only
    rw [PingPong.get_set_same, PingPong.get_set_same]
    exact side

end Accepted

theorem fill_image (param : HwAlgoParam) (entry : EntryStruct) (outInfo : CsiDspBuffer) (height pitch : Nat)
    (two : 2 ≤ param.bufferNum) (heightEq : entry.height = height) (pitchEq : entry.pitch = pitch)
    (heightMax : height < 8192) (pitchMax : pitch < 32768) :
    ImageExact (fillHwTaskAlgoParam param entry outInfo).input height pitch := by
  have product : height * pitch < 8192 * 32768 := Nat.mul_lt_mul'' heightMax pitchMax
  rw [fillHwTaskAlgoParam, if_neg (Nat.not_lt.mpr two), heightEq, pitchEq, ← Int.natCast_mul]
  exact ⟨u32_fits _ (by omega), u32_fits _ (by omega), u32_fits _ (by omega)⟩

theorem entry_asked (config : SispConfigPar) (used : Nat) (fifo : Sfifo) (entryPos : 0 < config.lineInEntry.toNat) :
    entryAsked (acceptedInfo config used) fifo =
      entryHeight config.ver.toNat config.lineInEntry.toNat (fifo.tail - fifo.head) := by
  rw [entryAsked, entryHeight, isEnoughElementToPopFifo, accepted_last]
  by_cases full : fifo.head + (acceptedInfo config used).lineNumPerEntry ≤ fifo.tail
  · have enough : config.lineInEntry.toNat ≤ fifo.tail - fifo.head := Nat.le_sub_of_add_le' full
    rw [if_pos (decide_eq_true full), if_pos enough]
    rfl
  · have scarce : ¬ config.lineInEntry.toNat ≤ fifo.tail - fifo.head := fun enough => full (Nat.add_le_of_le_sub' (by omega) enough)
    rw [if_neg (Bool.eq_false_iff.mp (decide_eq_false full)), if_neg scarce]

theorem handed_ok (handler : SispHandler) (list : SispBuffer × SispBuffer) (ctrlInfo entry : EntryStruct) (next : SispHandler)
    (got : getIspNextEntry list handler ctrlInfo = some (next, entry, true)) : handler.status = .ok := by
  refine Decidable.not_not.mp fun failed => ?_
  rw [getIspNextEntry, get_entry_after_error handler list failed] at got
  cases got

theorem isp_fits_exact (config : SispConfigPar) (passed : ¬ IspRefused config) (fits : RingFits config config.ver.toNat)
    (pitch : config.lineStride.toNat ≤ 32767 ∨ ringLines config < config.lineInEntry.toNat) : IspArithmetic config := by
  have geometry := accepted_geometry config passed config.ver.toNat fits.entryPos
  have exact := accepted_exact config config.ver.toNat fits.linesMax
  have lines : (acceptedInfo config config.ver.toNat).lineNumPerBuffer = ringLines config := exact.lines
  have positive : 0 < (acceptedInfo config config.ver.toNat).lineNumPerBuffer := Nat.lt_of_lt_of_eq fits.linesPos lines.symm
  have start (frame : Nat) : frameStart (acceptedInfo config config.ver.toNat) frame =
      frame * config.ver.toNat % ringLines config := by
    rw [frameStart, lines]
    rfl
  have short : ShortStarts (acceptedInfo config config.ver.toNat) := by
    intro frame
    rw [start]
    exact fits.short frame
  refine ⟨ispcStart (zeroHandler config.id.toNat) (acceptedInfo config config.ver.toNat), .ok, ?_, fun _ => ⟨exact, fun events => ?_⟩⟩
  · rw [ispHandlerConfig, base_info_passed config passed, if_pos ⟨fits.stridePos, fits.entryPos⟩]
    rfl
  · obtain ⟨finish, ran, ready⟩ := Runs.run_total ispLineStep
      (fun run => RunReady (acceptedInfo config config.ver.toNat) run.handler run.frames)
      (fun run event held => ready_isp_step _ geometry positive fits.stridePos short run event held)
      ⟨ispcStart (zeroHandler config.id.toNat) (acceptedInfo config config.ver.toNat), 0⟩ events
      (fits_ready config config.ver.toNat (zeroHandler config.id.toNat))
    refine ⟨finish, ran, ?_, fun list ctrlInfo next entry got param outInfo two => ?_⟩
    · rw [FrameOffsetExact, LineRun.fifo, ready.offset, start]
    · obtain ⟨after, handed, found, gotten, -, exactly⟩ := ready_get_isp _ finish.handler geometry positive fits.stridePos
        (fun ok => ready.customer (.inl ok)) list ctrlInfo
      cases got.symm.trans gotten
      obtain ⟨filled, height, pitchEq⟩ := exactly rfl
      have healthy : finish.handler.status = .ok := handed_ok finish.handler list ctrlInfo entry next got
      have customer := ready.customer (.inl healthy)
      have near : config.lineStride.toNat < 32768 := by
        rcases pitch with near | small
        · exact Nat.lt_succ_of_le near
        · rw [isEmptyFifo, beq_eq_false_iff_ne] at filled
          exact absurd (customer.empty (by rw [lines]; exact small)) filled
      have asked := entry_asked config config.ver.toNat (finish.handler.fifo.get finish.handler.customerPingPongFlag) fits.entryPos
      have heightMax : entryAsked (acceptedInfo config config.ver.toNat)
          (finish.handler.fifo.get finish.handler.customerPingPongFlag) < 8192 := by
        have lastLines := last_entry_lines _ geometry
        have entryMax := entry_bound _ geometry
        rw [entryAsked]
        split <;> omega
      rw [← asked]
      exact fill_image param entry outInfo _ _ two (height.trans (i16_fits _ (by omega))) (pitchEq.trans (i16_fits _ near)) heightMax near

-- The line counter that makes the driver record one entry.
theorem one_entry_line (tail entry : Nat) (entryIn : entry < 65536) :
    u16 (((UInt16.ofNat (tail + entry)).toNat : Int) - i16 (tail : Int)) = entry := by
  have counter : ((UInt16.ofNat (tail + entry)).toNat : Int) = ((tail : Int) + entry) % 65536 := by
    rw [UInt16.toNat_ofNat']
    omega
  have stored : i16 (tail : Int) % 65536 = (tail : Int) % 65536 := by
    have kept : (tail : Int).bmod (2 ^ 16) % ((2 ^ 16 : Nat) : Int) = (tail : Int) % ((2 ^ 16 : Nat) : Int) := Int.bmod_emod
    rw [i16, wrapS]
    omega
  have taken : (((UInt16.ofNat (tail + entry)).toNat : Int) - i16 (tail : Int)) % 65536 = entry := by
    rw [counter, Int.sub_emod, stored]
    omega
  rw [u16, wrapU]
  exact congrArg Int.toNat taken

theorem i16_lt (value : Int) : i16 value < 32768 := by
  have below : value.bmod (2 ^ 16) < ((2 ^ 16 : Nat) + 1) / 2 := Int.bmod_lt (Nat.two_pow_pos 16)
  rw [i16, wrapS]
  omega

-- A pitch that does not fit sixteen signed bits does not come through them.
theorem narrow_pitch (pitch : Nat) (pitchIn : pitch < 65536) (same : u32 (i16 pitch) = pitch) : pitch < 32768 := by
  have low : -((2 ^ 16 : Nat) / 2 : Int) ≤ (pitch : Int).bmod (2 ^ 16) := Int.le_bmod (Nat.two_pow_pos 16)
  have high := i16_lt (pitch : Int)
  rw [i16, wrapS] at high
  rw [u32, wrapU, i16, wrapS] at same
  omega

-- What a run that only pushes entries keeps of the driver, until an entry is refused.
structure Pushing (base : SispControlInfo) (handler : SispHandler) : Prop where
  ok : handler.status = .ok
  baseEq : handler.base = base
  info : producerInfo handler = base
  depth : (producerFifo handler).depth = base.lineNumPerBuffer
  head : (producerFifo handler).head = 0
  tailMax : (producerFifo handler).tail ≤ base.lineNumPerBuffer
  maxIndex : (producerFifo handler).maxIndex = base.lineNumPerFrame
  near : (producerFifo handler).offset < 32768
  unread : ispcPushOffset handler ≤ base.lineNumPerFrame

-- After the refused entry only frames that are given up follow.
structure GivingUp (base : SispControlInfo) (handler : SispHandler) : Prop where
  recovering : handler.status = .recoverying
  depth : (producerFifo handler).depth = base.lineNumPerBuffer
  baseEq : handler.base = base
  near : (producerFifo handler).offset < 32768

-- The producer's own FIFO does not count among the lines of the other side.
theorem push_offset_own (handler : SispHandler) (fifo : Sfifo) :
    ispcPushOffset { handler with fifo := handler.fifo.set handler.producePingPongFlag fifo } = ispcPushOffset handler := by
  rw [ispcPushOffset, ispcPushOffset]
  by_cases same : handler.customerPingPongFlag = handler.producePingPongFlag
  · simp only [same, bne_self_eq_false, Bool.false_and, Bool.false_eq_true, if_false]
  · dsimp only
    rw [PingPong.get_set, if_neg same]

-- Once the sides have parted, the other side holds what the consumer has left of its frame.
theorem push_offset_flip (handler next : SispHandler) (height : Nat) (flips : next.producePingPongFlag = !handler.producePingPongFlag)
    (kept : next.customerPingPongFlag = handler.customerPingPongFlag)
    (held : getElementNumFifo (next.fifo.get handler.producePingPongFlag) ≤ height) : ispcPushOffset next ≤ height := by
  rw [ispcPushOffset]
  split
  · rename_i parted
    rw [Bool.and_eq_true, bne_iff_ne, flips, kept] at parted
    have side : handler.customerPingPongFlag = handler.producePingPongFlag :=
      Bool.not_eq_not.mp parted.1.symm
    rw [kept, side]
    exact held
  · exact Nat.zero_le _

-- The N-line interrupt notes the line counter of the hardware as well.
theorem pushing_noted (base : SispControlInfo) (handler : SispHandler) (pushing : Pushing base handler) (line : Nat) :
    Pushing base { handler with currentNValue := line } :=
  ⟨pushing.ok, pushing.baseEq, pushing.info, pushing.depth, pushing.head, pushing.tailMax, pushing.maxIndex, pushing.near,
    pushing.unread⟩

theorem pushing_recorded (base : SispControlInfo) (handler : SispHandler) (pushing : Pushing base handler) (tail : Nat)
    (room : tail ≤ base.lineNumPerBuffer) : Pushing base { handler with
      fifo := handler.fifo.set handler.producePingPongFlag
        { handler.fifo.get handler.producePingPongFlag with tail := tail } } := by
  have here : producerFifo { handler with
      fifo := handler.fifo.set handler.producePingPongFlag { handler.fifo.get handler.producePingPongFlag with tail := tail } } =
      { producerFifo handler with tail := tail } := PingPong.get_set_same _ _ _
  constructor
  · exact pushing.ok
  · exact pushing.baseEq
  · exact pushing.info
  · rw [here]
    exact pushing.depth
  · rw [here]
    exact pushing.head
  · rw [here]
    exact room
  · rw [here]
    exact pushing.maxIndex
  · rw [here]
    exact pushing.near
  · exact Nat.le_trans (Nat.le_of_eq (push_offset_own handler _)) pushing.unread

theorem pushing_flipped (base : SispControlInfo) (handler : SispHandler) (pushing : Pushing base handler) (tail : Nat) (baseIndex : Int)
    (near : baseIndex < 32768) (height : tail ≤ base.lineNumPerFrame) (small : tail < 65536) : Pushing base { handler with
      info := handler.info.set (!handler.producePingPongFlag) handler.base
      interactCounter := 0
      producePingPongFlag := !handler.producePingPongFlag
      fifo := (handler.fifo.set handler.producePingPongFlag
        { handler.fifo.get handler.producePingPongFlag with tail := tail }).set (!handler.producePingPongFlag)
          (resetFifo handler.base.lineNumPerBuffer baseIndex handler.base.lineNumPerFrame) } := by
  have base_ : handler.base = base := pushing.baseEq
  have head : (handler.fifo.get handler.producePingPongFlag).head = 0 := pushing.head
  constructor
  · exact pushing.ok
  · exact base_
  · rw [producerInfo, PingPong.get_set_same]
    exact base_
  · rw [producerFifo, PingPong.get_set_same, base_]
    rfl
  · rw [producerFifo, PingPong.get_set_same]
    rfl
  · rw [producerFifo, PingPong.get_set_same]
    exact Nat.zero_le _
  · rw [producerFifo, PingPong.get_set_same, base_]
    rfl
  · rw [producerFifo, PingPong.get_set_same]
    exact near
  · refine push_offset_flip handler _ _ rfl rfl ?_
    dsimp only
    rw [PingPong.get_set_flipped, PingPong.get_set_same, getElementNumFifo]
    dsimp only
    rw [head, Int.natCast_zero, Int.sub_zero, u16_fits _ small]
    exact height

theorem full_entry_sized (base : SispControlInfo) (handler : SispHandler) (info : producerInfo handler = base) :
    acceptsSize handler base.lineNumPerEntry = true := by
  rw [producerInfo] at info
  rw [acceptsSize, info, decide_eq_false (Nat.lt_irrefl _), decide_eq_false (by omega)]
  rfl

section Reach

variable (base : SispControlInfo) (geometry : Geometry base) (positive : 0 < base.lineNumPerBuffer)

include geometry positive

-- Entry by entry the producer comes to the next frame, or finds the ring full.
theorem pushing_step (run : LineRun) (pushing : Pushing base run.handler) : ∃ line next, ispLineStep run (.nLines line) = some next ∧
    (next.handler.status = .overFlow ∧ next.frames = run.frames ∧ producerFifo next.handler =
        { producerFifo run.handler with status := .overflow } ∧ next.handler.base = base ∨
      next.frames = run.frames ∧ Pushing base next.handler ∧ (producerFifo run.handler).tail < (producerFifo next.handler).tail ∨
      next.frames = run.frames + 1 ∧ Pushing base next.handler) := by
  have depthMax := geometry.depthMax
  have entryMax := entry_bound base geometry
  have entryPos := geometry.entryPos
  have frameMax := frame_bound base geometry
  have tailMax := pushing.tailMax
  have unread := pushing.unread
  have element := one_entry_line (producerFifo run.handler).tail base.lineNumPerEntry (by omega)
  have sized := full_entry_sized base run.handler pushing.info
  obtain ⟨next, recorded, pushed⟩ := push_runs run.handler (Nat.lt_of_lt_of_eq positive pushing.depth.symm) base.lineNumPerEntry
  have outcome := push_outcome run.handler next base.lineNumPerEntry recorded pushed
  refine ⟨UInt16.ofNat ((producerFifo run.handler).tail + base.lineNumPerEntry), _, n_lines_step run _ next recorded ?_, ?_⟩
  · rw [ispcGetPushedLineNum, getTailIndexFifo, ← producerFifo, element]
    exact pushed
  · have info : run.handler.info.get run.handler.producePingPongFlag = base := pushing.info
    cases outcome with
    | stopped failed => exact absurd pushing.ok failed
    | unsized ok unfit => exact absurd (unfit.symm.trans sized) Bool.false_ne_true
    | crowded ok sized =>
        refine .inl ⟨rfl, ?_, ?_, pushing.baseEq⟩
        · rw [flipped, if_pos rfl, Nat.add_zero]
        · rw [producerFifo, PingPong.get_set_same]
          rfl
    | recorded ok sized tail moved more =>
        have room := (push_taken run.handler _ ok _ pushed).room
        rw [pushing.info, u16_fits _ (by omega), isEnoughSpaceToPushFifo, decide_eq_true_eq, pushing.head, pushing.depth] at room
        have grown : tail = (producerFifo run.handler).tail + base.lineNumPerEntry := by
          rw [moved, info, ← producerFifo, u16_fits _ (by omega)]
        refine .inr (.inl ⟨?_, ?_, ?_⟩)
        · rw [flipped, if_pos rfl, Nat.add_zero]
        · exact pushing_noted base _ (pushing_recorded base run.handler pushing tail (by omega)) _
        · rw [producerFifo, producerFifo, PingPong.get_set_same, ← producerFifo]
          dsimp only
          omega
    | finished ok sized tail baseIndex moved last following =>
        have flips : ¬ (!run.handler.producePingPongFlag) = run.handler.producePingPongFlag := Bool.not_ne_self _
        rw [info, pushing.baseEq, switch_buffer_same, if_neg Bool.false_ne_true,
          next_base_runs (run.handler.fifo.get run.handler.producePingPongFlag) _
            (Nat.lt_of_lt_of_eq positive pushing.depth.symm)] at following
        have near : baseIndex < 32768 := by
          rw [← Option.some.inj following]
          exact i16_lt _
        have whole : tail = base.lineNumPerFrame := last.trans pushing.maxIndex
        refine .inr (.inr ⟨?_, ?_⟩)
        · rw [flipped, if_neg flips]
        · exact pushing_noted base _ (pushing_flipped base run.handler pushing tail baseIndex near (Nat.le_of_eq whole) (by omega)) _

omit geometry in
theorem giving_up_step (run : LineRun) (givingUp : GivingUp base run.handler) :
    ∃ next, ispLineStep run .frameDone = some next ∧ next.frames = run.frames + 1 ∧ GivingUp base next.handler := by
  have index := next_base_runs (run.handler.fifo.get run.handler.producePingPongFlag)
    (run.handler.info.get run.handler.producePingPongFlag) (Nat.lt_of_lt_of_eq positive givingUp.depth.symm)
  simp only [ispLineStep, ispInterruptHandler, Bool.false_eq_true, if_false, if_true, serve_frame_done, Option.bind_eq_bind,
    Option.bind_some, givingUp.recovering, reduceCtorEq, ispFifoReset, ispcFifoReset, index, Option.map_some]
  refine ⟨_, rfl, rfl, rfl, ?_, givingUp.baseEq, ?_⟩
  · rw [producerFifo, PingPong.get_set_same, givingUp.baseEq]
    rfl
  · rw [producerFifo, PingPong.get_set_same]
    exact i16_lt _

theorem pushing_to_next (room : Nat) (run : LineRun) (pushing : Pushing base run.handler)
    (left : base.lineNumPerBuffer - (producerFifo run.handler).tail < room) :
    ∃ events finish, Runs.run ispLineStep run events = some finish ∧
      (finish.frames = run.frames ∧ GivingUp base finish.handler ∨ finish.frames = run.frames + 1 ∧ Pushing base finish.handler) := by
  induction room generalizing run with
  | zero => exact absurd left (Nat.not_lt_zero _)
  | succ room ih =>
      obtain ⟨line, next, taken, reached⟩ := pushing_step base geometry positive run pushing
      rcases reached with ⟨overflow, frames, fifo, baseEq⟩ | ⟨frames, still, grown⟩ | ⟨frames, still⟩
      · refine ⟨[.nLines line, .updateState], ⟨{ next.handler with status := .recoverying }, next.frames⟩, ?_, .inl ⟨frames, ?_⟩⟩
        · have updated : ispLineStep next .updateState = some ⟨{ next.handler with status := .recoverying }, next.frames⟩ := by
            rw [ispLineStep, if_pos (.inl overflow), ispRecoveryStateUpdate, overflow]
            rfl
          simp only [Runs.run, taken, updated, Option.bind_some]
        · refine ⟨rfl, ?_, baseEq, ?_⟩
          · exact (congrArg Sfifo.depth fifo).trans pushing.depth
          · exact Int.lt_of_le_of_lt (Int.le_of_eq (congrArg Sfifo.offset fifo)) pushing.near
      · have tailMax := still.tailMax
        obtain ⟨events, finish, ran, ended⟩ := ih next still (by omega)
        refine ⟨.nLines line :: events, finish, ?_, ?_⟩
        · rw [Runs.run, taken]
          exact ran
        · rw [frames] at ended
          exact ended
      · refine ⟨[.nLines line], next, ?_, .inr ⟨frames, still⟩⟩
        rw [Runs.run, taken]
        rfl

-- Every frame is laid out in some run.
theorem frames_reached (start : SispHandler) (pushing : Pushing base start) (frames : Nat) :
    ∃ events finish, Runs.run ispLineStep ⟨start, 0⟩ events = some finish ∧ finish.frames = frames ∧
      (GivingUp base finish.handler ∨ Pushing base finish.handler) := by
  induction frames with
  | zero => exact ⟨[], ⟨start, 0⟩, rfl, rfl, .inr pushing⟩
  | succ frames ih =>
      obtain ⟨events, middle, ran, count, phase⟩ := ih
      have onward (rest : List IspLineEvent) : Runs.run ispLineStep ⟨start, 0⟩ (events ++ rest) = Runs.run ispLineStep middle rest := by
        rw [Runs.run_append, ran]
        rfl
      have lost (more : List IspLineEvent) (last : LineRun) (before : Runs.run ispLineStep middle more = some last)
          (same : last.frames = frames) (givingUp : GivingUp base last.handler) :
          ∃ events finish, Runs.run ispLineStep ⟨start, 0⟩ events = some finish ∧ finish.frames = frames + 1 ∧
            (GivingUp base finish.handler ∨ Pushing base finish.handler) := by
        obtain ⟨next, taken, counted, still⟩ := giving_up_step base positive last givingUp
        refine ⟨events ++ (more ++ [.frameDone]), next, ?_, counted.trans (congrArg (· + 1) same), .inl still⟩
        rw [onward, Runs.run_append, before]
        simp only [Runs.run, Option.bind_some, taken]
      rcases phase with givingUp | pushing
      · exact lost [] middle rfl count givingUp
      · obtain ⟨more, last, reached, ended⟩ := pushing_to_next base geometry positive _ middle pushing (Nat.lt_succ_self _)
        rcases ended with ⟨same, givingUp⟩ | ⟨next, still⟩
        · exact lost more last reached (same.trans count) givingUp
        · refine ⟨events ++ more, last, ?_, next.trans (congrArg (· + 1) count), .inr still⟩
          rw [onward]
          exact reached

end Reach

theorem empty_reset_traps (run : LineRun) (recovering : run.handler.status = .recoverying)
    (empty : (producerFifo run.handler).depth = 0) :
    ispLineStep run .frameDone = none := by
  rw [producerFifo] at empty
  simp only [ispLineStep, ispInterruptHandler, Bool.false_eq_true, if_false, if_true, serve_frame_done, Option.bind_eq_bind,
    Option.bind_some, recovering, reduceCtorEq, ispFifoReset, ispcFifoReset, nextBaseIndex, empty, Option.bind_none, Option.map_none]

-- The first entry of the ring is handed out with its pitch in sixteen bits.
theorem ring_start_handed (base : SispControlInfo) (handler : SispHandler) (geometry : Geometry base) (ok : handler.status = .ok)
    (info : handler.info.get handler.customerPingPongFlag = base) (maxIndex : Nat)
    (first : FrameFifo (handler.fifo.get handler.customerPingPongFlag) base.lineNumPerBuffer maxIndex 0 0 base.lineNumPerEntry)
    (fits : base.lineNumPerEntry ≤ base.lineNumPerBuffer) (list : SispBuffer × SispBuffer) (ctrlInfo : EntryStruct) :
    ∃ entry, getIspNextEntry list handler ctrlInfo = some (handler, entry, true) ∧ entry.pitch = i16 base.sizePerLine := by
  have positive := geometry.entryPos
  have depthMax := geometry.depthMax
  have entryMax := entry_bound base geometry
  have head := frame_fifo_head _ _ _ _ _ _ first (by omega) (by omega)
  have elements := frame_fifo_elements _ _ _ _ _ _ first (Nat.zero_le _) (by omega)
  have filled : isEmptyFifo (handler.fifo.get handler.customerPingPongFlag) = false := by
    rw [isEmptyFifo, first.tailEq, first.headEq, beq_eq_false_iff_ne]
    omega
  have enough : isEnoughElementToPopFifo (handler.fifo.get handler.customerPingPongFlag) base.lineNumPerEntry = true := by
    rw [isEnoughElementToPopFifo, first.headEq, first.tailEq, decide_eq_true_eq]
    omega
  have allowed : (decide (base.lineNumPerEntry > base.lineNumPerBuffer) ||
      decide (base.lineNumPerEntry > getElementNumFifo (handler.fifo.get handler.customerPingPongFlag))) = false := by
    rw [elements, decide_eq_false (by omega), decide_eq_false (by omega)]
    rfl
  have whole : base.lineNumPerBuffer ≥ 0 + base.lineNumPerEntry := by omega
  rw [Nat.zero_add, Nat.zero_mod] at head
  simp only [getIspNextEntry, ispGetNextEntry, ispcGetEntryToPop, ok, ne_eq, not_true_eq_false, filled, Bool.false_eq_true,
    if_false, info,
    enough, if_true, first.depthEq, allowed, head, Option.bind_eq_bind, Option.bind_some, if_pos whole, Bool.toInt_true,
      Int.reduceLT, reduceCtorEq]
  exact ⟨_, rfl, by dsimp only⟩

theorem crowded_push (handler : SispHandler) (element : Nat) (ok : handler.status = .ok) (sized : acceptsSize handler element = true)
    (crowded : ¬ isEnoughSpaceToPushFifo (handler.fifo.get handler.producePingPongFlag)
      (u16 ((handler.info.get handler.producePingPongFlag).lineNumPerEntry + ispcPushOffset handler : Nat)) = true) :
    ispcPushNewLine handler element = some ({ handler with
      status := .overFlow
      fifo := handler.fifo.set handler.producePingPongFlag
        { handler.fifo.get handler.producePingPongFlag with status := .overflow } }, false) := by
  rw [acceptsSize, Bool.not_eq_true'] at sized
  rw [ispcPushNewLine]
  simp only [ok, ne_eq, not_true_eq_false, if_false, sized, Bool.false_eq_true, pushFifo, if_neg crowded, if_true]

section Necessary

variable (config : SispConfigPar) (passed : ¬ IspRefused config) (entryPos : 0 < config.lineInEntry.toNat)

def acceptedStart (used : Nat) : SispHandler := ispcStart (zeroHandler config.id.toNat) (acceptedInfo config used)

theorem accepted_pushing (used : Nat) : Pushing (acceptedInfo config used) (acceptedStart config used) :=
  ⟨rfl, rfl, rfl, rfl, rfl, Nat.zero_le _, rfl, (by decide : (0 : Int) < 32768), Nat.zero_le _⟩

include passed

include entryPos

theorem first_push (used : Nat) (next : SispHandler) (recorded : Bool)
    (pushed : ispcPushNewLine (acceptedStart config used) config.lineInEntry.toNat = some (next, recorded)) :
    ispLineStep ⟨acceptedStart config used, 0⟩ (.nLines (UInt16.ofNat (0 + config.lineInEntry.toNat))) =
      some ⟨{ next with currentNValue := (UInt16.ofNat (0 + config.lineInEntry.toNat)).toNat },
        0 + flipped (acceptedStart config used) next⟩ := by
  have geometry := accepted_geometry config passed used entryPos
  have entryMax : config.lineInEntry.toNat ≤ 8191 := entry_bound _ geometry
  have element := one_entry_line 0 config.lineInEntry.toNat (by omega)
  exact n_lines_step ⟨acceptedStart config used, 0⟩ (UInt16.ofNat (0 + config.lineInEntry.toNat)) next recorded
    ((congrArg (ispcPushNewLine (acceptedStart config used)) element).trans pushed)

-- In an empty ring the first entry is refused, and the recovery divides by the depth.
theorem empty_ring_traps (used : Nat) (empty : (acceptedInfo config used).lineNumPerBuffer = 0) :
    Runs.run ispLineStep ⟨acceptedStart config used, 0⟩
      [.nLines (UInt16.ofNat (0 + config.lineInEntry.toNat)), .updateState, .frameDone] = none := by
  have geometry := accepted_geometry config passed used entryPos
  have entryMax : config.lineInEntry.toNat ≤ 8191 := entry_bound _ geometry
  have crowded : ¬ isEnoughSpaceToPushFifo (resetFifo (acceptedInfo config used).lineNumPerBuffer 0 config.ver.toNat)
      (u16 (config.lineInEntry.toNat + 0 : Nat)) = true := by
    rw [Nat.add_zero, u16_fits _ (by omega), empty, isEnoughSpaceToPushFifo, decide_eq_true_eq, resetFifo]
    dsimp only
    omega
  have sized := full_entry_sized (acceptedInfo config used) (acceptedStart config used) rfl
  have taken := first_push config passed entryPos used _ _ (crowded_push (acceptedStart config used) _ rfl sized crowded)
  rw [Runs.run, taken, Option.bind_some, Runs.run]
  refine Option.bind_eq_none_iff.mpr fun next updated => ?_
  cases updated
  refine Option.bind_eq_none_iff.mpr fun last reset => ?_
  rw [empty_reset_traps] at reset
  · cases reset
  · rfl
  · exact empty

theorem first_entry_handed (used : Nat) (fits : config.lineInEntry.toNat ≤ (acceptedInfo config used).lineNumPerBuffer) :
    ∃ next entry finish,
      Runs.run ispLineStep ⟨acceptedStart config used, 0⟩ [.nLines (UInt16.ofNat (0 + config.lineInEntry.toNat))] = some finish ∧
        getIspNextEntry noBuffers finish.handler ⟨0, 0, 0, 0, 0, 0, 0, zeroMeta⟩ = some (next, entry, true) ∧
        entry.pitch = i16 config.lineStride.toNat := by
  have geometry := accepted_geometry config passed used entryPos
  have entryMax : config.lineInEntry.toNat ≤ 8191 := entry_bound _ geometry
  have sized := full_entry_sized (acceptedInfo config used) (acceptedStart config used) rfl
  have grown : u16 ((0 + config.lineInEntry.toNat : Nat) : Int) = config.lineInEntry.toNat := by
    rw [Nat.zero_add, u16_fits _ (by omega)]
  have room : isEnoughSpaceToPushFifo (resetFifo (acceptedInfo config used).lineNumPerBuffer 0 config.ver.toNat)
      (u16 (config.lineInEntry.toNat + 0 : Nat)) = true := by
    rw [Nat.add_zero, u16_fits _ (by omega), isEnoughSpaceToPushFifo, decide_eq_true_eq, resetFifo]
    dsimp only
    omega
  obtain ⟨next, pushed⟩ := taken_push (acceptedStart config used) config.lineInEntry.toNat rfl
    ⟨sized, room, fun _ => .inr (Nat.ne_of_gt (Nat.lt_of_lt_of_le entryPos fits))⟩
  have taken := first_push config passed entryPos used next true pushed
  have ran : Runs.run ispLineStep ⟨acceptedStart config used, 0⟩ [.nLines (UInt16.ofNat (0 + config.lineInEntry.toNat))] =
      some ⟨{ next with currentNValue := (UInt16.ofNat (0 + config.lineInEntry.toNat)).toNat },
        0 + flipped (acceptedStart config used) next⟩ := by
    rw [Runs.run, taken]
    rfl
  have outcome := push_outcome (acceptedStart config used) next config.lineInEntry.toNat true pushed
  have handed (held : next.status = .ok ∧ next.info.get next.customerPingPongFlag = acceptedInfo config used ∧
      FrameFifo (next.fifo.get next.customerPingPongFlag) (acceptedInfo config used).lineNumPerBuffer config.ver.toNat 0 0
        config.lineInEntry.toNat) :=
    ring_start_handed (acceptedInfo config used) { next with currentNValue := (UInt16.ofNat (0 + config.lineInEntry.toNat)).toNat }
      geometry held.1 held.2.1 config.ver.toNat held.2.2 fits noBuffers ⟨0, 0, 0, 0, 0, 0, 0, zeroMeta⟩
  cases outcome with
  | recorded ok sized tail moved more =>
      obtain ⟨entry, got, pitch⟩ := handed ⟨rfl, rfl, rfl, moved.trans grown, rfl, rfl, rfl⟩
      exact ⟨_, entry, _, ran, got, pitch⟩
  | finished ok sized tail baseIndex moved last following =>
      obtain ⟨entry, got, pitch⟩ := handed ⟨rfl, rfl, rfl, moved.trans grown, rfl, rfl, rfl⟩
      exact ⟨_, entry, _, ran, got, pitch⟩

omit entryPos in
theorem isp_exact_fits (exactly : IspArithmetic config) : RingFits config config.ver.toNat ∧
    (config.lineStride.toNat ≤ 32767 ∨ ringLines config < config.lineInEntry.toNat) := by
  obtain ⟨start, ret, configured, kept⟩ := exactly
  rw [ispHandlerConfig, base_info_passed config passed] at configured
  by_cases divisors : 0 < config.lineStride.toNat ∧ 0 < config.lineInEntry.toNat
  · rw [if_pos divisors] at configured
    cases configured
    obtain ⟨exact, runs⟩ := kept rfl
    have geometry := accepted_geometry config passed config.ver.toNat divisors.2
    have lines : (acceptedInfo config config.ver.toNat).lineNumPerBuffer = ringLines config := exact.lines
    have linesMax : ringLines config ≤ 65535 := by
      have below := geometry.depthMax
      omega
    have linesPos : 0 < ringLines config := by
      refine Nat.pos_of_ne_zero fun empty => ?_
      obtain ⟨finish, ran, -⟩ := runs [.nLines (UInt16.ofNat (0 + config.lineInEntry.toNat)), .updateState, .frameDone]
      exact Option.some_ne_none finish
        (ran.symm.trans (empty_ring_traps config passed divisors.2 config.ver.toNat (lines.trans empty)))
    refine ⟨⟨divisors.1, divisors.2, linesPos, linesMax, fun frame => ?_⟩, ?_⟩
    · obtain ⟨events, finish, ran, count, phase⟩ := frames_reached _ geometry (Nat.lt_of_lt_of_eq linesPos lines.symm) _
        (accepted_pushing config config.ver.toNat) frame
      obtain ⟨other, same, offset, -⟩ := runs events
      cases ran.symm.trans same
      have near : finish.fifo.offset < 32768 := by
        rcases phase with givingUp | pushing
        · exact givingUp.near
        · exact pushing.near
      rw [offset, count] at near
      omega
    · refine Decidable.or_iff_not_imp_left.mpr fun wide => Nat.lt_of_not_le fun fits => ?_
      obtain ⟨next, entry, finish, ran, got, pitch⟩ := first_entry_handed config passed divisors.2 config.ver.toNat (by omega)
      obtain ⟨other, same, -, handed⟩ := runs [.nLines (UInt16.ofNat (0 + config.lineInEntry.toNat))]
      cases ran.symm.trans same
      have image := handed noBuffers _ next entry got ⟨2, zeroBuffer, zeroBuffer, 0, 0, 0, zeroMeta⟩ zeroBuffer (Nat.le_refl _)
      have stride := image.strideEq
      simp only [fillHwTaskAlgoParam, Nat.lt_irrefl, if_false, pitch] at stride
      have narrow := narrow_pitch _ config.lineStride.toNat_lt stride
      omega
  · rw [if_neg divisors] at configured
    cases configured

end Necessary

theorem isp_arithmetic_iff (config : SispConfigPar) : IspArithmetic config ↔ IspGeometryFits config := by
  by_cases refused : IspRefused config
  · refine iff_of_true ⟨{ zeroHandler config.id.toNat with status := .parmaInvalid }, .parmaInvalid, ?_,
      fun accepted => by cases accepted⟩ (.inl refused)
    rw [ispHandlerConfig, base_info_refused config _ refused]
    rfl
  · rw [IspGeometryFits, or_iff_right refused]
    exact ⟨isp_exact_fits config refused, fun fits => isp_fits_exact config refused fits.1 fits.2⟩

end CsiDsp
