import CsiDsp.Base.Fields
import CsiDsp.Base.Runs
import CsiDsp.BufUpdate
import CsiDsp.HostBounds
import CsiDsp.IspSteps

set_option autoImplicit false

namespace CsiDsp

open CInt Fields

-- The fields of csi_dsp_buffer that get_post_isp_next_entry sets. Its planes begin
-- at 24, and a uint64_t is aligned to 8 bytes.
namespace BufferField

def format : Field := ⟨12, 1⟩
def planeCount : Field := ⟨13, 1⟩
def height : Field := ⟨20, 4⟩
def stride : Field := ⟨28, 4⟩
def size : Field := ⟨32, 4⟩
def bufPhy : Field := ⟨40, 8⟩

end BufferField

-- The fields of entry_struct_t that fill_sw_task_algo_param reads.
namespace EntryField

def pBuff : Field := ⟨0, 8⟩
def width : Field := ⟨12, 2⟩
def height : Field := ⟨14, 2⟩
def fmt : Field := ⟨16, 2⟩
def pitch : Field := ⟨18, 2⟩

end EntryField

structure OutInfo where
  pBuff : Nat
  width : Int
  height : Int
  fmt : Int
  pitch : Int
deriving DecidableEq, Repr

def outInfoAt (memory : Nat → UInt8) : OutInfo where
  pBuff := EntryField.pBuff.read memory
  width := i16 (EntryField.width.read memory)
  height := i16 (EntryField.height.read memory)
  fmt := i16 (EntryField.fmt.read memory)
  pitch := i16 (EntryField.pitch.read memory)

def bufferAt (memory : Nat → UInt8) : CsiDspBuffer where
  format := BufferField.format.read memory
  planeCount := BufferField.planeCount.read memory
  height := BufferField.height.read memory
  stride := BufferField.stride.read memory
  size := BufferField.size.read memory
  bufPhy := BufferField.bufPhy.read memory

-- Sisp_buffer with the types of its fields. The size is not used.
structure SispWords where
  fmt : UInt16
  lineNum : UInt16
  lineSize : UInt32
  startAddr : UInt64
deriving DecidableEq, Repr

def SispBuffer.words (entry : SispBuffer) : SispWords where
  fmt := UInt16.ofNat entry.fmt
  lineNum := UInt16.ofNat entry.lineNum
  lineSize := UInt32.ofNat entry.lineSize
  startAddr := UInt64.ofNat entry.startAddr

def nextEntryWrites (entry : SispBuffer) : List (Field × Nat) :=
  [(BufferField.height, entry.lineNum), (BufferField.format, u8 entry.fmt), (BufferField.planeCount, 1),
    (BufferField.bufPhy, entry.startAddr), (BufferField.stride, entry.lineSize),
    (BufferField.size, u32 (entry.lineSize * entry.lineNum : Nat))]

-- get_post_isp_next_entry behind the pointer of the back end, which is untyped:
-- memory is the caller's entry_struct_t.
def postIspNextEntryAt (postEntry : SispBuffer) (driver : SispHandler) (memory : Nat → UInt8) :
    Option (SispHandler × Option SispWords × (Nat → UInt8)) := do
  let (driver, entry, ret) ← postIspGetNextEntry driver postEntry
  if ret ≠ .ok then some (driver, none, memory)
  else some (driver, some entry.words, writeFields (nextEntryWrites entry) memory)

inductive FillResult where
  | ok
  | illegalParam
  | bufTypeErr
deriving DecidableEq, Repr

def fillBuffer (buf : AlgoBuffer) (out : OutInfo) : AlgoBuffer :=
  { buf with
    format := UInt8.ofNat (u8 out.fmt)
    height := UInt32.ofNat (u32 out.height)
    width := UInt32.ofNat (u32 out.width)
    planeCount := 1
    planes := Function.update buf.planes 0
      { buf.planes 0 with bufPhy := UInt64.ofNat out.pBuff, stride := UInt32.ofNat (u32 out.pitch) } }

-- The buffers of the request after fill_sw_task_algo_param.
def fillSwBuffers (param : Option Nat) (request : SwTaskReq) (bufs : Int → AlgoBuffer) (out : OutInfo) :
    (Int → AlgoBuffer) × FillResult :=
  match param with
  | none => (bufs, .illegalParam)
  | some _ =>
      let buf := bufs (lastBuffer request)
      if buf.type ≠ .allocFm then (bufs, .bufTypeErr)
      else (Function.update bufs (lastBuffer request) (fillBuffer buf out), .ok)

-- What a request calls: the back end's functions, and the algorithm with the
-- last buffer that it sees, or with a NULL block.
inductive SwCall where
  | nextEntry (entry : Option SispWords)
  | algo (last : Option AlgoBuffer)
  | state (code : Int)
  | start (lines : Nat) (accepted : Bool)

structure SwToHwRun where
  driver : SispHandler
  calls : List SwCall
  reply : SwReply

-- What surrounds a request: the stack of get_post_isp_next_entry and of
-- dsp_process_sw_task, the algorithm's answer, and the interrupts of the post ISP
-- while the algorithm runs and between the look at the state and the push.
structure SwToHwEnv where
  postEntry : SispBuffer
  memory : Nat → UInt8
  algo : AlgoResult
  during : List PostIspInterrupt
  late : List PostIspInterrupt

def seenBuffer (param : Option Nat) (request : SwTaskReq) (bufs : Int → AlgoBuffer) : Option AlgoBuffer :=
  param.map fun _ => bufs (lastBuffer request)

def swAlgoRun (env : SwToHwEnv) (driver : SispHandler) (entry : Option SispWords) (seen : Option AlgoBuffer)
    (memory : Nat → UInt8) : Option SwToHwRun := do
  let running ← Runs.run postIspInterruptHandler driver env.during
  match env.algo with
  | .failure => some ⟨running, [.nextEntry entry, .algo seen], .algoErr⟩
  | .done _ =>
      let last ← Runs.run postIspInterruptHandler running env.late
      let (pushed, accepted) ← postIspEntryStart last (bufferAt memory)
      some ⟨pushed,
        [.nextEntry entry, .algo seen, .state (postIspGetStatus running), .start (u16 (bufferAt memory).height) accepted],
        if postIspGetStatus running ≠ 0 then .algoErr else .none⟩

-- dsp_process_sw_task with all its calls, for a task of type SW_TO_HW whose back
-- end is not the host's. What fill_sw_task_algo_param returns is not looked at.
-- The result none is a call through a NULL pointer, or a trap in the driver.
def dspProcessSwToHw (env : SwToHwEnv) (dsp : Dsp) (task : DspTask) (request : SwTaskReq) (bufs : Int → AlgoBuffer) :
    Option SwToHwRun :=
  if task.be.ops ≠ some .postIsp then none
  else do
    let (driver, entry, memory) ← postIspNextEntryAt env.postEntry dsp.postIsp env.memory
    let bufs := (fillSwBuffers task.algo.param request bufs (outInfoAt memory)).1
    match task.algo.algoProcess with
    | none => some ⟨driver, [.nextEntry entry], .algoInvalid⟩
    | some _ => swAlgoRun env driver entry (seenBuffer task.algo.param request bufs) memory

structure EntryNumbers (buffer : AlgoBuffer) (entry : SispWords) : Prop where
  height : buffer.height.toNat = entry.lineNum.toNat
  stride : (buffer.planes 0).stride = entry.lineSize
  format : buffer.format.toNat = entry.fmt.toNat
  bufPhy : (buffer.planes 0).bufPhy = entry.startAddr

structure WritesEntry (algo : AlgoResult) (run : SwToHwRun) : Prop where
  called : ∀ last, .algo last ∈ run.calls →
    ∃ buffer entry, last = some buffer ∧ .nextEntry (some entry) ∈ run.calls ∧ EntryNumbers buffer entry
  pushed : ∀ lines accepted, .start lines accepted ∈ run.calls →
    ∃ entry, .nextEntry (some entry) ∈ run.calls ∧ lines = entry.lineNum.toNat
  followed : algo ≠ .failure → ∀ last, .algo last ∈ run.calls → ∃ lines accepted, .start lines accepted ∈ run.calls
  success : run.reply = .none → ∃ lines, .start lines true ∈ run.calls

structure Refused (run : SwToHwRun) : Prop where
  quiet : run.calls = []
  failed : run.reply ≠ .none

def SwToHwServed (env : SwToHwEnv) (dsp : Dsp) (task : DspTask) (request : SwTaskReq) (bufs : Int → AlgoBuffer) : Prop :=
  ∃ run, dspProcessSwToHw env dsp task request bufs = some run ∧
    if task.be.ops = some .postIsp ∧ (bufs (lastBuffer request)).type = .allocFm then WritesEntry env.algo run else Refused run

-- What is on the stack by chance are the entry's numbers.
structure StackHolds (out : OutInfo) (entry : SispWords) : Prop where
  height : u32 out.height = entry.lineNum.toNat
  pitch : u32 out.pitch = entry.lineSize.toNat
  fmt : u8 out.fmt = entry.fmt.toNat
  pBuff : out.pBuff = entry.startAddr.toNat

-- The post ISP is in order, the number of lines is an entry's and the ring has room for one.
def RingTakes (driver : SispHandler) (lines : Nat) : Prop :=
  driver.status = .ok ∧ acceptsSize driver lines = true ∧
    isEnoughSpaceToPushFifo (driver.fifo.get driver.producePingPongFlag)
      (u16 ((driver.info.get driver.producePingPongFlag).lineNumPerEntry + ispcPushOffset driver : Nat)) = true

instance (driver : SispHandler) (lines : Nat) : Decidable (RingTakes driver lines) := inferInstanceAs (Decidable (_ ∧ _ ∧ _))

-- The push completes a frame of a ring without lines.
def RingDegenerate (driver : SispHandler) (lines : Nat) : Prop :=
  RingTakes driver lines ∧ (driver.fifo.get driver.producePingPongFlag).depth = 0 ∧
    u16 ((driver.fifo.get driver.producePingPongFlag).tail +
      (driver.info.get driver.producePingPongFlag).lineNumPerEntry : Nat) =
        (driver.fifo.get driver.producePingPongFlag).maxIndex ∧
    ispcSwitchBuffer (driver.info.get driver.producePingPongFlag) driver.base = false

instance (driver : SispHandler) (lines : Nat) : Decidable (RingDegenerate driver lines) :=
  inferInstanceAs (Decidable (_ ∧ _ ∧ _ ∧ _))

-- The algorithm fails, or the post ISP has room for the lines when it is done, or
-- is known by then to be in trouble.
def RoomAfter (env : SwToHwEnv) (driver : SispHandler) (lines : Nat) : Prop :=
  ∃ running, Runs.run postIspInterruptHandler driver env.during = some running ∧
    (env.algo = .failure ∨ ∃ last, Runs.run postIspInterruptHandler running env.late = some last ∧
      ¬ RingDegenerate last lines ∧ (postIspGetStatus running = 0 → RingTakes last lines))

def SwToHwFits (env : SwToHwEnv) (dsp : Dsp) (task : DspTask) (request : SwTaskReq) (bufs : Int → AlgoBuffer) : Prop :=
  task.be.ops = some .postIsp ∧ (bufs (lastBuffer request)).type = .allocFm ∧
    ∃ next entry ret, postIspGetNextEntry dsp.postIsp env.postEntry = some (next, entry, ret) ∧
      (task.algo.algoProcess = none ∨ ret = .ok ∧ task.algo.param ≠ none ∧ StackHolds (outInfoAt env.memory) entry.words ∧
        RoomAfter env next entry.words.lineNum.toNat)

theorem stack_holds_congr (out other : OutInfo) (words : SispWords) (height : out.height = other.height)
    (pitch : out.pitch = other.pitch) (fmt : out.fmt = other.fmt) (pBuff : out.pBuff = other.pBuff) :
    StackHolds out words ↔ StackHolds other words := by
  obtain ⟨address, width, lines, format, stride⟩ := out
  dsimp only at height pitch fmt pBuff
  subst height pitch fmt pBuff
  exact ⟨fun ⟨height, pitch, fmt, pBuff⟩ => ⟨height, pitch, fmt, pBuff⟩, fun ⟨height, pitch, fmt, pBuff⟩ => ⟨height, pitch, fmt, pBuff⟩⟩

-- A push with room moves the tail, and switches sides at the end of a frame.
theorem push_with_room (driver : SispHandler) (lines : Nat) (takes : RingTakes driver lines) :
    (ispcPushNewLine driver lines).map Prod.snd =
      if u16 ((driver.fifo.get driver.producePingPongFlag).tail +
          (driver.info.get driver.producePingPongFlag).lineNumPerEntry : Nat) =
            (driver.fifo.get driver.producePingPongFlag).maxIndex ∧
          ispcSwitchBuffer (driver.info.get driver.producePingPongFlag) driver.base = false ∧
          (driver.fifo.get driver.producePingPongFlag).depth = 0 then none
      else some true := by
  obtain ⟨ok, sized, space⟩ := takes
  rw [acceptsSize, Bool.not_eq_true'] at sized
  simp only [ispcPushNewLine, ok, ne_eq, not_true_eq_false, if_false, if_neg (Bool.eq_false_iff.mp sized), pushFifo, if_pos space,
    Bool.true_eq_false, isLastEntryPushFifo, beq_iff_eq, nextBaseIndex]
  by_cases last : u16 ((driver.fifo.get driver.producePingPongFlag).tail +
      (driver.info.get driver.producePingPongFlag).lineNumPerEntry : Nat) = (driver.fifo.get driver.producePingPongFlag).maxIndex
  · rw [if_pos last]
    cases switched : ispcSwitchBuffer (driver.info.get driver.producePingPongFlag) driver.base with
    | true =>
        rw [if_pos rfl, if_neg fun trap => Bool.noConfusion trap.2.1]
        rfl
    | false =>
        rw [if_neg Bool.false_ne_true]
        by_cases none_ : (driver.fifo.get driver.producePingPongFlag).depth = 0
        · rw [if_pos none_, if_pos ⟨last, rfl, none_⟩]
          rfl
        · rw [if_neg none_, if_neg fun trap => none_ trap.2.2]
          rfl
  · rw [if_neg last, if_neg fun trap => last trap.1]
    rfl

theorem push_without_room (driver : SispHandler) (lines : Nat) (full : ¬ RingTakes driver lines) :
    (ispcPushNewLine driver lines).map Prod.snd = some false := by
  by_cases ok : driver.status = .ok
  · by_cases sized : acceptsSize driver lines = true
    · have crowded : ¬ isEnoughSpaceToPushFifo (driver.fifo.get driver.producePingPongFlag)
          (u16 ((driver.info.get driver.producePingPongFlag).lineNumPerEntry + ispcPushOffset driver : Nat)) = true :=
        fun space => full ⟨ok, sized, space⟩
      rw [acceptsSize, Bool.not_eq_true'] at sized
      simp only [ispcPushNewLine, ok, ne_eq, not_true_eq_false, if_false, if_neg (Bool.eq_false_iff.mp sized), pushFifo, if_neg crowded]
      rfl
    · rw [acceptsSize, Bool.not_eq_true', Bool.not_eq_false] at sized
      simp only [ispcPushNewLine, ok, ne_eq, not_true_eq_false, if_false, if_pos sized]
      rfl
  · simp only [ispcPushNewLine, ne_eq, if_pos ok]
    rfl

-- A push is answered unless it traps, and accepted where there is room.
theorem push_entry_answer (driver : SispHandler) (lines : Nat) : (postIspPushEntry driver lines).map Prod.snd =
    if RingDegenerate driver lines then none else some (decide (RingTakes driver lines)) := by
  have same : (postIspPushEntry driver lines).map Prod.snd = (ispcPushNewLine driver lines).map Prod.snd := by
    rw [postIspPushEntry]
    cases ispcPushNewLine driver lines with
    | none => rfl
    | some result =>
        obtain ⟨next, pushed⟩ := result
        cases pushed <;> simp
  rw [same]
  by_cases takes : RingTakes driver lines
  · rw [push_with_room driver lines takes, decide_eq_true takes]
    by_cases trap : RingDegenerate driver lines
    · rw [if_pos trap, if_pos ⟨trap.2.2.1, trap.2.2.2, trap.2.1⟩]
    · rw [if_neg trap, if_neg fun ⟨last, switched, none_⟩ => trap ⟨takes, none_, last, switched⟩]
  · rw [push_without_room driver lines takes, if_neg fun trap => takes trap.1, decide_eq_false takes]

section Layout

variable (entry : SispBuffer) (memory : Nat → UInt8)

def nextEntryFields : List Field :=
  [BufferField.height, BufferField.format, BufferField.planeCount, BufferField.bufPhy, BufferField.stride, BufferField.size]

theorem next_entry_fields : (nextEntryWrites entry).map Prod.fst = nextEntryFields := rfl

theorem next_entry_apart : (nextEntryWrites entry).Pairwise fun earlier later => Apart earlier.1 later.1 := by
  have apart : nextEntryFields.Pairwise Apart := by decide
  rw [← next_entry_fields entry] at apart
  exact List.pairwise_map.mp apart

-- A field of the caller's structure that the callee's structure has not.
theorem next_entry_keeps (field : Field) (apart : ∀ written ∈ nextEntryFields, Apart field written) :
    field.read (writeFields (nextEntryWrites entry) memory) = field.read memory :=
  read_fields_apart field memory _ fun written member => apart written.1 (List.mem_map_of_mem (f := Prod.fst) member)

theorem stack_holds_kept (words : SispWords) :
    StackHolds (outInfoAt (writeFields (nextEntryWrites entry) memory)) words ↔ StackHolds (outInfoAt memory) words := by
  have keeps := next_entry_keeps entry memory
  refine stack_holds_congr _ _ words ?_ ?_ ?_ ?_
  · rw [outInfoAt, outInfoAt, keeps EntryField.height (by decide)]
  · rw [outInfoAt, outInfoAt, keeps EntryField.pitch (by decide)]
  · rw [outInfoAt, outInfoAt, keeps EntryField.fmt (by decide)]
  · rw [outInfoAt, outInfoAt, keeps EntryField.pBuff (by decide)]

-- The height that entry_start reads back is the right one.
theorem started_lines : u16 (bufferAt (writeFields (nextEntryWrites entry) memory)).height = entry.words.lineNum.toNat := by
  have written : BufferField.height.read (writeFields (nextEntryWrites entry) memory) = entry.lineNum % 256 ^ 4 :=
    read_fields_member BufferField.height entry.lineNum memory _ (next_entry_apart entry) List.mem_cons_self
  have lines : entry.words.lineNum.toNat = entry.lineNum % 65536 := UInt16.toNat_ofNat'
  have height : (bufferAt (writeFields (nextEntryWrites entry) memory)).height = entry.lineNum % 256 ^ 4 := written
  rw [height, lines, u16, wrapU]
  omega

theorem filled_numbers (buf : AlgoBuffer) (out : OutInfo) (address : out.pBuff < 2 ^ 64) (words : SispWords) :
    EntryNumbers (fillBuffer buf out) words ↔ StackHolds out words := by
  have height : (fillBuffer buf out).height.toNat = u32 out.height := UInt32.toNat_ofNat_of_lt' (wrap_u_lt 32 _)
  have stride : ((fillBuffer buf out).planes 0).stride.toNat = u32 out.pitch := UInt32.toNat_ofNat_of_lt' (wrap_u_lt 32 _)
  have format : (fillBuffer buf out).format.toNat = u8 out.fmt := UInt8.toNat_ofNat_of_lt' (wrap_u_lt 8 _)
  have bufPhy : ((fillBuffer buf out).planes 0).bufPhy.toNat = out.pBuff := UInt64.toNat_ofNat_of_lt' address
  constructor
  · intro numbers
    exact ⟨height.symm.trans numbers.height, stride.symm.trans (congrArg UInt32.toNat numbers.stride),
      format.symm.trans numbers.format, bufPhy.symm.trans (congrArg UInt64.toNat numbers.bufPhy)⟩
  · intro holds
    exact ⟨height.trans holds.height, UInt32.toNat_inj.mp (stride.trans holds.pitch), format.trans holds.fmt,
      UInt64.toNat_inj.mp (bufPhy.trans holds.pBuff)⟩

theorem out_address_bounded : (outInfoAt memory).pBuff < 2 ^ 64 := by
  have bound := read_lt EntryField.pBuff memory
  have bytes : 256 ^ EntryField.pBuff.width = 2 ^ 64 := by decide
  rw [bytes] at bound
  exact bound

-- The last buffer gets the entry's numbers if and only if they lie on the stack.
theorem filled_from_stack (buf : AlgoBuffer) :
    EntryNumbers (fillBuffer buf (outInfoAt (writeFields (nextEntryWrites entry) memory))) entry.words ↔
      StackHolds (outInfoAt memory) entry.words :=
  (filled_numbers buf _ (out_address_bounded _) _).trans (stack_holds_kept entry memory _)

end Layout

section Run

variable (env : SwToHwEnv) (driver : SispHandler) (entry : Option SispWords) (seen : Option AlgoBuffer) (memory : Nat → UInt8)

inductive SwAlgoEnd : SwToHwRun → Prop where
  | failed (running : SispHandler) (served : Runs.run postIspInterruptHandler driver env.during = some running)
      (answer : env.algo = .failure) : SwAlgoEnd ⟨running, [.nextEntry entry, .algo seen], .algoErr⟩
  | pushed (running last next : SispHandler) (accepted : Bool)
      (served : Runs.run postIspInterruptHandler driver env.during = some running) (answer : env.algo ≠ .failure)
      (late : Runs.run postIspInterruptHandler running env.late = some last)
      (push : postIspPushEntry last (u16 (bufferAt memory).height) = some (next, accepted)) :
      SwAlgoEnd ⟨next,
        [.nextEntry entry, .algo seen, .state (postIspGetStatus running), .start (u16 (bufferAt memory).height) accepted],
        if postIspGetStatus running ≠ 0 then .algoErr else .none⟩

theorem sw_algo_end (run : SwToHwRun) : swAlgoRun env driver entry seen memory = some run ↔
    SwAlgoEnd env driver entry seen memory run := by
  constructor
  · intro done
    obtain ⟨running, served, rest⟩ := Option.bind_eq_some_iff.mp done
    cases answer : env.algo with
    | failure =>
        simp only [answer] at rest
        cases rest
        exact .failed running served answer
    | done extra =>
        simp only [answer] at rest
        obtain ⟨last, late, rest⟩ := Option.bind_eq_some_iff.mp rest
        obtain ⟨⟨next, accepted⟩, push, same⟩ := Option.bind_eq_some_iff.mp rest
        cases same
        exact .pushed running last next accepted served (by simp [answer]) late push
  · intro ended
    cases ended with
    | failed running served answer => simp [swAlgoRun, served, answer]
    | pushed running last next accepted served answer late push =>
        cases algo : env.algo with
        | failure => exact absurd algo answer
        | done extra => simp [swAlgoRun, served, algo, late, postIspEntryStart, push]

theorem sw_algo_shows (run : SwToHwRun) (ended : SwAlgoEnd env driver entry seen memory run) :
    .algo seen ∈ run.calls ∧ (∀ last, .algo last ∈ run.calls → last = seen) ∧
      ∀ given, .nextEntry given ∈ run.calls ↔ given = entry := by
  cases ended with
  | failed running served answer => simp
  | pushed running last next accepted served answer late push => simp

theorem unloaded_writes : WritesEntry env.algo ⟨driver, [.nextEntry entry], .algoInvalid⟩ := by
  refine ⟨?_, ?_, ?_, ?_⟩
  · intro last called
    simp at called
  · intro lines accepted called
    simp at called
  · intro _ last called
    simp at called
  · intro success
    cases success

theorem failed_writes (running : SispHandler) (buffer : AlgoBuffer) (given : SispWords) (numbers : EntryNumbers buffer given)
    (answer : env.algo = .failure) :
    WritesEntry env.algo ⟨running, [.nextEntry (some given), .algo (some buffer)], .algoErr⟩ := by
  refine ⟨?_, ?_, ?_, ?_⟩
  · intro last called
    have same : last = some buffer := by simpa using called
    exact ⟨buffer, given, same, by simp, numbers⟩
  · intro count accepted called
    simp at called
  · exact fun worked => absurd answer worked
  · intro success
    cases success

theorem pushed_writes (running next : SispHandler) (buffer : AlgoBuffer) (given : SispWords) (numbers : EntryNumbers buffer given)
    (accepted : Bool) (taken : postIspGetStatus running = 0 → accepted = true) :
    WritesEntry env.algo ⟨next,
      [.nextEntry (some given), .algo (some buffer), .state (postIspGetStatus running), .start given.lineNum.toNat accepted],
      if postIspGetStatus running ≠ 0 then .algoErr else .none⟩ := by
  refine ⟨?_, ?_, ?_, ?_⟩
  · intro last called
    have same : last = some buffer := by simpa using called
    exact ⟨buffer, given, same, by simp, numbers⟩
  · intro count answer called
    have same : count = given.lineNum.toNat ∧ answer = accepted := by simpa using called
    exact ⟨given, by simp, same.1⟩
  · exact fun _ _ _ => ⟨given.lineNum.toNat, accepted, by simp⟩
  · intro success
    have ok : postIspGetStatus running = 0 := by
      by_contra failed
      rw [if_pos failed] at success
      cases success
    exact ⟨given.lineNum.toNat, by simp [taken ok]⟩

theorem sw_algo_writes (given : SispWords) (lines : u16 (bufferAt memory).height = given.lineNum.toNat) :
    (∃ run, swAlgoRun env driver (some given) seen memory = some run ∧ WritesEntry env.algo run) ↔
      (∃ buffer, seen = some buffer ∧ EntryNumbers buffer given) ∧ RoomAfter env driver given.lineNum.toNat := by
  simp only [sw_algo_end]
  constructor
  · rintro ⟨run, ended, writes⟩
    obtain ⟨called, -, entries⟩ := sw_algo_shows env driver (some given) seen memory run ended
    obtain ⟨buffer, other, shown, same, numbers⟩ := writes.called seen called
    cases (entries (some other)).mp same
    refine ⟨⟨buffer, shown, numbers⟩, ?_⟩
    cases ended with
    | failed running served answer => exact ⟨running, served, .inl answer⟩
    | pushed running last next accepted served answer late push =>
        rw [lines] at push
        have answered := push_entry_answer last given.lineNum.toNat
        rw [push, Option.map_some] at answered
        have sound : ¬ RingDegenerate last given.lineNum.toNat := by
          intro trap
          rw [if_pos trap] at answered
          cases answered
        rw [if_neg sound] at answered
        refine ⟨running, served, .inr ⟨last, late, sound, fun ok => ?_⟩⟩
        obtain ⟨count, taken⟩ := writes.success (if_neg (not_not_intro ok))
        have same : count = u16 (bufferAt memory).height ∧ accepted = true := by simpa using taken
        exact of_decide_eq_true ((Option.some.inj answered).symm.trans same.2)
  · rintro ⟨⟨buffer, shown, numbers⟩, running, served, outcome⟩
    subst shown
    by_cases answer : env.algo = .failure
    · exact ⟨_, .failed running served answer, failed_writes env running buffer given numbers answer⟩
    · obtain ⟨last, late, sound, room⟩ := outcome.resolve_left answer
      have answered := push_entry_answer last given.lineNum.toNat
      rw [if_neg sound] at answered
      obtain ⟨⟨next, accepted⟩, push, same⟩ := Option.map_eq_some_iff.mp answered
      rw [← lines] at push
      exact ⟨_, .pushed running last next accepted served answer late push,
        lines ▸ pushed_writes env running next buffer given numbers accepted fun ok => same.trans (decide_eq_true (room ok))⟩

end Run

section Request

variable (env : SwToHwEnv) (dsp : Dsp) (task : DspTask) (request : SwTaskReq) (bufs : Int → AlgoBuffer)

theorem next_entry_at (next : SispHandler) (entry : SispBuffer) (ret : EhwErrorCode)
    (got : postIspGetNextEntry dsp.postIsp env.postEntry = some (next, entry, ret)) :
    postIspNextEntryAt env.postEntry dsp.postIsp env.memory =
      if ret = .ok then some (next, some entry.words, writeFields (nextEntryWrites entry) env.memory)
      else some (next, none, env.memory) := by
  rw [postIspNextEntryAt, got]
  by_cases ok : ret = .ok <;> simp [ok]

-- The back end is asked for an entry first, whatever the request holds.
theorem sw_to_hw_asks (run : SwToHwRun) (done : dspProcessSwToHw env dsp task request bufs = some run) :
    ∃ entry, .nextEntry entry ∈ run.calls := by
  rw [dspProcessSwToHw] at done
  split at done
  case isTrue => cases done
  case isFalse =>
    obtain ⟨⟨driver, entry, memory⟩, -, rest⟩ := Option.bind_eq_some_iff.mp done
    dsimp only at rest
    split at rest
    · cases rest
      exact ⟨entry, List.mem_cons_self⟩
    · exact ⟨entry, ((sw_algo_shows _ _ _ _ _ run ((sw_algo_end _ _ _ _ _ run).mp rest)).2.2 entry).mpr rfl⟩

theorem sw_to_hw_entry (run : SwToHwRun) (done : dspProcessSwToHw env dsp task request bufs = some run) :
    ∃ next entry ret, postIspGetNextEntry dsp.postIsp env.postEntry = some (next, entry, ret) := by
  rw [dspProcessSwToHw] at done
  split at done
  case isTrue => cases done
  case isFalse =>
    obtain ⟨answer, looked, -⟩ := Option.bind_eq_some_iff.mp done
    obtain ⟨⟨next, entry, ret⟩, got, -⟩ := Option.bind_eq_some_iff.mp looked
    exact ⟨next, entry, ret, got⟩

section Asked

variable (configured : task.be.ops = some .postIsp) (filled : (bufs (lastBuffer request)).type = .allocFm) (next : SispHandler)
  (entry : SispBuffer) (ret : EhwErrorCode) (got : postIspGetNextEntry dsp.postIsp env.postEntry = some (next, entry, ret))

include configured got

theorem asked_without_algo (missing : task.algo.algoProcess = none) :
    ∃ run, dspProcessSwToHw env dsp task request bufs = some run ∧ WritesEntry env.algo run := by
  have looked := next_entry_at env dsp next entry ret got
  by_cases ok : ret = .ok
  · rw [if_pos ok] at looked
    refine ⟨⟨next, [.nextEntry (some entry.words)], .algoInvalid⟩, ?_, unloaded_writes env next _⟩
    simp [dspProcessSwToHw, configured, looked, missing]
  · rw [if_neg ok] at looked
    refine ⟨⟨next, [.nextEntry none], .algoInvalid⟩, ?_, unloaded_writes env next _⟩
    simp [dspProcessSwToHw, configured, looked, missing]

-- Without an entry the algorithm is called all the same.
theorem asked_in_vain (function : Nat) (loaded : task.algo.algoProcess = some function) (full : ret ≠ .ok) :
    ¬ ∃ run, dspProcessSwToHw env dsp task request bufs = some run ∧ WritesEntry env.algo run := by
  have looked := next_entry_at env dsp next entry ret got
  rw [if_neg full] at looked
  rintro ⟨run, done, writes⟩
  simp only [dspProcessSwToHw, configured, looked, loaded, ne_eq, not_true_eq_false, if_false, Option.bind_eq_bind,
    Option.bind_some] at done
  obtain ⟨called, -, entries⟩ := sw_algo_shows _ _ _ _ _ run ((sw_algo_end _ _ _ _ _ run).mp done)
  obtain ⟨buffer, given, -, shown, -⟩ := writes.called _ called
  cases (entries (some given)).mp shown

include filled

theorem asked_with_entry (function : Nat) (loaded : task.algo.algoProcess = some function) (ok : ret = .ok) :
    (∃ run, dspProcessSwToHw env dsp task request bufs = some run ∧ WritesEntry env.algo run) ↔
      task.algo.param ≠ none ∧ StackHolds (outInfoAt env.memory) entry.words ∧ RoomAfter env next entry.words.lineNum.toNat := by
  have looked := next_entry_at env dsp next entry ret got
  rw [if_pos ok] at looked
  let memory := writeFields (nextEntryWrites entry) env.memory
  let filledBufs := (fillSwBuffers task.algo.param request bufs (outInfoAt memory)).1
  have process : dspProcessSwToHw env dsp task request bufs =
      swAlgoRun env next (some entry.words) (seenBuffer task.algo.param request filledBufs) memory := by
    simp [dspProcessSwToHw, configured, looked, loaded, memory, filledBufs]
  rw [process, sw_algo_writes env next _ memory entry.words (started_lines entry env.memory), ← and_assoc]
  refine and_congr_left' ?_
  cases block : task.algo.param with
  | none => simp [seenBuffer]
  | some param =>
      have last : filledBufs (lastBuffer request) = fillBuffer (bufs (lastBuffer request)) (outInfoAt memory) := by
        simp [filledBufs, fillSwBuffers, block, filled]
      simp only [seenBuffer, Option.map_some, Option.some.injEq, exists_eq_left', last, ne_eq, reduceCtorEq, not_false_eq_true, true_and]
      exact filled_from_stack entry env.memory _

end Asked

-- A request does what it should if and only if the stack has the entry's numbers
-- already and the push is taken, or the algorithm is not called.
theorem sw_to_hw_served : SwToHwServed env dsp task request bufs ↔ SwToHwFits env dsp task request bufs := by
  by_cases fits : task.be.ops = some .postIsp ∧ (bufs (lastBuffer request)).type = .allocFm
  · have served : SwToHwServed env dsp task request bufs ↔
        ∃ run, dspProcessSwToHw env dsp task request bufs = some run ∧ WritesEntry env.algo run := by
      simp only [SwToHwServed, if_pos fits]
    obtain ⟨configured, filled⟩ := fits
    rw [served, SwToHwFits, and_iff_right configured, and_iff_right filled]
    constructor
    · rintro ⟨run, done, writes⟩
      have written : ∃ run, dspProcessSwToHw env dsp task request bufs = some run ∧ WritesEntry env.algo run := ⟨run, done, writes⟩
      obtain ⟨next, entry, ret, got⟩ := sw_to_hw_entry env dsp task request bufs run done
      refine ⟨next, entry, ret, got, ?_⟩
      cases loaded : task.algo.algoProcess with
      | none => exact .inl rfl
      | some function =>
          by_cases ok : ret = .ok
          · exact .inr ⟨ok, (asked_with_entry env dsp task request bufs configured filled next entry ret got function loaded ok).mp written⟩
          · exact absurd written (asked_in_vain env dsp task request bufs configured next entry ret got function loaded ok)
    · rintro ⟨next, entry, ret, got, missing | ⟨ok, called⟩⟩
      · exact asked_without_algo env dsp task request bufs configured next entry ret got missing
      · cases loaded : task.algo.algoProcess with
        | none => exact asked_without_algo env dsp task request bufs configured next entry ret got loaded
        | some function =>
            exact (asked_with_entry env dsp task request bufs configured filled next entry ret got function loaded ok).mpr called
  · refine iff_of_false ?_ fun held => fits ⟨held.1, held.2.1⟩
    rintro ⟨run, done, refused⟩
    rw [if_neg fits] at refused
    obtain ⟨entry, asked⟩ := sw_to_hw_asks env dsp task request bufs run done
    rw [refused.quiet] at asked
    cases asked

end Request

theorem word_lines (entry : SispBuffer) : u16 entry.lineNum = entry.words.lineNum.toNat := by
  have lines : entry.words.lineNum.toNat = entry.lineNum % 65536 := UInt16.toNat_ofNat'
  rw [lines, u16, wrapU]
  omega

section Process

variable (scratch : Scratch) (env : SwToHwEnv) (dsp : Dsp) (pri : Nat) (request : SwTaskReq) (bufs : Int → AlgoBuffer)

def algoParamOf : Dsp := fillSwTaskAlgoParam dsp (dsp.tasks pri).algo.param request

theorem filled_driver (driver : SispHandler) :
    fillSwTaskAlgoParam { dsp with postIsp := driver } (dsp.tasks pri).algo.param request =
      { algoParamOf dsp pri request with postIsp := driver } := by
  rw [algoParamOf]
  cases (dsp.tasks pri).algo.param with
  | none => rfl
  | some param => rfl

-- Both models ask for the same entry, and read the same height afterwards.
theorem sw_to_hw_out (kind : (dsp.tasks pri).type = .swToHw) (ops : (dsp.tasks pri).be.ops = some .postIsp)
    (entry : scratch.postEntry = env.postEntry) (out : scratch.out = bufferAt env.memory) (next : SispHandler) (given : SispBuffer)
    (ret : EhwErrorCode) (got : postIspGetNextEntry dsp.postIsp env.postEntry = some (next, given, ret)) :
    ∃ buffer shown memory, swTaskOut scratch dsp (dsp.tasks pri) = some ({ dsp with postIsp := next }, buffer) ∧
      postIspNextEntryAt env.postEntry dsp.postIsp env.memory = some (next, shown, memory) ∧
      u16 buffer.height = u16 (bufferAt memory).height := by
  have looked := next_entry_at env dsp next given ret got
  by_cases ok : ret = .ok
  · rw [if_pos ok] at looked
    let buffer : CsiDspBuffer :=
      ⟨u8 given.fmt, 1, given.lineNum, given.lineSize, u32 (given.lineSize * given.lineNum : Nat), given.startAddr⟩
    have lines : u16 buffer.height = u16 (bufferAt (writeFields (nextEntryWrites given) env.memory)).height :=
      (word_lines given).trans (started_lines given env.memory).symm
    refine ⟨buffer, _, _, ?_, looked, lines⟩
    simp [swTaskOut, kind, beGetNextEntry, ops, getPostIspNextEntry, entry, got, ok, buffer]
  · rw [if_neg ok] at looked
    refine ⟨_, _, _, ?_, looked, congrArg (fun buffer : CsiDspBuffer => u16 buffer.height) out⟩
    simp [swTaskOut, kind, beGetNextEntry, ops, getPostIspNextEntry, entry, got, ok]

-- The calls are those of the request as the firmware takes it, when no interrupt
-- comes in between.
theorem sw_to_hw_process (kind : (dsp.tasks pri).type = .swToHw) (device : (dsp.tasks pri).be.ops ≠ some .host)
    (entry : scratch.postEntry = env.postEntry) (out : scratch.out = bufferAt env.memory) (during : env.during = [])
    (late : env.late = []) :
    dspProcessSwTask scratch env.algo dsp pri request = (dspProcessSwToHw env dsp (dsp.tasks pri) request bufs).map fun run =>
      ({ algoParamOf dsp pri request with postIsp := run.driver }, run.reply) := by
  cases ops : (dsp.tasks pri).be.ops with
  | none => simp [dspProcessSwTask, swTaskOut, kind, beGetNextEntry, ops, dspProcessSwToHw]
  | some driver =>
      cases driver with
      | host => exact absurd ops device
      | postIsp =>
          cases got : postIspGetNextEntry dsp.postIsp env.postEntry with
          | none =>
              simp [dspProcessSwTask, swTaskOut, kind, beGetNextEntry, ops, dspProcessSwToHw, getPostIspNextEntry, entry, got,
                postIspNextEntryAt]
          | some answer =>
              obtain ⟨next, given, ret⟩ := answer
              obtain ⟨buffer, shown, memory, asked, taken, lines⟩ :=
                sw_to_hw_out scratch env dsp pri kind ops entry out next given ret got
              cases loaded : (dsp.tasks pri).algo.algoProcess with
              | none => simp [dspProcessSwTask, asked, dspProcessSwToHw, ops, taken, loaded, filled_driver]
              | some function =>
                  cases answered : env.algo with
                  | failure =>
                      simp [dspProcessSwTask, asked, dspProcessSwToHw, ops, taken, loaded, filled_driver, swAlgoRun, answered,
                        during, Runs.run]
                  | done extra =>
                      simp [dspProcessSwTask, asked, dspProcessSwToHw, ops, taken, loaded, filled_driver, swAlgoRun, answered, during, late,
                        Runs.run, kind, beGetState, beEntryStart, postIspEntryStart, lines]
                      cases postIspPushEntry next (u16 (bufferAt memory).height) with
                      | none => rfl
                      | some pushed => rfl

end Process

def RequestWritten (env : SwToHwEnv) (dsp : Dsp) (pri : Nat) (request : SwTaskReq) (bufs : Int → AlgoBuffer) : Prop :=
  (dsp.tasks pri).type = .swToHw → (dsp.tasks pri).be.ops ≠ some .host → SwToHwServed env dsp (dsp.tasks pri) request bufs

-- The answers on the way are not looked at, so that a request is never refused,
-- and the entry is written to a structure that the buffer is not filled from.
theorem sw_to_hw_exact (env : SwToHwEnv) (dsp : Dsp) (pri : Nat) (request : SwTaskReq) (bufs : Int → AlgoBuffer) :
    RequestWritten env dsp pri request bufs ↔
      ((dsp.tasks pri).type = .swToHw → (dsp.tasks pri).be.ops ≠ some .host → SwToHwFits env dsp (dsp.tasks pri) request bufs) :=
  imp_congr_right fun _ => imp_congr_right fun _ => sw_to_hw_served env dsp (dsp.tasks pri) request bufs

-- A post ISP with entries of four lines, and an empty ring.
def fmPostIsp : SispHandler :=
  ((postIspHandlerConfig (zeroHandler 0) ⟨0, 640, 8, 0, 4, 64, 512, 0x1000⟩).map Prod.fst).getD (zeroHandler 0)

def fmDsp : Dsp := modifyTask { initDsp anyCmd anyReport with postIsp := fmPostIsp } 8 fun task =>
  { task with type := .swToHw, status := .ready, be := ⟨.postIsp, -1, some .postIsp⟩, algo := ⟨0, some 0x5000, some 0x6000⟩ }

def fmRequest : SwTaskReq := ⟨1, 0, none, 0x9000, fun _ => true⟩

def fmBuffers : Int → AlgoBuffer := fun _ => { zeroAlgoBuffer with type := .allocFm }

-- With a stack of zeros the algorithm gets a buffer without lines.
theorem stack_for_entry : ¬ ∀ (env : SwToHwEnv) (dsp : Dsp) (pri : Nat) (request : SwTaskReq) (bufs : Int → AlgoBuffer),
    RequestWritten env dsp pri request bufs := by
  intro claim
  let env : SwToHwEnv := ⟨⟨0, 0, 0, 0, 0⟩, fun _ => 0, .done [], [], []⟩
  have served := claim env fmDsp 8 fmRequest fmBuffers (by decide) (by decide)
  obtain ⟨-, -, next, entry, ret, got, missing | ⟨-, -, holds, -⟩⟩ := (sw_to_hw_served _ _ _ _ _).mp served
  · exact absurd missing (by decide)
  · have four : (postIspGetNextEntry fmDsp.postIsp env.postEntry).map (fun answer => answer.2.1.words.lineNum) = some 4 := by decide
    rw [got] at four
    have lines : entry.words.lineNum = 4 := Option.some.inj four
    have zero : u32 (outInfoAt env.memory).height = 0 := by decide
    have wrong := zero.symm.trans holds.height
    rw [lines] at wrong
    exact absurd wrong (by decide)

end CsiDsp
