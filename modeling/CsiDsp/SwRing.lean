import Mathlib.Data.List.Basic
import CsiDsp.Base.RingList
import CsiDsp.Base.Runs
import CsiDsp.SwBackEnd

set_option autoImplicit false

namespace CsiDsp

open Runs CInt RingList

-- A back end of the host with its history: the buffers that were assigned to it
-- and those it has delivered, and the one the task took from the last
-- get_sw_be_next_entry.
structure SwRing where
  handler : SwBeHandler
  assigned : List CsiDspBuffer
  delivered : List CsiDspBuffer
  held : Option CsiDspBuffer

-- entryStart carries the answer of ps_report_avaiable, which the
-- acknowledgements of the host change, and the content of the mailbox.
inductive SwRingEvent where
  | getEntry
  | entryStart (available : Bool) (item : ReportItem)
  | asginBuf (config : SwBeConfigPar)
  | recoveryUpdate

def listedBuffers (config : SwBeConfigPar) : List CsiDspBuffer := (List.range config.numBuf.toNat).map config.bufs

def startSwRing (config : SwBeConfigPar) (report : Option Nat) (reportSize : Nat) : SwRing :=
  ⟨swBeStart config report reportSize, [], [], none⟩

def swRingStep (ring : SwRing) : SwRingEvent → Option SwRing
  | .getEntry => some { ring with held := getSwBeNextEntry ring.handler }
  | .entryStart available item =>
      let (handler, _, started) := swBeEntryStart available ring.handler item
      if started then some { ring with
        handler := handler
        delivered := ring.delivered ++ (getSwBeNextEntry ring.handler).toList
        held := none }
      else some { ring with handler := handler }
  | .asginBuf config => do
      let (handler, accepted) ← swBeAsginBuf ring.handler config
      if accepted then some { ring with handler := handler, assigned := ring.assigned ++ listedBuffers config }
      else some { ring with handler := handler }
  | .recoveryUpdate => some { ring with handler := swRecoveryStateUpdate ring.handler }

-- An assignment fits or is refused, and leaves the buffers in the ring alone.
def AssignSafe (handler : SwBeHandler) (number : Nat) (config : SwBeConfigPar) : Prop :=
  ∃ next accepted, swBeAsginBuf handler config = some (next, accepted) ∧
    (accepted = true ↔ handler.validBufNum + config.numBuf ≤ number) ∧
      ∀ offset < handler.validBufNum.toNat,
        next.bufs ((handler.headId + offset) % number) = handler.bufs ((handler.headId + offset) % number)

structure SwRingFifo (configured : List CsiDspBuffer) (ring : SwRing) : Prop where
  inOrder : ring.delivered <+: configured ++ ring.assigned
  next : ∀ buffer, ring.held = some buffer → ring.delivered ++ [buffer] <+: configured ++ ring.assigned
  count : ring.handler.validBufNum = configured.length + ring.assigned.length - ring.delivered.length
  inside : 0 ≤ ring.handler.validBufNum ∧ ring.handler.validBufNum ≤ configured.length
  head : ring.handler.headId < configured.length

-- A number of buffers to assign.
def CountsBuffers (config : SwBeConfigPar) : Prop := 0 ≤ config.numBuf ∧ config.numBuf ≤ intMax

instance (config : SwBeConfigPar) : Decidable (CountsBuffers config) := inferInstanceAs (Decidable (_ ∧ _))

-- The ring holds what is neither delivered nor yet to be assigned.
structure SwRingInv (number : Nat) (configured : List CsiDspBuffer) (ring : SwRing) (count : Nat) : Prop where
  small : number ≤ 127
  capacity : ring.handler.bufNum = number
  head : ring.handler.headId < number
  valid : ring.handler.validBufNum = count
  room : count ≤ number
  holds : ring.delivered ++ ringList number ring.handler.headId count ring.handler.bufs = configured ++ ring.assigned
  taken : ∀ buffer, ring.held = some buffer → 0 < count ∧ ring.handler.bufs ring.handler.headId = buffer

theorem i8_fits (value : Nat) (fits : value < 128) : i8 (value : Int) = value :=
  wrap_s_fits 8 value (by omega) (by simp only [Nat.reducePow]; omega)

theorem u8_fits (value : Nat) (fits : value < 256) : u8 (value : Int) = value := wrap_u_fits 8 value fits

-- A filled back end that is running gives out the buffer at its head.
theorem next_entry_head (handler : SwBeHandler) (buffer : CsiDspBuffer) (got : getSwBeNextEntry handler = some buffer) :
    0 < handler.validBufNum ∧ handler.bufs handler.headId = buffer := by
  rw [getSwBeNextEntry] at got
  split at got
  · cases got
  · split at got
    · cases got
    · rename_i some_
      exact ⟨Int.not_le.mp some_, Option.some.inj got⟩

-- Everything a call of sw_be_entry_start can do to the ring.
inductive EntryStartOutcome (handler : SwBeHandler) : SwBeHandler → Bool → Prop where
  | refused (status : Int) : EntryStartOutcome handler { handler with status := status } false
  | started (running : handler.status = bufStatusAllocted) (several : 1 < handler.validBufNum) :
      EntryStartOutcome handler { handler with
        headId := u8 ((handler.headId + 1) % handler.bufNum : Nat)
        validBufNum := i8 (handler.validBufNum - 1) } true

theorem entry_start_outcome (available : Bool) (handler : SwBeHandler) (item : ReportItem) :
    EntryStartOutcome handler (swBeEntryStart available handler item).1 (swBeEntryStart available handler item).2.2 := by
  rw [swBeEntryStart]
  by_cases unreported : handler.report = none
  · rw [if_pos unreported]
    exact .refused bufStatusInvalid
  · rw [if_neg unreported]
    by_cases stopped : handler.status ≠ bufStatusAllocted
    · rw [if_pos stopped]
      exact .refused handler.status
    · rw [if_neg stopped]
      by_cases few : handler.validBufNum ≤ 1
      · rw [if_pos few]
        exact .refused bufStatusNoMemory
      · rw [if_neg few]
        by_cases outside : handler.headId ≥ handler.bufNum
        · rw [if_pos outside]
          exact .refused bufStatusInvalid
        · rw [if_neg outside]
          cases available with
          | false => exact .refused handler.status
          | true => exact .started (Decidable.not_not.mp stopped) (Int.not_le.mp few)

theorem asgin_fits (handler : SwBeHandler) (number count : Nat) (config : SwBeConfigPar) (capacity : handler.bufNum = number)
    (valid : handler.validBufNum = count) (small : number ≤ 127) (head : handler.headId < number) (assigned : 0 ≤ config.numBuf)
    (fits : count + config.numBuf.toNat ≤ number) : ∃ status, swBeAsginBuf handler config = some ({ handler with
      bufs := writeRing number (handler.headId + count) config.bufs config.numBuf.toNat handler.bufs
      validBufNum := (count + config.numBuf.toNat : Nat)
      status := status }, true) := by
  have exact_ : config.numBuf = config.numBuf.toNat := (Int.toNat_of_nonneg assigned).symm
  have taken : i32 (handler.validBufNum + config.numBuf) = (count + config.numBuf.toNat : Nat) := by
    rw [valid, exact_, ← Int.natCast_add, i32_fits _ (by omega), Int.toNat_natCast]
  have cell (offset : Nat) (listed : offset ∈ List.range config.numBuf.toNat) :
      Int.tmod (i32 ((offset : Int) + (handler.headId + handler.validBufNum))) handler.bufNum =
        ((handler.headId + count + offset) % number : Nat) := by
    have below := List.mem_range.mp listed
    have place : (offset : Int) + (handler.headId + handler.validBufNum) = (handler.headId + count + offset : Nat) := by
      rw [valid]
      omega
    rw [capacity, place, i32_fits _ (by omega), tmod_nat]
  have inFront : ((List.range config.numBuf.toNat).any fun index =>
      decide (Int.tmod (i32 (index + (handler.headId + handler.validBufNum))) handler.bufNum < 0)) = false := by
    rw [List.any_eq_false]
    intro index listed
    rw [cell index listed, decide_eq_true_eq]
    omega
  have written : (List.range config.numBuf.toNat).foldl (fun bufs (index : Nat) => Function.update bufs
      (Int.tmod (i32 (index + (handler.headId + handler.validBufNum))) handler.bufNum).toNat (config.bufs index)) handler.bufs =
        writeRing number (handler.headId + count) config.bufs config.numBuf.toNat handler.bufs := by
    rw [writeRing]
    refine List.foldl_ext _ _ handler.bufs fun bufs index listed => ?_
    rw [cell index listed, Int.toNat_natCast]
  have sum : i8 (handler.validBufNum + config.numBuf) = (count + config.numBuf.toNat : Nat) := by
    rw [valid, exact_, ← Int.natCast_add, i8_fits _ (by omega), Int.toNat_natCast]
  rw [swBeAsginBuf]
  simp only [inFront, written, sum, taken, if_neg (show ¬ ((count + config.numBuf.toNat : Nat) : Int) > handler.bufNum by omega),
    if_neg (show ¬ (0 < config.numBuf ∧ handler.bufNum = 0) by omega), Bool.false_eq_true, if_false]
  exact ⟨_, rfl⟩

theorem asgin_refused (handler : SwBeHandler) (config : SwBeConfigPar)
    (beyond : i32 (handler.validBufNum + config.numBuf) > handler.bufNum) : swBeAsginBuf handler config = some (handler, false) := by
  rw [swBeAsginBuf]
  exact if_pos beyond

-- Only the check refuses an assignment.
theorem asgin_taken (handler next : SwBeHandler) (config : SwBeConfigPar) (accepted : Bool)
    (fits : ¬ i32 (handler.validBufNum + config.numBuf) > handler.bufNum) (done : swBeAsginBuf handler config = some (next, accepted)) :
    accepted = true := by
  simp only [swBeAsginBuf, if_neg fits] at done
  split at done
  · cases done
  · split at done
    · cases done
    · cases done
      rfl

section Step

variable (number : Nat) (configured : List CsiDspBuffer) (ring : SwRing) (count : Nat) (inv : SwRingInv number configured ring count)

include inv

theorem sw_get_step : SwRingInv number configured { ring with held := getSwBeNextEntry ring.handler } count := by
  refine { inv with taken := fun buffer got => ?_ }
  obtain ⟨some_, head⟩ := next_entry_head ring.handler buffer got
  rw [inv.valid] at some_
  exact ⟨by omega, head⟩

theorem sw_start_step (available : Bool) (item : ReportItem) :
    ∃ next left, swRingStep ring (.entryStart available item) = some next ∧ SwRingInv number configured next left := by
  have outcome := entry_start_outcome available ring.handler item
  rw [swRingStep]
  generalize swBeEntryStart available ring.handler item = answer at outcome ⊢
  obtain ⟨handler, filled, started⟩ := answer
  dsimp only at outcome ⊢
  cases outcome with
  | refused status => exact ⟨_, count, rfl, { inv with }⟩
  | started running several =>
      have head := inv.head
      have room := inv.room
      have small := inv.small
      have valid := inv.valid
      have got : getSwBeNextEntry ring.handler = some (ring.handler.bufs ring.handler.headId) := by
        rw [getSwBeNextEntry, if_neg (by rw [running]; decide), if_neg (by omega)]
      obtain ⟨left, rfl⟩ : ∃ left, count = left + 1 := ⟨count - 1, by omega⟩
      have next : u8 ((ring.handler.headId + 1) % ring.handler.bufNum : Nat) = (ring.handler.headId + 1) % number := by
        have below := Nat.mod_lt (ring.handler.headId + 1) (show 0 < number by omega)
        rw [inv.capacity, u8_fits _ (by omega)]
      have fewer : i8 (ring.handler.validBufNum - 1) = left := by
        rw [valid, Int.natCast_succ, Int.add_sub_cancel, i8_fits _ (by omega)]
      refine ⟨_, left, if_pos rfl, small, inv.capacity, ?_, fewer, by omega, ?_, fun buffer held => by cases held⟩
      · dsimp only
        rw [next]
        exact Nat.mod_lt _ (by omega)
      · have holds := inv.holds
        rw [ring_take, Nat.mod_eq_of_lt head] at holds
        dsimp only
        rw [next, got, Option.toList_some, List.append_assoc, List.singleton_append, holds]

theorem sw_asgin_refused (config : SwBeConfigPar) (assigned : 0 ≤ config.numBuf)
    (exact_ : ring.handler.validBufNum + config.numBuf ≤ intMax) (beyond : ¬ count + config.numBuf.toNat ≤ number) :
    swBeAsginBuf ring.handler config = some (ring.handler, false) := by
  have capacity := inv.capacity
  have valid := inv.valid
  refine asgin_refused ring.handler config ?_
  rw [i32_int _ (by rw [intMax]; omega) exact_]
  omega

theorem sw_asgin_step (config : SwBeConfigPar) (assigned : 0 ≤ config.numBuf)
    (exact_ : ring.handler.validBufNum + config.numBuf ≤ intMax) :
    ∃ next left, swRingStep ring (.asginBuf config) = some next ∧ SwRingInv number configured next left := by
  have head := inv.head
  have capacity := inv.capacity
  have valid := inv.valid
  rw [swRingStep]
  by_cases fits : count + config.numBuf.toNat ≤ number
  · obtain ⟨status, done⟩ := asgin_fits ring.handler number count config capacity valid inv.small head assigned fits
    simp only [done, Option.bind_eq_bind, Option.bind_some, if_true]
    refine ⟨_, count + config.numBuf.toNat, rfl, inv.small, capacity, head, rfl, fits, ?_, fun buffer held => ?_⟩
    · dsimp only
      rw [ring_write number _ count _ _ _ fits, ← List.append_assoc, inv.holds, List.append_assoc]
      rfl
    · obtain ⟨some_, front⟩ := inv.taken buffer held
      refine ⟨by omega, ?_⟩
      have kept := write_keeps number ring.handler.headId count config.numBuf.toNat config.bufs ring.handler.bufs fits 0 some_
      rw [Nat.add_zero, Nat.mod_eq_of_lt head] at kept
      exact kept.trans front
  · rw [sw_asgin_refused number configured ring count inv config assigned exact_ fits]
    exact ⟨_, count, rfl, { inv with }⟩

-- A sum that is no int passes the check.
theorem asgin_safe_iff (config : SwBeConfigPar) (counts : CountsBuffers config) :
    AssignSafe ring.handler number config ↔ ring.handler.validBufNum + config.numBuf ≤ intMax := by
  have small := inv.small
  have valid := inv.valid
  have room := inv.room
  obtain ⟨assigned, most⟩ := counts
  constructor
  · rintro ⟨next, accepted, done, answered, -⟩
    by_contra overflows
    have negative := i32_overflow (ring.handler.validBufNum + config.numBuf) (by omega) (by rw [intMax] at most ⊢; omega)
    have passed := asgin_taken ring.handler next config accepted (by omega) done
    have fits := answered.mp passed
    rw [intMax] at overflows
    omega
  · intro exact_
    by_cases fits : count + config.numBuf.toNat ≤ number
    · obtain ⟨status, done⟩ := asgin_fits ring.handler number count config inv.capacity valid small inv.head assigned fits
      refine ⟨_, true, done, iff_of_true rfl (by omega), fun offset inside => ?_⟩
      exact write_keeps number ring.handler.headId count _ _ _ fits offset (by omega)
    · exact ⟨_, false, sw_asgin_refused number configured ring count inv config assigned exact_ fits,
        iff_of_false Bool.false_ne_true (by omega), fun _ _ => rfl⟩

end Step

theorem start_sw_ring_inv (config : SwBeConfigPar) (report : Option Nat) (reportSize : Nat) (some_ : 1 ≤ config.numBuf)
    (short : config.numBuf ≤ 127) :
    SwRingInv config.numBuf.toNat (listedBuffers config) (startSwRing config report reportSize) config.numBuf.toNat := by
  have number : u8 config.numBuf = config.numBuf.toNat := by
    rw [← u8_fits config.numBuf.toNat (by omega), Int.toNat_of_nonneg (by omega)]
  have head : 0 < config.numBuf.toNat := by omega
  refine ⟨by omega, number, head, ?_, Nat.le_refl _, ?_, fun buffer held => by cases held⟩
  · simp only [startSwRing, swBeStart, number]
    exact i8_fits _ (by omega)
  · rw [startSwRing, swBeStart, listedBuffers, ringList, List.nil_append, List.append_nil]
    refine List.map_congr_left fun offset member => ?_
    rw [Nat.zero_add, Nat.mod_eq_of_lt (List.mem_range.mp member)]

-- The number of the buffers is not negative, and their sum with those in the
-- ring is an int.
def AssignsBuffers (ring : SwRing) : SwRingEvent → Prop
  | .asginBuf config => 0 ≤ config.numBuf ∧ ring.handler.validBufNum + config.numBuf ≤ intMax
  | _ => True

theorem sw_ring_run (number : Nat) (configured : List CsiDspBuffer) (events : List SwRingEvent) (ring : SwRing) (count : Nat)
    (assigns : Guarded swRingStep AssignsBuffers ring events) (inv : SwRingInv number configured ring count) :
    ∃ finish left, run swRingStep ring events = some finish ∧ SwRingInv number configured finish left := by
  induction events generalizing ring count with
  | nil => exact ⟨ring, count, rfl, inv⟩
  | cons event rest ih =>
      have stepped : ∃ next left, swRingStep ring event = some next ∧ SwRingInv number configured next left := by
        cases event with
        | getEntry => exact ⟨_, count, rfl, sw_get_step number configured ring count inv⟩
        | entryStart available item => exact sw_start_step number configured ring count inv available item
        | asginBuf config => exact sw_asgin_step number configured ring count inv config assigns.1.1 assigns.1.2
        | recoveryUpdate => exact ⟨_, count, rfl, { inv with }⟩
      obtain ⟨next, left, taken, held⟩ := stepped
      rw [run, taken]
      exact ih next left (assigns.2 next taken) held

theorem sw_ring_inv_fifo (configured : List CsiDspBuffer) (ring : SwRing) (count : Nat)
    (inv : SwRingInv configured.length configured ring count) : SwRingFifo configured ring := by
  have total := congrArg List.length inv.holds
  rw [List.length_append, List.length_append, ring_length] at total
  have room := inv.room
  have valid := inv.valid
  refine ⟨⟨_, inv.holds⟩, fun buffer held => ?_, by omega, by omega, inv.head⟩
  obtain ⟨some_, front⟩ := inv.taken buffer held
  obtain ⟨left, rfl⟩ : ∃ left, count = left + 1 := ⟨count - 1, by omega⟩
  have holds := inv.holds
  rw [ring_take, Nat.mod_eq_of_lt inv.head, front] at holds
  exact ⟨_, by rw [List.append_assoc, List.singleton_append]; exact holds⟩

-- Whatever the order of the calls, the ring delivers the configured buffers and
-- then the assigned ones, and never traps. The check of an assignment is right as
-- long as its sum is an int.
theorem sw_ring_fifo (config : SwBeConfigPar) (report : Option Nat) (reportSize : Nat) (some_ : 1 ≤ config.numBuf)
    (short : config.numBuf ≤ 127) (events : List SwRingEvent)
    (assigns : Guarded swRingStep AssignsBuffers (startSwRing config report reportSize) events) :
    ∃ ring, run swRingStep (startSwRing config report reportSize) events = some ring ∧ SwRingFifo (listedBuffers config) ring ∧
      ∀ assign, CountsBuffers assign →
        (AssignSafe ring.handler config.numBuf.toNat assign ↔ ring.handler.validBufNum + assign.numBuf ≤ intMax) := by
  have length : (listedBuffers config).length = config.numBuf.toNat := by
    rw [listedBuffers, List.length_map, List.length_range]
  have start := start_sw_ring_inv config report reportSize some_ short
  obtain ⟨ring, left, ran, inv⟩ := sw_ring_run _ _ events _ _ assigns start
  refine ⟨ring, ran, sw_ring_inv_fifo _ ring left (length ▸ inv), fun assign counts => ?_⟩
  exact asgin_safe_iff _ _ ring left inv assign counts

-- Two buffers, of which the first goes out and is then assigned again.
def twoBuffers : SwBeConfigPar := ⟨2, fun index => { zeroBuffer with bufPhy := index }⟩

def oneBack : List SwRingEvent :=
  [.getEntry, .entryStart true ⟨.normal, zeroBuffer, []⟩, .asginBuf ⟨1, fun _ => zeroBuffer⟩, .getEntry, .recoveryUpdate]

instance (ring : SwRing) : ∀ event, Decidable (AssignsBuffers ring event)
  | .asginBuf _ => inferInstanceAs (Decidable (_ ∧ _))
  | .getEntry | .entryStart _ _ | .recoveryUpdate => .isTrue trivial

theorem sw_ring_fifo_two : ∃ ring, run swRingStep (startSwRing twoBuffers (some 0) 256) oneBack = some ring ∧
    SwRingFifo (listedBuffers twoBuffers) ring ∧ ∀ assign, CountsBuffers assign →
      (AssignSafe ring.handler 2 assign ↔ ring.handler.validBufNum + assign.numBuf ≤ intMax) :=
  sw_ring_fifo twoBuffers (some 0) 256 (by decide) (by decide) oneBack (by decide)

-- The largest number there is passes the check.
theorem overflowing_sum_accepted : ¬ ∀ (config : SwBeConfigPar) (report : Option Nat) (reportSize : Nat) (events : List SwRingEvent),
    1 ≤ config.numBuf → config.numBuf ≤ 127 → (∀ assign, .asginBuf assign ∈ events → CountsBuffers assign) →
    ∃ ring, run swRingStep (startSwRing config report reportSize) events = some ring ∧ SwRingFifo (listedBuffers config) ring ∧
      ∀ assign, CountsBuffers assign → AssignSafe ring.handler config.numBuf.toNat assign := by
  intro claim
  obtain ⟨ring, ran, -, safe⟩ := claim twoBuffers (some 0) 256 [] (by decide) (by decide) (fun assign member => by cases member)
  cases ran
  have exact_ := (asgin_safe_iff 2 _ _ 2 (start_sw_ring_inv twoBuffers (some 0) 256 (by decide) (by decide))
    ⟨intMax, fun _ => zeroBuffer⟩ (by decide)).mp (safe ⟨intMax, fun _ => zeroBuffer⟩ (by decide))
  exact absurd exact_ (by decide)

end CsiDsp
