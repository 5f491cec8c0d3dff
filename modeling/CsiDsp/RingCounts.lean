import CsiDsp.RunningTasks
import CsiDsp.SwRing

set_option autoImplicit false

namespace CsiDsp

open Runs CInt

-- The descriptors there is room for in the block of num_buf * sizeof(struct
-- csi_dsp_buffer) bytes. The product is a size_t.
def allocatedBuffers (numBuf : Int) : Nat := u32 (numBuf * bufferSize) / bufferSize

-- A ring whose counters describe the list that was allocated for it.
structure RingCounted (allocated : Nat) (handler : SwBeHandler) : Prop where
  some_ : 1 ≤ handler.bufNum
  list : handler.bufNum = allocated
  head : handler.headId < handler.bufNum
  valid : 0 ≤ handler.validBufNum ∧ handler.validBufNum ≤ handler.bufNum

-- BE_CONFIG leaves the handlers alone, or starts one with the number of the host.
def ConfigRepresented (dsp : Dsp) (pri : Nat) (config : SwBeConfigPar) (bufs : Option Nat) : Prop :=
  ∃ next accepted, psSwTaskOutConfigMessageHandler dsp pri config bufs = some (next, accepted) ∧
    (accepted = false → next.swBe = dsp.swBe) ∧
      (accepted = true → ∃ id, freeSwBeId dsp.swBe = some id ∧ RingCounted (allocatedBuffers config.numBuf) (next.swBe id) ∧
        (next.swBe id).validBufNum = config.numBuf)

-- BE_ASSGIN_BUF leaves the handler alone, or adds the number of the host.
def AssignRepresented (allocated : Nat) (handler : SwBeHandler) (config : SwBeConfigPar) : Prop :=
  ∃ next accepted, swBeAsginBuf handler config = some (next, accepted) ∧
    (accepted = false → next = handler) ∧
      (accepted = true → RingCounted allocated next ∧ next.validBufNum = handler.validBufNum + config.numBuf)

-- A buffer would be copied in front of the list.
def writesInFront (handler : SwBeHandler) (config : SwBeConfigPar) : Bool :=
  (List.range config.numBuf.toNat).any fun index =>
    decide (Int.tmod (i32 (index + (handler.headId + handler.validBufNum))) handler.bufNum < 0)

def AssignRefused (handler : SwBeHandler) (config : SwBeConfigPar) : Prop :=
  i32 (handler.validBufNum + config.numBuf) > handler.bufNum

theorem i8_lt (value : Int) : i8 value < 128 := by
  have below : value.bmod (2 ^ 8) < ((2 ^ 8 : Nat) + 1) / 2 := Int.bmod_lt (Nat.two_pow_pos 8)
  rw [i8, wrapS]
  omega

theorem allocated_exact (count : Nat) (short : count ≤ 127) : allocatedBuffers count = count := by
  rw [allocatedBuffers, bufferSize, ← Int.natCast_mul, show u32 ((count * 120 : Nat) : Int) = count * 120 from
    wrap_u_fits 32 _ (by omega)]
  exact Nat.mul_div_cancel count (by decide)

-- The counters of a started ring are those of the host from 1 to 127 buffers.
theorem start_counted (config : SwBeConfigPar) (report : Option Nat) (reportSize : Nat) :
    RingCounted (allocatedBuffers config.numBuf) (swBeStart config report reportSize) ∧
        (swBeStart config report reportSize).validBufNum = config.numBuf ↔ 1 ≤ config.numBuf ∧ config.numBuf ≤ 127 := by
  simp only [swBeStart]
  constructor
  · rintro ⟨counted, exact_⟩
    have some_ := counted.some_
    have valid := counted.valid
    dsimp only at some_ valid
    have most := i8_lt (u8 config.numBuf : Nat)
    rw [exact_] at most valid
    have stored : u8 config.numBuf = config.numBuf.toNat := by
      rw [← u8_fits config.numBuf.toNat (by omega), Int.toNat_of_nonneg valid.1]
    omega
  · rintro ⟨some_, short⟩
    have stored : u8 config.numBuf = config.numBuf.toNat := by
      rw [← u8_fits config.numBuf.toNat (by omega), Int.toNat_of_nonneg (by omega)]
    have signed : i8 (config.numBuf.toNat : Nat) = config.numBuf.toNat := i8_fits _ (by omega)
    have room := allocated_exact config.numBuf.toNat (by omega)
    rw [Int.toNat_of_nonneg (by omega)] at room
    rw [stored, signed]
    exact ⟨⟨by dsimp only; omega, room.symm, by dsimp only; omega, by dsimp only; omega⟩, by omega⟩

theorem config_represented (dsp : Dsp) (pri : Nat) (config : SwBeConfigPar) (bufs : Option Nat) (possible : malloc dsp.heap bufs ≠ none) :
    ConfigRepresented dsp pri config bufs ↔
      freeSwBeId dsp.swBe = none ∨ bufs = none ∨ 1 ≤ config.numBuf ∧ config.numBuf ≤ 127 := by
  rw [ConfigRepresented]
  cases free : freeSwBeId dsp.swBe with
  | none =>
      refine iff_of_true ⟨dsp, false, ?_, fun _ => rfl, fun accepted => by cases accepted⟩ (.inl rfl)
      rw [psSwTaskOutConfigMessageHandler, free]
  | some id =>
      obtain ⟨heap, given⟩ := Option.ne_none_iff_exists'.mp possible
      cases bufs with
      | none =>
          refine iff_of_true ⟨{ dsp with heap := heap }, false, ?_, fun _ => rfl, fun accepted => by cases accepted⟩ (.inr (.inl rfl))
          simp only [psSwTaskOutConfigMessageHandler, free, given, Option.bind_eq_bind, Option.bind_some, if_true]
      | some address =>
          obtain ⟨next, taken, started⟩ : ∃ next, psSwTaskOutConfigMessageHandler dsp pri config (some address) = some (next, true) ∧
              next.swBe id = swBeStart config (dsp.tasks pri).report.buf (dsp.tasks pri).report.bufSize := by
            simp only [psSwTaskOutConfigMessageHandler, free, given, Option.bind_eq_bind, Option.bind_some, reduceCtorEq, if_false]
            refine ⟨_, rfl, ?_⟩
            exact Function.update_self ..
          rw [← start_counted config (dsp.tasks pri).report.buf (dsp.tasks pri).report.bufSize, ← started]
          constructor
          · rintro ⟨after, accepted, done, -, described⟩
            cases taken.symm.trans done
            obtain ⟨place, same, counted, exact_⟩ := described rfl
            cases same
            exact .inr (.inr ⟨counted, exact_⟩)
          · rintro (none_ | none_ | ⟨counted, exact_⟩)
            · cases none_
            · cases none_
            · exact ⟨next, true, taken, fun refused => (by cases refused), fun _ => ⟨id, rfl, counted, exact_⟩⟩

-- An accepted number of buffers, and what it leaves of the counters.
theorem asgin_accepted (handler : SwBeHandler) (config : SwBeConfigPar) (fits : ¬ AssignRefused handler config)
    (divides : ¬ (0 < config.numBuf ∧ handler.bufNum = 0)) (behind : writesInFront handler config = false) : ∃ next,
      swBeAsginBuf handler config = some (next, true) ∧ next.bufNum = handler.bufNum ∧ next.headId = handler.headId ∧
        next.validBufNum = i8 (handler.validBufNum + config.numBuf) := by
  rw [AssignRefused] at fits
  rw [writesInFront] at behind
  rw [swBeAsginBuf]
  simp only [behind, if_neg fits, if_neg divides, Bool.false_eq_true, if_false]
  exact ⟨_, rfl, rfl, rfl, rfl⟩

theorem assign_represented (allocated : Nat) (handler : SwBeHandler) (config : SwBeConfigPar) :
    AssignRepresented allocated handler config ↔ AssignRefused handler config ∨
      writesInFront handler config = false ∧ 1 ≤ handler.bufNum ∧ handler.bufNum = allocated ∧ handler.headId < handler.bufNum ∧
        0 ≤ handler.validBufNum + config.numBuf ∧ handler.validBufNum + config.numBuf ≤ 127 := by
  by_cases refused : AssignRefused handler config
  · exact iff_of_true ⟨handler, false, asgin_refused handler config refused, fun _ => rfl,
      fun accepted => by cases accepted⟩ (.inl refused)
  · rw [or_iff_right refused]
    constructor
    · rintro ⟨next, accepted, done, -, described⟩
      have behind : writesInFront handler config = false := by
        by_contra front
        rw [Bool.not_eq_false, writesInFront] at front
        rw [AssignRefused] at refused
        rw [swBeAsginBuf] at done
        simp only [if_neg refused, front, if_true, ite_self] at done
        cases done
      have divides : ¬ (0 < config.numBuf ∧ handler.bufNum = 0) := by
        intro trap
        rw [AssignRefused] at refused
        rw [swBeAsginBuf] at done
        simp only [if_neg refused, if_pos trap] at done
        cases done
      obtain ⟨after, taken, number, place, valid⟩ := asgin_accepted handler config refused divides behind
      cases taken.symm.trans done
      obtain ⟨counted, exact_⟩ := described rfl
      have most := i8_lt (handler.validBufNum + config.numBuf)
      have some_ := counted.some_
      have list := counted.list
      have head := counted.head
      have low := counted.valid.1
      rw [number] at some_ list head
      rw [place] at head
      rw [exact_] at low valid
      exact ⟨behind, some_, list, head, low, by omega⟩
    · rintro ⟨behind, some_, list, head, low, high⟩
      obtain ⟨next, done, number, place, valid⟩ := asgin_accepted handler config refused (fun trap => by omega) behind
      have exact_ : i8 (handler.validBufNum + config.numBuf) = handler.validBufNum + config.numBuf := by
        obtain ⟨sum, same⟩ := Int.eq_ofNat_of_zero_le low
        rw [same, i8_fits sum (by omega)]
      rw [AssignRefused, i32_int _ (by rw [intMax]; omega) (by rw [intMax]; omega)] at refused
      refine ⟨next, true, done, fun failed => (by cases failed), fun _ => ⟨⟨?_, ?_, ?_, ?_⟩, valid.trans exact_⟩⟩
      · rw [number]
        exact some_
      · rw [number]
        exact list
      · rw [number, place]
        exact head
      · rw [number, valid, exact_]
        exact ⟨low, by omega⟩

-- The number of buffers that BE_ASSGIN_BUF has room for, or takes back.
def AssignFits (handler : SwBeHandler) (config : SwBeConfigPar) : Prop :=
  0 ≤ handler.validBufNum + config.numBuf ∧ handler.validBufNum + config.numBuf ≤ handler.bufNum

def AssignCovered (ring : SwRing) : SwRingEvent → Prop
  | .asginBuf config => AssignRefused ring.handler config ∨ AssignFits ring.handler config
  | _ => True

theorem counted_assign (allocated : Nat) (handler : SwBeHandler) (counted : RingCounted allocated handler) (short : handler.bufNum ≤ 127)
    (config : SwBeConfigPar) :
    AssignRepresented allocated handler config ↔ AssignRefused handler config ∨ AssignFits handler config := by
  have number := counted.valid
  have head := counted.head
  rw [assign_represented]
  refine or_congr_right' fun fits => ⟨fun good => ⟨good.2.2.2.2.1, ?_⟩, fun good => ?_⟩
  · obtain ⟨-, -, -, -, low, high⟩ := good
    rw [AssignRefused, i32_int _ (by rw [intMax]; omega) (by rw [intMax]; omega)] at fits
    omega
  · obtain ⟨low, high⟩ := good
    have behind : writesInFront handler config = false := by
      rw [writesInFront, List.any_eq_false]
      intro index listed
      have below := List.mem_range.mp listed
      have place : 0 ≤ Int.tmod (i32 (index + (handler.headId + handler.validBufNum))) handler.bufNum := by
        rw [i32_int _ (by rw [intMax]; omega) (by rw [intMax]; omega)]
        exact Int.tmod_nonneg _ (by omega)
      rw [decide_eq_true_eq]
      omega
    exact ⟨behind, counted.some_, counted.list, counted.head, low, by omega⟩

theorem counted_step (allocated : Nat) (ring : SwRing) (counted : RingCounted allocated ring.handler) (short : ring.handler.bufNum ≤ 127)
    (event : SwRingEvent) (covered : AssignCovered ring event) :
    ∃ next, swRingStep ring event = some next ∧ RingCounted allocated next.handler ∧ next.handler.bufNum ≤ 127 := by
  cases event with
  | getEntry => exact ⟨_, rfl, counted, short⟩
  | recoveryUpdate => exact ⟨_, rfl, { counted with }, short⟩
  | entryStart available item =>
      have outcome := entry_start_outcome available ring.handler item
      rw [swRingStep]
      generalize swBeEntryStart available ring.handler item = answer at outcome ⊢
      obtain ⟨handler, filled, started⟩ := answer
      dsimp only at outcome ⊢
      cases outcome with
      | refused status => exact ⟨_, rfl, { counted with }, short⟩
      | started running several =>
          have high := counted.valid.2
          have some_ := counted.some_
          have below := Nat.mod_lt (ring.handler.headId + 1) some_
          have head : u8 ((ring.handler.headId + 1) % ring.handler.bufNum : Nat) < ring.handler.bufNum := by
            rw [u8_fits _ (by omega)]
            exact below
          obtain ⟨left, same⟩ := Int.eq_ofNat_of_zero_le (show 0 ≤ ring.handler.validBufNum - 1 by omega)
          have fewer : i8 (ring.handler.validBufNum - 1) = left := by
            rw [same, i8_fits left (by omega)]
          refine ⟨_, if_pos rfl, ⟨some_, counted.list, head, ?_⟩, short⟩
          dsimp only
          rw [fewer]
          omega
  | asginBuf config =>
      obtain ⟨next, accepted, done, failed, described⟩ := (counted_assign allocated ring.handler counted short config).mpr covered
      rw [swRingStep, done]
      cases accepted with
      | false =>
          cases failed rfl
          exact ⟨_, rfl, counted, short⟩
      | true =>
          obtain ⟨after, -⟩ := described rfl
          have list := after.list
          have same := counted.list
          have small : next.bufNum ≤ 127 := by omega
          exact ⟨_, rfl, after, small⟩

theorem counted_run (allocated : Nat) (events : List SwRingEvent) (ring : SwRing) (counted : RingCounted allocated ring.handler)
    (short : ring.handler.bufNum ≤ 127) (covered : Guarded swRingStep AssignCovered ring events) :
    ∃ finish, run swRingStep ring events = some finish ∧ RingCounted allocated finish.handler ∧ finish.handler.bufNum ≤ 127 := by
  induction events generalizing ring with
  | nil => exact ⟨ring, rfl, counted, short⟩
  | cons event rest ih =>
      obtain ⟨next, taken, kept, small⟩ := counted_step allocated ring counted short event covered.1
      rw [run, taken]
      exact ih next kept small (covered.2 next taken)

-- After a run of a configured ring whose assignments all were covered.
def CoveredRing (config : SwBeConfigPar) (ring : SwRing) : Prop :=
  ∃ report reportSize events, Guarded swRingStep AssignCovered (startSwRing config report reportSize) events ∧
    run swRingStep (startSwRing config report reportSize) events = some ring

-- Which numbers of the host the back end represents or refuses. A ring started
-- with one of them is counted as long as no assignment takes more than there is.
theorem counts_represented (dsp : Dsp) (pri : Nat) (config : SwBeConfigPar) (bufs : Option Nat) (possible : malloc dsp.heap bufs ≠ none) :
    (ConfigRepresented dsp pri config bufs ↔ freeSwBeId dsp.swBe = none ∨ bufs = none ∨ 1 ≤ config.numBuf ∧ config.numBuf ≤ 127) ∧
    (∀ allocated handler assign, AssignRepresented allocated handler assign ↔ AssignRefused handler assign ∨
      writesInFront handler assign = false ∧ 1 ≤ handler.bufNum ∧ handler.bufNum = allocated ∧ handler.headId < handler.bufNum ∧
        0 ≤ handler.validBufNum + assign.numBuf ∧ handler.validBufNum + assign.numBuf ≤ 127) ∧
    (1 ≤ config.numBuf ∧ config.numBuf ≤ 127 → ∀ ring, CoveredRing config ring →
      RingCounted (allocatedBuffers config.numBuf) ring.handler ∧
        ∀ assign, AssignRepresented (allocatedBuffers config.numBuf) ring.handler assign ↔
          AssignRefused ring.handler assign ∨ AssignFits ring.handler assign) := by
  refine ⟨config_represented dsp pri config bufs possible, assign_represented, fun represented ring reached => ?_⟩
  obtain ⟨report, reportSize, events, covered, ran⟩ := reached
  obtain ⟨counted, exact_⟩ := (start_counted config report reportSize).mpr represented
  have list := counted.list
  have short : (swBeStart config report reportSize).bufNum ≤ 127 := by
    have room := allocated_exact config.numBuf.toNat (by omega)
    rw [Int.toNat_of_nonneg (by omega)] at room
    omega
  obtain ⟨finish, done, kept, small⟩ := counted_run _ events _ counted short covered
  cases done.symm.trans ran
  exact ⟨kept, counted_assign _ ring.handler kept small⟩

theorem counts_represented_two : ConfigRepresented (initDsp anyCmd anyReport) 0 twoBuffers (some 0) :=
  (counts_represented (initDsp anyCmd anyReport) 0 twoBuffers (some 0) (by decide)).1.mpr (.inr (.inr ⟨by decide, by decide⟩))

-- No buffer, or more of them than a byte counts, are accepted.
theorem empty_ring_accepted : ¬ ∀ (dsp : Dsp) (pri : Nat) (config : SwBeConfigPar) (bufs : Option Nat),
    malloc dsp.heap bufs ≠ none → ConfigRepresented dsp pri config bufs := by
  intro claim
  have represented := claim (initDsp anyCmd anyReport) 0 { twoBuffers with numBuf := 0 } (some 0) (by decide)
  rcases (config_represented _ _ _ _ (by decide)).mp represented with none_ | none_ | number
  · exact absurd none_ (by decide)
  · cases none_
  · exact absurd number (by decide)

end CsiDsp
