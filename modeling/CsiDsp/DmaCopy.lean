import CsiDsp.Dmaif

set_option autoImplicit false

namespace CsiDsp

open RowCopy Transcript

def waitCall : TmDmaDirection → DmaEvent
  | .dirIn => .waitLoadDone false
  | .dirOut => .waitStoreDone false

-- What goes on while the caller waits, the engine doing all its copies.
def DmaEvent.Waiting : DmaEvent → Prop
  | .check _ | .ret | .complete _ _ => True
  | _ => False

-- A load or store and its wait leave the memory and report the size.
structure MovesLike (dir : TmDmaDirection) (request : DmaRequest) (mem : Memory) (moved : Memory × UInt32) : Prop where
  returns : ∃ events last answers, (∀ event ∈ events, event.Waiting) ∧
    transcript dmaStep (initialDma mem) (.request dir request 0 :: waitCall dir :: events) = some (last, answers) ∧ last.pc = .idle
  agrees : ∀ id events last answers, 0 ≤ id → (∀ event ∈ events, event.Waiting) →
    transcript dmaStep (initialDma mem) (.request dir request id :: waitCall dir :: events) = some (last, answers) →
    last.pc = .idle → last.mem = moved.1 ∧ answers.head? = some (.size moved.2 true)

-- The rows lie in the 32-bit addresses of the processor.
structure RowsFit (addr : UInt64) (pitch rows bytes : UInt32) : Prop where
  narrow : addr.toNat < 4294967296
  start : ∀ row < rows.toNat, addr.toNat + pitch.toNat * row < 4294967296
  stop : ∀ row < rows.toNat, addr.toNat + pitch.toNat * row + bytes.toNat ≤ 4294967296

structure RequestFits (request : DmaRequest) : Prop where
  dst : RowsFit request.pdst64 request.dstPitchBytes request.numRows request.numBytesPerRow
  src : RowsFit request.psrc64 request.srcPitchBytes request.numRows request.numBytesPerRow

theorem align_row_value (bytes : UInt32) (fits : bytes.toNat + 31 < 4294967296) :
    (alignRow bytes).toNat = (bytes.toNat + 31) / 32 * 32 := by
  have sum : (bytes + (dmaAlignment - 1)).toNat = bytes.toNat + 31 := by
    rw [UInt32.toNat_add]
    exact Nat.mod_eq_of_lt fits
  have product : (bytes.toNat + 31) / 32 * 32 < 2 ^ 32 := by omega
  rw [alignRow, UInt32.toNat_mul, UInt32.toNat_div, sum]
  exact Nat.mod_eq_of_lt product

theorem dma_row_value (bytes dstPitch : UInt32) (fits : bytes.toNat + 31 < 4294967296) :
    (dmaRow bytes dstPitch).toNat = min ((bytes.toNat + 31) / 32 * 32) dstPitch.toNat := by
  rw [← align_row_value bytes fits, dmaRow]
  by_cases wider : alignRow bytes > dstPitch
  · have less : dstPitch.toNat < (alignRow bytes).toNat := wider
    rw [if_pos wider]
    omega
  · have notLess : ¬ dstPitch.toNat < (alignRow bytes).toNat := wider
    rw [if_neg wider]
    omega

-- The test of copy looks at the upper half of an address.
theorem upper_half (addr : UInt64) : (addr &&& 0xffffffff00000000).toNat = addr.toNat / 4294967296 * 4294967296 := by
  have bound : addr.toNat < 2 ^ 64 := addr.toNat_lt
  have shifted : addr.toNat / 4294967296 * 4294967296 = addr.toNat >>> 32 <<< 32 := by
    rw [Nat.shiftRight_eq_div_pow, Nat.shiftLeft_eq]
  have mask : (0xffffffff00000000 : UInt64).toNat = (2 ^ 32 - 1) <<< 32 := by decide
  rw [UInt64.toNat_and, shifted, mask]
  refine Nat.eq_of_testBit_eq fun bit => ?_
  rw [Nat.testBit_and, Nat.testBit_shiftLeft, Nat.testBit_shiftLeft, Nat.testBit_shiftRight, Nat.testBit_two_pow_sub_one]
  by_cases low : 32 ≤ bit
  · have back : 32 + (bit - 32) = bit := by omega
    rw [back]
    by_cases inside : bit < 64
    · have small : bit - 32 < 32 := by omega
      simp [low, small]
    · have high : addr.toNat.testBit bit = false :=
        Nat.testBit_lt_two_pow (Nat.lt_of_lt_of_le bound (Nat.pow_le_pow_right (by decide) (by omega)))
      simp [high]
  · simp [low]

theorem narrow_iff (addr : UInt64) : addr &&& 0xffffffff00000000 = 0 ↔ addr.toNat < 4294967296 := by
  rw [← UInt64.toNat_inj, upper_half]
  have zero : (0 : UInt64).toNat = 0 := rfl
  rw [zero]
  omega

theorem copy_refused (mem : Memory) (request : DmaRequest)
    (wide : 4294967296 ≤ request.pdst64.toNat ∨ 4294967296 ≤ request.psrc64.toNat) : copy mem request = (mem, 0) := by
  rw [copy, if_pos]
  rw [ne_eq, UInt64.or_eq_zero_iff, narrow_iff, narrow_iff]
  omega

theorem row_start (addr : UInt64) (pitch rows bytes : UInt32) (fits : RowsFit addr pitch rows bytes) (row : Nat)
    (below : row < rows.toNat) : (addr.toUInt32 + pitch * UInt32.ofNat row).toNat = addr.toNat + pitch.toNat * row := by
  have bound := rows.toNat_lt
  have rowValue : (UInt32.ofNat row).toNat = row := UInt32.toNat_ofNat_of_lt' (Nat.lt_trans below bound)
  rw [UInt32.toNat_add, UInt32.toNat_mul, rowValue, UInt64.toNat_toUInt32, Nat.add_mod_mod, Nat.mod_add_mod]
  exact Nat.mod_eq_of_lt (fits.start row below)

-- The loop of copy does what the engine does.
theorem copy_fits (mem : Memory) (request : DmaRequest) (fits : RequestFits request) :
    copy mem request = (engineMove mem request, request.bytes) := by
  have narrow : ¬ (request.pdst64 &&& 0xffffffff00000000) ||| (request.psrc64 &&& 0xffffffff00000000) ≠ 0 := by
    rw [ne_eq, not_not, UInt64.or_eq_zero_iff, narrow_iff, narrow_iff]
    exact ⟨fits.dst.narrow, fits.src.narrow⟩
  rw [copy, if_neg narrow, engineMove]
  refine Prod.ext (copy_rows_congr mem _ _ _ _ _ _ ?_ ?_) rfl
  · intro row below
    exact row_start _ _ _ _ fits.dst row below
  · intro row below
    exact row_start _ _ _ _ fits.src row below

theorem engine_move_nothing (mem : Memory) (request : DmaRequest) (nothing : ¬ (request.numBytesPerRow ≠ 0 ∧ request.numRows ≠ 0)) :
    engineMove mem request = mem := by
  rw [engineMove]
  by_cases noBytes : request.numBytesPerRow = 0
  · rw [noBytes]
    exact copy_rows_empty mem _ _ _
  · have noRows : request.numRows = 0 := by
      by_contra rows
      exact nothing ⟨noBytes, rows⟩
    rw [noRows]
    rfl

-- One transfer on its way, and the wait for it. The engine is done with it before
-- the wait is, unless there is nothing to copy.
structure MovingAlone (dir : TmDmaDirection) (id : Int) (request : DmaRequest) (mem : Memory) (channel : DmaChannel) (now : Memory)
    (pc : DmaPc) : Prop where
  sound : channel.idmaErrorFlag = false
  moved : channel.queued = [(id, request)] ∧ now = mem ∨ channel.queued = [] ∧ now = engineMove mem request
  recorded : channel.requests = [id] ∨ channel.requests = [] ∧ (channel.queued = [] ∨ engineMove mem request = mem)
  place : pc = .idle ∧ (channel.queued = [] ∨ engineMove mem request = mem) ∨
    ∃ loop, pc = .wait dir false loop true none ∧ (loop = 0 ∨ channel.queued = [])

structure Moving (dir : TmDmaDirection) (id : Int) (request : DmaRequest) (mem : Memory) (state : DmaState) : Prop where
  alone : MovingAlone dir id request mem (state.channel dir) state.mem state.pc
  apart : ∀ other, other ≠ dir → (state.channel other).queued = []

section Moving

variable (dir : TmDmaDirection) (id : Int) (request : DmaRequest) (mem : Memory)

theorem moving_set (state : DmaState) (channel : DmaChannel) (now : Memory) (pc : DmaPc)
    (alone : MovingAlone dir id request mem channel now pc) (apart : ∀ other, other ≠ dir → (state.channel other).queued = []) :
    Moving dir id request mem { state.setChannel dir channel with mem := now, pc := pc } := by
  constructor
  · show MovingAlone dir id request mem ((state.setChannel dir channel).channel dir) now pc
    rw [set_channel_same]
    exact alone
  · intro other unlike
    show ((state.setChannel dir channel).channel other).queued = []
    rw [set_channel_other state dir channel other unlike]
    exact apart other unlike

theorem moving_request (nonneg : 0 ≤ id) : MovingAlone dir id request mem
    ((initialChannel.queue id request).record id request) mem (.wait dir false 0 true none) := by
  rw [DmaChannel.queue, if_pos nonneg, DmaChannel.record]
  split
  case isTrue => exact ⟨rfl, .inl ⟨rfl, rfl⟩, .inl rfl, .inr ⟨0, rfl, .inl rfl⟩⟩
  case isFalse nothing =>
    exact ⟨rfl, .inl ⟨rfl, rfl⟩, .inr ⟨rfl, .inr (engine_move_nothing mem request nothing)⟩, .inr ⟨0, rfl, .inl rfl⟩⟩

-- The request, and the call of its wait.
def requested : DmaState :=
  (initialDma mem).setChannel dir ((initialChannel.queue id request.descriptor).record id request.descriptor)

def waitStarted : DmaState := { requested dir id request mem with pc := .wait dir false 0 true none }

theorem request_wait (nonneg : 0 ≤ id) (rest : List DmaEvent) (last : DmaState) (answers : List DmaAnswer) :
    transcript dmaStep (initialDma mem) (.request dir request id :: waitCall dir :: rest) = some (last, answers) ↔
      ∃ others, transcript dmaStep (waitStarted dir id request mem) rest = some (last, others) ∧
        answers = .size request.descriptor.bytes true :: .silent :: others := by
  have first : dmaStep (initialDma mem) (.request dir request id) =
      some (requested dir id request mem, .size request.descriptor.bytes true) := by
    show some (_, DmaAnswer.size request.descriptor.bytes (decide (0 ≤ id))) = _
    rw [decide_eq_true nonneg]
    rfl
  have second : dmaStep (requested dir id request mem) (waitCall dir) = some (waitStarted dir id request mem, .silent) := by
    cases dir <;> rfl
  rw [transcript_cons]
  constructor
  · rintro ⟨next, output, others, taken, later, rfl⟩
    cases first.symm.trans taken
    obtain ⟨waits, quiet, tail, called, ran, rfl⟩ := (transcript_cons dmaStep _ last _ rest others).mp later
    cases second.symm.trans called
    exact ⟨tail, ran, rfl⟩
  · rintro ⟨others, later, rfl⟩
    exact ⟨_, _, _, first, (transcript_cons dmaStep _ last _ rest _).mpr ⟨_, _, others, second, later, rfl⟩, rfl⟩

theorem moving_start (nonneg : 0 ≤ id) : Moving dir id request.descriptor mem (waitStarted dir id request mem) :=
  moving_set dir id request.descriptor mem (initialDma mem) _ mem _ (moving_request dir id _ mem nonneg) fun _ _ => rfl

theorem moving_check (nonneg : 0 ≤ id) (state next : DmaState) (descDone : Int) (held : Moving dir id request mem state)
    (taken : checkStep state descDone = some next) : Moving dir id request mem next := by
  obtain ⟨other, loop, ret, stores, index, waiting, current, reported, ⟨rfl, passed⟩ | rfl⟩ :=
    check_step_cases state next descDone taken
  · obtain ⟨sound, moved, recorded, ⟨idle, -⟩ | ⟨place, waits, -⟩⟩ := held.alone
    · rw [idle] at waiting
      cases waiting
    · obtain ⟨rfl, -, rfl, rfl, rfl⟩ := DmaPc.wait.inj (waits.symm.trans waiting)
      refine ⟨⟨sound, moved, recorded, .inr ⟨place + 1, rfl, .inr ?_⟩⟩, held.apart⟩
      rcases recorded with one | ⟨none_, -⟩
      · rw [one] at current
        have same : id = index := by
          cases place with
          | zero => exact Option.some.inj current
          | succ place => cases current
        rw [← same, sound, checkForIdmaIndex, if_neg (Int.not_lt.mpr nonneg)] at passed
        have done : descDone ≠ 0 := passed.resolve_right Bool.false_ne_true
        rcases moved with ⟨outstanding, -⟩ | ⟨empty, -⟩
        · have gone := reported (same ▸ nonneg) done
          rw [outstanding, ← same] at gone
          exact absurd List.mem_cons_self gone
        · exact empty
      · rw [none_] at current
        cases current
  · exact held

theorem moving_ret (state next : DmaState) (answer : DmaAnswer) (held : Moving dir id request mem state)
    (taken : retStep state = some (next, answer)) : Moving dir id request mem next := by
  obtain ⟨other, tile, loop, ret, stores, waiting, ended, rfl, rfl⟩ := ret_step_cases state next answer taken
  obtain ⟨sound, moved, recorded, ⟨idle, -⟩ | ⟨place, waits, polled⟩⟩ := held.alone
  · rw [idle] at waiting
    cases waiting
  · obtain ⟨rfl, rfl, rfl, rfl, rfl⟩ := DmaPc.wait.inj (waits.symm.trans waiting)
    have last : place = (state.channel dir).requests.length := ended.resolve_left Bool.false_ne_true
    have through : (state.channel dir).queued = [] ∨ engineMove mem request = mem := by
      rcases recorded with one | ⟨-, nothing⟩
      · rw [one] at last
        exact .inl (polled.resolve_left (by rw [last]; exact Nat.one_ne_zero))
      · exact nothing
    exact moving_set dir id request mem state _ state.mem .idle ⟨sound, moved, .inr ⟨rfl, through⟩, .inl ⟨rfl, through⟩⟩ held.apart

theorem moving_complete (state next : DmaState) (other : TmDmaDirection) (position : Nat) (held : Moving dir id request mem state)
    (taken : completeStep state other position = some next) : Moving dir id request mem next := by
  obtain ⟨done, present, rfl⟩ := complete_step_cases state next other position taken
  have same : other = dir := by
    by_contra apart
    rw [held.apart other apart] at present
    cases present
  rw [same] at present ⊢
  obtain ⟨sound, ⟨outstanding, kept⟩ | ⟨empty, -⟩, recorded, place⟩ := held.alone
  · rw [outstanding] at present ⊢
    have first : position = 0 ∧ done = (id, request) := by
      cases position with
      | zero => exact ⟨rfl, (Option.some.inj present).symm⟩
      | succ position => cases present
    obtain ⟨rfl, rfl⟩ := first
    refine moving_set dir id request mem state _ _ state.pc ⟨sound, .inr ⟨rfl, ?_⟩, ?_, ?_⟩ held.apart
    · rw [kept]
    · exact recorded.imp_right fun ⟨none_, _⟩ => ⟨none_, .inl rfl⟩
    · rcases place with ⟨idle, -⟩ | ⟨loop, waits, -⟩
      · exact .inl ⟨idle, .inl rfl⟩
      · exact .inr ⟨loop, waits, .inr rfl⟩
  · rw [empty] at present
    cases present

theorem moving_step (nonneg : 0 ≤ id) (state next : DmaState) (event : DmaEvent) (answer : DmaAnswer)
    (held : Moving dir id request mem state) (waiting : event.Waiting) (taken : dmaStep state event = some (next, answer)) :
    Moving dir id request mem next := by
  cases event with
  | check descDone =>
      obtain ⟨after, checked, same⟩ := Option.map_eq_some_iff.mp taken
      cases same
      exact moving_check dir id request mem nonneg state _ descDone held checked
  | ret => exact moving_ret dir id request mem state next answer held taken
  | complete other position =>
      obtain ⟨after, completed, same⟩ := Option.map_eq_some_iff.mp taken
      cases same
      exact moving_complete dir id request mem state _ other position held completed
  | request | requestTile | waitLoadDone | waitStoreDone | waitDone | error => cases waiting

theorem moving_run (nonneg : 0 ≤ id) (events : List DmaEvent) (state last : DmaState) (answers : List DmaAnswer)
    (held : Moving dir id request mem state) (waiting : ∀ event ∈ events, event.Waiting)
    (ran : transcript dmaStep state events = some (last, answers)) : Moving dir id request mem last := by
  induction events generalizing state answers with
  | nil =>
      cases ran
      exact held
  | cons event rest ih =>
      obtain ⟨next, answer, others, taken, later, rfl⟩ := (transcript_cons dmaStep state last event rest answers).mp ran
      have kept := moving_step dir id request mem nonneg state next event answer held (waiting event List.mem_cons_self) taken
      exact ih next others kept (fun other member => waiting other (List.mem_cons_of_mem event member)) later

theorem moving_done (state : DmaState) (held : Moving dir id request mem state) (idle : state.pc = .idle) :
    state.mem = engineMove mem request := by
  obtain ⟨-, ⟨outstanding, kept⟩ | ⟨-, done⟩, -, place⟩ := held.alone
  · rcases place with ⟨-, empty | nothing⟩ | ⟨loop, waits, -⟩
    · rw [outstanding] at empty
      cases empty
    · rw [kept, nothing]
    · rw [idle] at waits
      cases waits
  · exact done

-- The engine is done at the first look, and so is the wait.
theorem moving_returns : ∃ events, (∀ event ∈ events, event.Waiting) ∧ ∃ last answers,
    transcript dmaStep (waitStarted dir 0 request mem) events = some (last, answers) ∧ last.pc = .idle := by
  have queued : initialChannel.queue 0 request.descriptor = ⟨[], [(0, request.descriptor)], false⟩ := rfl
  rw [waitStarted, requested, queued, DmaChannel.record]
  by_cases sized : request.descriptor.numBytesPerRow ≠ 0 ∧ request.descriptor.numRows ≠ 0
  · rw [if_pos sized]
    refine ⟨[.complete dir 0, .check 1, .ret], by simp [DmaEvent.Waiting], ?_⟩
    cases dir <;> exact ⟨_, _, rfl, rfl⟩
  · rw [if_neg sized]
    refine ⟨[.complete dir 0, .ret], by simp [DmaEvent.Waiting], ?_⟩
    cases dir <;> exact ⟨_, _, rfl, rfl⟩

theorem moves_like_engine : MovesLike dir request mem (engineMove mem request.descriptor, request.descriptor.bytes) := by
  constructor
  · obtain ⟨events, waiting, last, answers, ran, idle⟩ := moving_returns dir request mem
    exact ⟨events, last, _, waiting, (request_wait dir 0 request mem (Int.le_refl 0) events last _).mpr ⟨answers, ran, rfl⟩, idle⟩
  · intro id events last answers nonneg waiting ran idle
    obtain ⟨others, later, rfl⟩ := (request_wait dir id request mem nonneg events last answers).mp ran
    have held := moving_run dir id request.descriptor mem nonneg events _ last others (moving_start dir id request mem nonneg) waiting later
    exact ⟨moving_done dir id request.descriptor mem last held idle, rfl⟩

end Moving

-- Load and store are the copy of the rounded rows, and copy refuses what lies beyond
-- 32 bits.
theorem dma_moves_like_copy (dir : TmDmaDirection) (request : DmaRequest) (mem : Memory)
    (rounds : request.numBytesPerRow.toNat + 31 < 4294967296) (fits : RequestFits request.descriptor) :
    request.descriptor.numBytesPerRow.toNat = min ((request.numBytesPerRow.toNat + 31) / 32 * 32) request.dstPitchBytes.toNat ∧
      MovesLike dir request mem (copy mem request.descriptor) ∧
      (∀ addr, (∀ row < request.numRows.toNat, addr < request.pdst64.toNat + request.dstPitchBytes.toNat * row ∨
          request.pdst64.toNat + request.dstPitchBytes.toNat * row + request.descriptor.numBytesPerRow.toNat ≤ addr) →
        (copy mem request.descriptor).1 addr = mem addr) ∧
      ∀ other : DmaRequest, 4294967296 ≤ other.pdst64.toNat ∨ 4294967296 ≤ other.psrc64.toNat → copy mem other = (mem, 0) := by
  refine ⟨dma_row_value _ _ rounds, ?_, ?_, fun other wide => copy_refused mem other wide⟩
  · rw [copy_fits mem request.descriptor fits]
    exact moves_like_engine dir request mem
  · intro addr outside
    rw [copy_fits mem request.descriptor fits]
    exact copy_rows_outside mem _ _ _ _ addr outside

-- 20 bytes for each row of 64.
def twentyBytes : DmaRequest := ⟨0, 256, 64, 64, 1, 20⟩

theorem dma_moves_like_copy_rounded : (∃ mem, MovesLike .dirIn twentyBytes mem (copy mem (twentyBytes.withRow 32))) := by
  have fits : RequestFits twentyBytes.descriptor := by
    refine ⟨⟨by decide, ?_, ?_⟩, ⟨by decide, ?_, ?_⟩⟩ <;> decide
  exact ⟨fun _ => 0, (dma_moves_like_copy .dirIn twentyBytes (fun _ => 0) (by decide) fits).2.1⟩

-- The twelve bytes behind them are copied too.
theorem rounded_row_differs : ¬ ∀ (dir : TmDmaDirection) (request : DmaRequest) (mem : Memory),
    request.numBytesPerRow ≤ request.srcPitchBytes → request.numBytesPerRow ≤ request.dstPitchBytes →
    MovesLike dir request mem (copy mem request) := by
  intro claim
  have agrees := (claim .dirIn twentyBytes (fun addr => if addr = 280 then 1 else 0) (by decide) (by decide)).agrees
  have same := (agrees 0 [.complete .dirIn 0, .check 1, .ret] _ _ (Int.le_refl 0) (by simp [DmaEvent.Waiting]) rfl rfl).1
  exact absurd (congrFun same 24) (by decide)

end CsiDsp
