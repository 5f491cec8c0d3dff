import CsiDsp.Dmaif

set_option autoImplicit false

namespace CsiDsp

open RowCopy Runs Transcript

-- A size is reported only of what was queued, and a wait without a tile succeeds
-- only once nothing of its direction is outstanding.
def Honest (next : DmaState) : DmaAnswer → Prop
  | .silent => True
  | .size bytes queued => bytes ≠ 0 → queued = true
  | .waited dir false true _ => (next.channel dir).queued = []
  | .waited _ _ _ _ => True

structure DmaHonest (next : DmaState) (answer : DmaAnswer) : Prop where
  tracked : ∀ dir, (next.channel dir).requests.length ≤ dmaDescrCnt
  honest : Honest next answer

-- Nothing is queued in vain, what has a size is queued and what has none is not. A
-- wait for a tile ends with the other transfers of its direction done, or failed.
def DmaInTime (state : DmaState) : DmaEvent → Prop
  | .request dir request id => (state.channel dir).requests.length < dmaDescrCnt →
      (request.descriptor.bytes ≠ 0 → 0 ≤ id) ∧
        (0 ≤ id → request.descriptor.numBytesPerRow ≠ 0 ∧ request.descriptor.numRows ≠ 0)
  | .requestTile _ ids => ids ≠ [] ∧ ∀ id ∈ ids, 0 ≤ id
  | .ret =>
      match state.pc with
      | .wait dir true _ _ _ => (state.channel dir).idmaErrorFlag = true ∨ (state.channel dir).queued = []
      | _ => True
  | _ => True

instance (state : DmaState) (event : DmaEvent) : Decidable (DmaInTime state event) :=
  match event with
  | .request _ _ _ => inferInstanceAs (Decidable (_ → _))
  | .requestTile _ _ => inferInstanceAs (Decidable (_ ∧ _))
  | .ret =>
      match waiting : state.pc with
      | .wait dir true _ _ _ =>
          decidable_of_iff ((state.channel dir).idmaErrorFlag = true ∨ (state.channel dir).queued = []) (by simp [DmaInTime, waiting])
      | .wait _ false _ _ _ => .isTrue (by simp [DmaInTime, waiting])
      | .idle => .isTrue (by simp [DmaInTime, waiting])
  | .waitLoadDone _ | .waitStoreDone _ | .waitDone _ _ | .check _ | .complete _ _ | .error _ => .isTrue trivial

-- As long as the channel has not failed, what the engine has yet to do is recorded.
structure ChannelTracked (channel : DmaChannel) : Prop where
  bounded : channel.requests.length ≤ dmaDescrCnt
  added : ∀ entry ∈ channel.queued, 0 ≤ entry.1
  recorded : channel.idmaErrorFlag = false → ∀ entry ∈ channel.queued, entry.1 ∈ channel.requests

-- The requests that a wait has passed are done.
def Polled (channel : DmaChannel) (loop : Nat) : Prop :=
  channel.idmaErrorFlag = false → ∀ entry ∈ channel.queued, entry.1 ∈ channel.requests.drop loop

structure DmaTracked (state : DmaState) : Prop where
  channels : ∀ dir, ChannelTracked (state.channel dir)
  polled : ∀ dir loop ret stores, state.pc = .wait dir false loop ret stores → Polled (state.channel dir) loop

theorem dma_tracked_initial (mem : Memory) : DmaTracked (initialDma mem) := by
  refine ⟨fun dir => ⟨Nat.zero_le _, ?_, ?_⟩, ?_⟩
  · intro entry member
    cases member
  · intro _ entry member
    cases member
  · intro dir loop ret stores waiting
    cases waiting

theorem channel_tracked_polled (channel : DmaChannel) (held : ChannelTracked channel) : Polled channel 0 :=
  fun sound entry member => held.recorded sound entry member

section Step

variable (state : DmaState) (dir : TmDmaDirection)

theorem set_channel_tracked (channel : DmaChannel) (held : DmaTracked state) (changed : ChannelTracked channel)
    (polled : ∀ loop ret stores, state.pc = .wait dir false loop ret stores → Polled channel loop) :
    DmaTracked (state.setChannel dir channel) := by
  constructor
  · intro other
    by_cases same : other = dir
    · rw [same, set_channel_same]
      exact changed
    · rw [set_channel_other state dir _ other same]
      exact held.channels other
  · intro other loop ret stores waiting
    by_cases same : other = dir
    · rw [same, set_channel_same]
      exact polled loop ret stores (same ▸ waiting)
    · rw [set_channel_other state dir _ other same]
      exact held.polled other loop ret stores waiting

theorem queue_record_tracked (channel : DmaChannel) (id : Int) (request : DmaRequest) (held : ChannelTracked channel)
    (room : channel.requests.length < dmaDescrCnt) (sized : 0 ≤ id → request.numBytesPerRow ≠ 0 ∧ request.numRows ≠ 0) :
    ChannelTracked ((channel.queue id request).record id request) := by
  by_cases queued : 0 ≤ id
  · rw [DmaChannel.queue, if_pos queued, DmaChannel.record, if_pos (sized queued)]
    refine ⟨?_, ?_, ?_⟩
    · rw [List.length_append]
      exact room
    · intro entry member
      rcases List.mem_append.mp member with old | new
      · exact held.added entry old
      · rw [List.mem_singleton.mp new]
        exact queued
    · intro sound entry member
      rcases List.mem_append.mp member with old | new
      · exact List.mem_append_left _ (held.recorded sound entry old)
      · rw [List.mem_singleton.mp new]
        exact List.mem_append_right _ List.mem_cons_self
  · rw [DmaChannel.queue, if_neg queued, DmaChannel.record]
    split
    · refine ⟨?_, held.added, fun sound entry member => List.mem_append_left _ (held.recorded sound entry member)⟩
      rw [List.length_append]
      exact room
    · exact held

theorem request_step_tracked (request : DmaRequest) (id : Int) (held : DmaTracked state) (idle : state.pc = .idle)
    (inTime : DmaInTime state (.request dir request id)) :
    DmaTracked (requestStep state dir request id).1 ∧ Honest (requestStep state dir request id).1 (requestStep state dir request id).2 := by
  by_cases full : dmaDescrCnt ≤ (state.channel dir).requests.length
  · rw [requestStep, if_pos full]
    exact ⟨held, fun nonzero => absurd rfl nonzero⟩
  · rw [requestStep, if_neg full]
    obtain ⟨queued, sized⟩ := inTime (Nat.lt_of_not_le full)
    constructor
    · refine set_channel_tracked state dir _ held ?_ ?_
      · exact queue_record_tracked _ id _ (held.channels dir) (Nat.lt_of_not_le full) sized
      · intro loop ret stores waiting
        rw [idle] at waiting
        cases waiting
    · intro nonzero
      exact decide_eq_true (queued nonzero)

theorem wait_start_tracked (tile : Bool) (stores : Option Bool) (ret : Bool) (held : ∀ dir, ChannelTracked (state.channel dir)) :
    DmaTracked { state with pc := .wait dir tile 0 ret stores } := by
  refine ⟨held, ?_⟩
  rintro other loop result rest waiting
  cases waiting
  exact channel_tracked_polled _ (held _)

theorem check_passed (channel : DmaChannel) (loop : Nat) (index descDone : Int) (held : ChannelTracked channel)
    (polled : Polled channel loop) (current : channel.requests[loop]? = some index) (reported : DoneReported channel index descDone)
    (passed : checkForIdmaIndex index descDone ≠ 0 ∨ channel.idmaErrorFlag = true) : Polled channel (loop + 1) := by
  intro sound entry member
  obtain ⟨inside, here⟩ := List.getElem?_eq_some_iff.mp current
  have remaining := polled sound entry member
  rw [List.drop_eq_getElem_cons inside, here] at remaining
  rcases List.mem_cons.mp remaining with same | later
  · have nonneg : 0 ≤ index := same ▸ held.added entry member
    have done : descDone ≠ 0 := by
      rcases passed with answered | failed
      · rwa [checkForIdmaIndex, if_neg (Int.not_lt.mpr nonneg)] at answered
      · rw [sound] at failed
        cases failed
    exact absurd (List.mem_map.mpr ⟨entry, member, same⟩) (reported nonneg done)
  · exact later

theorem check_step_tracked (descDone : Int) (next : DmaState) (held : DmaTracked state)
    (taken : checkStep state descDone = some next) : DmaTracked next := by
  obtain ⟨dir, loop, ret, stores, index, waiting, current, reported, ⟨rfl, passed⟩ | rfl⟩ :=
    check_step_cases state next descDone taken
  · refine ⟨held.channels, ?_⟩
    rintro other loop' ret' stores' again
    cases again
    exact check_passed _ loop index descDone (held.channels dir) (held.polled dir loop ret stores waiting) current reported passed
  · exact held

theorem wait_over (tile : Bool) (loop : Nat) (ret : Bool) (stores : Option Bool) (held : DmaTracked state)
    (waiting : state.pc = .wait dir tile loop ret stores) (ended : tile = true ∨ loop = (state.channel dir).requests.length)
    (inTime : DmaInTime state .ret) (sound : (state.channel dir).idmaErrorFlag = false) : (state.channel dir).queued = [] := by
  cases tile with
  | true =>
      rw [DmaInTime, waiting] at inTime
      rcases inTime with failed | empty
      · rw [sound] at failed
        cases failed
      · exact empty
  | false =>
      have last := ended.resolve_left Bool.false_ne_true
      refine List.eq_nil_iff_forall_not_mem.mpr fun entry member => ?_
      have remaining := held.polled dir loop ret stores waiting sound entry member
      rw [last, List.drop_length] at remaining
      cases remaining

theorem reset_tracked (channel : DmaChannel) (held : ChannelTracked channel) (done : channel.idmaErrorFlag = false → channel.queued = []) :
    ChannelTracked { channel with requests := [] } := by
  refine ⟨Nat.zero_le _, held.added, fun sound entry member => ?_⟩
  have member : entry ∈ channel.queued := member
  rw [done sound] at member
  cases member

theorem ret_step_tracked (next : DmaState) (answer : DmaAnswer) (held : DmaTracked state) (inTime : DmaInTime state .ret)
    (taken : retStep state = some (next, answer)) : DmaTracked next ∧ Honest next answer := by
  obtain ⟨dir, tile, loop, ret, stores, waiting, ended, rfl, rfl⟩ := ret_step_cases state next answer taken
  have done := wait_over state dir tile loop ret stores held waiting ended inTime
  have channels (other : TmDmaDirection) : ChannelTracked ((state.reset dir).channel other) := by
    by_cases same : other = dir
    · rw [same, DmaState.reset, set_channel_same]
      exact reset_tracked _ (held.channels dir) done
    · rw [DmaState.reset, set_channel_other state dir _ other same]
      exact held.channels other
  constructor
  · cases stores with
    | some tileOut => exact wait_start_tracked _ .dirOut tileOut none _ channels
    | none => exact ⟨channels, fun _ _ _ _ waiting => by cases waiting⟩
  · cases tile with
    | true => trivial
    | false =>
        cases failed : (state.channel dir).idmaErrorFlag with
        | true =>
            rw [waitResult, failed]
            trivial
        | false =>
            rw [waitResult, failed]
            show ((state.reset dir).channel dir).queued = []
            rw [DmaState.reset, set_channel_same]
            exact done failed

theorem complete_step_tracked (position : Nat) (next : DmaState) (held : DmaTracked state)
    (taken : completeStep state dir position = some next) : DmaTracked next := by
  obtain ⟨done, -, rfl⟩ := complete_step_cases state next dir position taken
  have fewer (entry : Int × DmaRequest) (member : entry ∈ (state.channel dir).queued.eraseIdx position) :
      entry ∈ (state.channel dir).queued := List.mem_of_mem_eraseIdx member
  have channel := held.channels dir
  have kept := set_channel_tracked state dir { state.channel dir with queued := (state.channel dir).queued.eraseIdx position } held
    ⟨channel.bounded, fun entry member => channel.added entry (fewer entry member),
      fun sound entry member => channel.recorded sound entry (fewer entry member)⟩
    fun loop ret stores waiting sound entry member => held.polled dir loop ret stores waiting sound entry (fewer entry member)
  exact ⟨kept.channels, kept.polled⟩

theorem error_step_tracked (held : DmaTracked state) : DmaTracked (errorStep state dir) := by
  refine set_channel_tracked state dir _ held ⟨(held.channels dir).bounded, (held.channels dir).added, ?_⟩ ?_
  · intro sound
    cases sound
  · intro loop ret stores waiting sound
    cases sound

end Step

theorem dma_step_tracked (state next : DmaState) (event : DmaEvent) (answer : DmaAnswer) (held : DmaTracked state)
    (inTime : DmaInTime state event) (taken : dmaStep state event = some (next, answer)) :
    DmaTracked next ∧ Honest next answer := by
  cases event with
  | request dir request id =>
      obtain ⟨idle, requested⟩ := Option.ite_none_right_eq_some.mp taken
      have kept := request_step_tracked state dir request id held idle inTime
      rw [Option.some.inj requested] at kept
      exact kept
  | requestTile dir ids =>
      obtain ⟨idle, requested⟩ := Option.ite_none_right_eq_some.mp taken
      cases requested
      exact ⟨held, fun _ => decide_eq_true inTime⟩
  | waitLoadDone tile =>
      obtain ⟨idle, started⟩ := Option.ite_none_right_eq_some.mp taken
      cases started
      exact ⟨wait_start_tracked state .dirIn tile none true held.channels, trivial⟩
  | waitStoreDone tile =>
      obtain ⟨idle, started⟩ := Option.ite_none_right_eq_some.mp taken
      cases started
      exact ⟨wait_start_tracked state .dirOut tile none true held.channels, trivial⟩
  | waitDone tileIn tileOut =>
      obtain ⟨idle, started⟩ := Option.ite_none_right_eq_some.mp taken
      cases started
      exact ⟨wait_start_tracked state .dirIn tileIn (some tileOut) true held.channels, trivial⟩
  | check descDone =>
      obtain ⟨after, checked, same⟩ := Option.map_eq_some_iff.mp taken
      cases same
      exact ⟨check_step_tracked state descDone _ held checked, trivial⟩
  | ret => exact ret_step_tracked state next answer held inTime taken
  | complete dir position =>
      obtain ⟨after, completed, same⟩ := Option.map_eq_some_iff.mp taken
      cases same
      exact ⟨complete_step_tracked state dir position _ held completed, trivial⟩
  | error dir =>
      cases taken
      exact ⟨error_step_tracked state dir held, trivial⟩

-- Whatever the order of the calls, of the engine and of its errors.
theorem dma_wait_honest (mem : Memory) (events : List DmaEvent) (event : DmaEvent) (state next : DmaState) (answer : DmaAnswer)
    (inTime : Guarded (silent dmaStep) DmaInTime (initialDma mem) (events ++ [event]))
    (ran : run (silent dmaStep) (initialDma mem) events = some state) (taken : dmaStep state event = some (next, answer)) :
    DmaHonest next answer := by
  obtain ⟨earlier, last⟩ := (guarded_append (silent dmaStep) DmaInTime (initialDma mem) events [event]).mp inTime
  have held : DmaTracked state := by
    refine guarded_run_invariant (silent dmaStep) DmaInTime DmaTracked ?_ _ _ events (dma_tracked_initial mem) earlier ran
    intro before each after held inTime stepped
    obtain ⟨result, taken, rfl⟩ := Option.map_eq_some_iff.mp stepped
    exact (dma_step_tracked before result.1 each result.2 held inTime taken).1
  obtain ⟨kept, honest⟩ := dma_step_tracked state next event answer held (last state ran).1 taken
  exact ⟨fun dir => (kept.channels dir).bounded, honest⟩

def oneRow : DmaRequest := ⟨0x3ffc0000, 0x40000000, 64, 64, 1, 64⟩

-- A load that the engine does after the first look at it.
def loadAndWait : List DmaEvent := [.request .dirIn oneRow 0, .waitLoadDone false, .check 0, .complete .dirIn 0, .check 1]

theorem dma_wait_honest_load : ∃ state next, run (silent dmaStep) (initialDma fun _ => 0) loadAndWait = some state ∧
    dmaStep state .ret = some (next, .waited .dirIn false true (some true)) ∧
    DmaHonest next (.waited .dirIn false true (some true)) := by
  refine ⟨_, _, rfl, rfl, ?_⟩
  exact dma_wait_honest (fun _ => 0) loadAndWait .ret _ _ _ (by decide) rfl rfl

-- The wait for a tile forgets the load before it.
theorem load_forgotten : ¬ ∀ (mem : Memory) (events : List DmaEvent) (event : DmaEvent) (state next : DmaState) (answer : DmaAnswer),
    run (silent dmaStep) (initialDma mem) events = some state → dmaStep state event = some (next, answer) → DmaHonest next answer := by
  intro claim
  have honest := claim (fun _ => 0) [.request .dirIn oneRow 0, .waitLoadDone true, .ret, .waitLoadDone false] .ret _ _ _ rfl rfl
  exact List.cons_ne_nil _ _ honest.honest

end CsiDsp
