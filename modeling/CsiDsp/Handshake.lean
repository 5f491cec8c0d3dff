import CsiDsp.XrpSync
import Mathlib.Data.List.Induction

set_option autoImplicit false

-- ps_wait_host_sync with the host writing the word, the area and the interrupt
-- between any two of its loads and stores, but for the walk of the area by
-- process_sync_data, which is one step.
namespace CsiDsp.Sync

open Runs

def syncIdle : Word := 0

-- The next load or store of ps_wait_host_sync. The load that polls is the one of
-- xrp_device_sync, those behind it are do_handshake's.
inductive Pc where
  | poll
  | waitStart
  | sayReady
  | waitAnswer
  | process
  | sayDone
  | waitIrq
  | returned (result : Int)
deriving DecidableEq, Repr

-- Handed are the areas the host said were complete, and walked those that
-- process_sync_data saw.
structure Handshake where
  word : Word
  area : List Word
  irq : Bool
  pc : Pc
  hw : HwSync
  handed : List (List Word)
  walked : List (List Word)
deriving DecidableEq, Repr

inductive SyncEvent where
  | device
  | hostWord (word : Word)
  | hostArea (area : List Word)
  | hostIrq
deriving DecidableEq, Repr

def beforeSync (hw : HwSync) (area : List Word) : Handshake :=
  { word := syncIdle, area := area, irq := false, pc := .poll, hw := hw, handed := [], walked := [] }

section Steps

variable (updateHwQueues : List Word → Bool)

def deviceStep (state : Handshake) : Option Handshake :=
  match state.pc with
  | .poll =>
      if xrpRequestValid state.word = false then some state
      else if state.word = syncStart then some { state with pc := .waitStart }
      else some { state with pc := .returned (-1) }
  | .waitStart => if state.word = syncStart then some { state with pc := .sayReady } else some state
  | .sayReady => some { state with word := syncDspReadyV2, pc := .waitAnswer }
  | .waitAnswer =>
      if state.word = syncHostToDsp then some { state with pc := .process }
      else if state.word = syncDspReadyV2 then some state
      -- do_handshake gives up, and xrp_device_sync reports success.
      else some { state with pc := .returned 0 }
  -- What a host writes to the area during the walk is seen after it.
  | .process => (processSyncData updateHwQueues state.hw state.area).map fun done =>
      { state with area := done.1, hw := done.2, walked := state.walked ++ [state.area], pc := .sayDone }
  | .sayDone => some { state with word := syncDspToHost, pc := .waitIrq }
  | .waitIrq =>
      if state.hw.deviceIrqMode = .none then some { state with pc := .returned 0 }
      else if state.irq then some { state with irq := false, pc := .returned 0 }
      else some state
  | .returned _ => none

def syncStep (state : Handshake) : SyncEvent → Option Handshake
  | .device => deviceStep updateHwQueues state
  | .hostWord word =>
      some { state with word := word, handed := if word = syncHostToDsp then state.handed ++ [state.area] else state.handed }
  | .hostArea area => some { state with area := area }
  | .hostIrq => some { state with irq := true }

-- The area of a host that follows the layout: whole entries and one that ends the walk.
structure Written (area marked : List Word) (before after : HwSync) (entries : List SyncEntry) (type length : Word)
    (rest : List Word) : Prop where
  whole : ∀ entry ∈ entries, entry.Whole
  stops : length.toNat ≥ maxTlvLength ∨ type &&& syncTypeMask = syncTypeLast
  area : area = encodeEntries entries ++ type :: length :: rest
  marked : marked = encodeEntries (entries.map (SyncEntry.answer updateHwQueues)) ++ type :: length :: rest
  after : after = entries.foldl setEntry before

def Taken (before : HwSync) (area marked : List Word) (after : HwSync) : Prop :=
  ∃ entries type length rest, Written updateHwQueues area marked before after entries type length rest

def Complete (area : List Word) : Prop :=
  ∃ entries type length rest, (∀ entry ∈ entries, SyncEntry.Whole entry) ∧
    (BitVec.toNat length ≥ maxTlvLength ∨ type &&& syncTypeMask = syncTypeLast) ∧
    area = encodeEntries entries ++ type :: length :: rest

theorem walk_complete (hw : HwSync) (area : List Word) (complete : Complete area) :
    ∃ marked after, processSyncData updateHwQueues hw area = some (marked, after) ∧ Taken updateHwQueues hw area marked after := by
  obtain ⟨entries, type, length, rest, whole, stops, rfl⟩ := complete
  exact ⟨_, _, walk_entries updateHwQueues hw entries whole type length rest stops, entries, type, length, rest,
    whole, stops, rfl, rfl, rfl⟩

-- A host that starts once, answers DSP_READY with a complete area, and leaves
-- that area alone until it has taken the accept bits.
def HostKeeps (state : Handshake) : SyncEvent → Prop
  | .device | .hostIrq => True
  | .hostArea _ => state.word ≠ syncHostToDsp ∧ state.word ≠ syncDspToHost
  | .hostWord word =>
      (state.word = syncIdle ∧ word = syncStart ∧ state.handed = []) ∨
      (state.word = syncDspReadyV2 ∧ word = syncHostToDsp ∧ Complete state.area) ∨
      (state.word = syncDspToHost ∧ word = syncIdle)

-- What the accept bits and the settings come from once the area was walked.
def Accepted (before : HwSync) (state : Handshake) : Prop :=
  ∃ area marked, state.handed = [area] ∧ state.walked = [area] ∧ Taken updateHwQueues before area marked state.hw ∧
    (state.word = syncHostToDsp ∨ state.word = syncDspToHost → state.area = marked)

def Phase (before : HwSync) (state : Handshake) : Prop :=
  match state.pc with
  | .poll => (state.word = syncIdle ∨ state.word = syncStart) ∧ state.handed = [] ∧ state.walked = [] ∧ state.hw = before
  | .waitStart | .sayReady => state.word = syncStart ∧ state.handed = [] ∧ state.walked = [] ∧ state.hw = before
  | .waitAnswer =>
      ((state.word = syncDspReadyV2 ∧ state.handed = []) ∨
        (state.word = syncHostToDsp ∧ state.handed = [state.area] ∧ Complete state.area)) ∧
      state.walked = [] ∧ state.hw = before
  | .process => state.word = syncHostToDsp ∧ state.handed = [state.area] ∧ Complete state.area ∧ state.walked = [] ∧ state.hw = before
  | .sayDone => state.word = syncHostToDsp ∧ Accepted updateHwQueues before state
  | .waitIrq => (state.word = syncDspToHost ∨ state.word = syncIdle) ∧ Accepted updateHwQueues before state
  | .returned result => result = 0 ∧ (state.word = syncDspToHost ∨ state.word = syncIdle) ∧ Accepted updateHwQueues before state

section Loads

variable (state : Handshake)

theorem poll_idle (here : state.pc = .poll) (idle : state.word = syncIdle) : deviceStep updateHwQueues state = some state := by
  have waits : xrpRequestValid syncIdle = false := by decide
  simp only [deviceStep, here, idle, waits, if_true]

theorem poll_start (here : state.pc = .poll) (start : state.word = syncStart) :
    deviceStep updateHwQueues state = some { state with pc := .waitStart } := by
  have valid : ¬ xrpRequestValid syncStart = false := by decide
  simp only [deviceStep, here, start, if_neg valid, if_true]

theorem wait_start (here : state.pc = .waitStart) (start : state.word = syncStart) :
    deviceStep updateHwQueues state = some { state with pc := .sayReady } := by
  simp only [deviceStep, here, start, if_true]

theorem say_ready (here : state.pc = .sayReady) :
    deviceStep updateHwQueues state = some { state with word := syncDspReadyV2, pc := .waitAnswer } := by
  simp only [deviceStep, here]

theorem wait_ready (here : state.pc = .waitAnswer) (ready : state.word = syncDspReadyV2) :
    deviceStep updateHwQueues state = some state := by
  have apart : syncDspReadyV2 ≠ syncHostToDsp := by decide
  simp only [deviceStep, here, ready, if_neg apart, if_true]

theorem wait_answer (here : state.pc = .waitAnswer) (answered : state.word = syncHostToDsp) :
    deviceStep updateHwQueues state = some { state with pc := .process } := by
  simp only [deviceStep, here, answered, if_true]

theorem process_area (here : state.pc = .process) (complete : Complete state.area) : ∃ marked after,
    deviceStep updateHwQueues state =
      some { state with area := marked, hw := after, walked := state.walked ++ [state.area], pc := .sayDone } ∧
    Taken updateHwQueues state.hw state.area marked after := by
  obtain ⟨marked, after, walk, written⟩ := walk_complete updateHwQueues state.hw state.area complete
  refine ⟨marked, after, ?_, written⟩
  simp only [deviceStep, here, walk, Option.map_some]

theorem say_done (here : state.pc = .sayDone) :
    deviceStep updateHwQueues state = some { state with word := syncDspToHost, pc := .waitIrq } := by
  simp only [deviceStep, here]

end Loads

-- What one load or store of the firmware keeps.
theorem device_step_phase (before : HwSync) (state next : Handshake) (phase : Phase updateHwQueues before state)
    (taken : deviceStep updateHwQueues state = some next) : Phase updateHwQueues before next := by
  obtain ⟨word, area, irq, pc, hw, handed, walked⟩ := state
  cases pc with
  | poll =>
      obtain ⟨idle | start, none, fresh, same⟩ := phase
      · rw [poll_idle updateHwQueues _ rfl idle] at taken
        cases taken
        exact ⟨.inl idle, none, fresh, same⟩
      · rw [poll_start updateHwQueues _ rfl start] at taken
        cases taken
        exact ⟨start, none, fresh, same⟩
  | waitStart =>
      rw [wait_start updateHwQueues _ rfl phase.1] at taken
      cases taken
      exact phase
  | sayReady =>
      cases taken
      exact ⟨.inl ⟨rfl, phase.2.1⟩, phase.2.2⟩
  | waitAnswer =>
      obtain ⟨⟨ready, none⟩ | ⟨answered, handed, complete⟩, fresh, same⟩ := phase
      · rw [wait_ready updateHwQueues _ rfl ready] at taken
        cases taken
        exact ⟨.inl ⟨ready, none⟩, fresh, same⟩
      · rw [wait_answer updateHwQueues _ rfl answered] at taken
        cases taken
        exact ⟨answered, handed, complete, fresh, same⟩
  | process =>
      obtain ⟨answered, once, complete, fresh, same⟩ := phase
      obtain ⟨marked, after, stepped, written⟩ := process_area updateHwQueues _ rfl complete
      rw [stepped] at taken
      cases taken
      exact ⟨answered, area, marked, once, congrArg (· ++ [area]) fresh, same ▸ written, fun _ => rfl⟩
  | sayDone =>
      obtain ⟨answered, from_, marked, handed, walked, written, same⟩ := phase
      cases taken
      exact ⟨.inl rfl, from_, marked, handed, walked, written, fun _ => same (.inl answered)⟩
  | waitIrq =>
      simp only [deviceStep] at taken
      split at taken
      · cases taken
        exact ⟨rfl, phase⟩
      · split at taken
        · cases taken
          exact ⟨rfl, phase⟩
        · cases taken
          exact phase
  | returned result => cases taken

section Words

variable (before : HwSync) (state : Handshake) (phase : Phase updateHwQueues before state)

include phase

theorem phase_idle (idle : state.word = syncIdle) (none : state.handed = []) : state.pc = .poll := by
  cases here : state.pc with
  | poll => rfl
  | waitIrq | returned result =>
      simp only [Phase, here] at phase
      grind [Accepted]
  | waitStart | sayReady | waitAnswer | process | sayDone =>
      simp [Phase, here, idle, syncIdle, syncStart, syncDspReadyV2, syncHostToDsp] at phase

theorem phase_start (start : state.word = syncStart) : state.pc = .poll ∨ state.pc = .waitStart ∨ state.pc = .sayReady := by
  cases here : state.pc with
  | poll => exact .inl rfl
  | waitStart => exact .inr (.inl rfl)
  | sayReady => exact .inr (.inr rfl)
  | waitAnswer | process | sayDone | waitIrq | returned result =>
      simp [Phase, here, start, syncIdle, syncStart, syncDspReadyV2, syncHostToDsp, syncDspToHost] at phase

theorem phase_ready (ready : state.word = syncDspReadyV2) : state.pc = .waitAnswer := by
  cases here : state.pc with
  | waitAnswer => rfl
  | poll | waitStart | sayReady | process | sayDone | waitIrq | returned result =>
      simp [Phase, here, ready, syncIdle, syncStart, syncDspReadyV2, syncHostToDsp, syncDspToHost] at phase

theorem phase_answered (answered : state.word = syncHostToDsp) :
    state.pc = .waitAnswer ∨ state.pc = .process ∨ state.pc = .sayDone := by
  cases here : state.pc with
  | waitAnswer => exact .inl rfl
  | process => exact .inr (.inl rfl)
  | sayDone => exact .inr (.inr rfl)
  | poll | waitStart | sayReady | waitIrq | returned result =>
      simp [Phase, here, answered, syncIdle, syncStart, syncHostToDsp, syncDspToHost] at phase

theorem phase_done (done : state.word = syncDspToHost) : state.pc = .waitIrq ∨ ∃ result, state.pc = .returned result := by
  cases here : state.pc with
  | waitIrq => exact .inl rfl
  | returned result => exact .inr ⟨result, rfl⟩
  | poll | waitStart | sayReady | waitAnswer | process | sayDone =>
      simp [Phase, here, done, syncIdle, syncStart, syncDspReadyV2, syncHostToDsp, syncDspToHost] at phase

end Words

-- What a host that keeps the protocol leaves true of the firmware.
theorem host_step_phase (before : HwSync) (state next : Handshake) (event : SyncEvent) (byHost : event ≠ .device)
    (phase : Phase updateHwQueues before state) (keeps : HostKeeps state event)
    (taken : syncStep updateHwQueues state event = some next) : Phase updateHwQueues before next := by
  obtain ⟨word, area, irq, pc, hw, handed, walked⟩ := state
  cases event with
  | device => exact absurd rfl byHost
  | hostIrq =>
      cases taken
      cases pc <;> exact phase
  | hostArea other =>
      cases taken
      obtain ⟨notAnswered, notDone⟩ := keeps
      cases pc with
      | poll | waitStart | sayReady => exact phase
      | waitAnswer =>
          obtain ⟨⟨ready, none⟩ | ⟨answered, -⟩, rest⟩ := phase
          · exact ⟨.inl ⟨ready, none⟩, rest⟩
          · exact absurd answered notAnswered
      | process | sayDone => exact absurd phase.1 notAnswered
      | waitIrq =>
          obtain ⟨words, from_, marked, handed, walked, written, -⟩ := phase
          exact ⟨words, from_, marked, handed, walked, written, fun late => (late.elim notAnswered notDone).elim⟩
      | returned result =>
          obtain ⟨zero, words, from_, marked, handed, walked, written, -⟩ := phase
          exact ⟨zero, words, from_, marked, handed, walked, written, fun late => (late.elim notAnswered notDone).elim⟩
  | hostWord other =>
      rcases keeps with ⟨idle, rfl, none⟩ | ⟨ready, rfl, complete⟩ | ⟨done, rfl⟩
      · obtain rfl : pc = .poll := phase_idle updateHwQueues before _ phase idle none
        cases taken
        exact ⟨.inr rfl, none, phase.2.2⟩
      · obtain rfl : pc = .waitAnswer := phase_ready updateHwQueues before _ phase ready
        obtain ⟨⟨-, none⟩ | ⟨answered, -⟩, rest⟩ := phase
        · cases taken
          exact ⟨.inr ⟨rfl, congrArg (· ++ [area]) none, complete⟩, rest⟩
        · exact absurd (ready.symm.trans answered) (by decide)
      · have early : ¬ (syncIdle = syncHostToDsp ∨ syncIdle = syncDspToHost) := by decide
        rcases phase_done updateHwQueues before _ phase done with (rfl : pc = _) | ⟨result, (rfl : pc = _)⟩
        · obtain ⟨-, from_, marked, once, walked, written, -⟩ := phase
          cases taken
          exact ⟨.inr rfl, from_, marked, once, walked, written, fun late => absurd late early⟩
        · obtain ⟨zero, -, from_, marked, once, walked, written, -⟩ := phase
          cases taken
          exact ⟨zero, .inr rfl, from_, marked, once, walked, written, fun late => absurd late early⟩

theorem step_phase (before : HwSync) (state : Handshake) (event : SyncEvent) (next : Handshake)
    (phase : Phase updateHwQueues before state) (keeps : HostKeeps state event)
    (taken : syncStep updateHwQueues state event = some next) : Phase updateHwQueues before next := by
  by_cases byHost : event = .device
  · subst byHost
    exact device_step_phase updateHwQueues before state next phase taken
  · exact host_step_phase updateHwQueues before state next event byHost phase keeps taken

theorem run_phase (before : HwSync) (area : List Word) (events : List SyncEvent) (state : Handshake)
    (keeps : Guarded (syncStep updateHwQueues) HostKeeps (beforeSync before area) events)
    (ran : run (syncStep updateHwQueues) (beforeSync before area) events = some state) : Phase updateHwQueues before state :=
  guarded_run_invariant (syncStep updateHwQueues) HostKeeps (Phase updateHwQueues before) (step_phase updateHwQueues before)
    (beforeSync before area) state events ⟨.inl rfl, rfl, rfl, rfl⟩ keeps ran

-- The firmware's next turns reach a state with the property, the host doing nothing.
def Reaches (turns : Nat) (state : Handshake) (property : Handshake → Prop) : Prop :=
  ∃ count next, count ≤ turns ∧ run (syncStep updateHwQueues) state (List.replicate count .device) = some next ∧ property next

theorem reaches_now (turns : Nat) (state : Handshake) (property : Handshake → Prop) (holds : property state) :
    Reaches updateHwQueues turns state property :=
  ⟨0, state, Nat.zero_le turns, rfl, holds⟩

theorem reaches_step (turns : Nat) (state next : Handshake) (property : Handshake → Prop)
    (taken : deviceStep updateHwQueues state = some next) (later : Reaches updateHwQueues turns next property) :
    Reaches updateHwQueues (turns + 1) state property := by
  obtain ⟨count, finish, few, ran, holds⟩ := later
  refine ⟨count + 1, finish, Nat.succ_le_succ few, ?_, holds⟩
  rw [List.replicate_succ, run, syncStep, taken]
  exact ran

theorem ready_reached (before : HwSync) (state : Handshake) (phase : Phase updateHwQueues before state)
    (start : state.word = syncStart) : Reaches updateHwQueues 3 state fun next => next.word = syncDspReadyV2 := by
  have ready (from_ : Handshake) (here : from_.pc = .sayReady) :
      Reaches updateHwQueues 1 from_ fun next => next.word = syncDspReadyV2 :=
    reaches_step updateHwQueues 0 from_ _ _ (say_ready updateHwQueues from_ here) (reaches_now updateHwQueues 0 _ _ rfl)
  have started (from_ : Handshake) (here : from_.pc = .waitStart) (seen : from_.word = syncStart) :
      Reaches updateHwQueues 2 from_ fun next => next.word = syncDspReadyV2 :=
    reaches_step updateHwQueues 1 from_ _ _ (wait_start updateHwQueues from_ here seen) (ready _ rfl)
  rcases phase_start updateHwQueues before state phase start with here | here | here
  · exact reaches_step updateHwQueues 2 state _ _ (poll_start updateHwQueues state here start) (started _ rfl start)
  · obtain ⟨count, next, few, reached⟩ := started state here start
    exact ⟨count, next, Nat.le_succ_of_le few, reached⟩
  · obtain ⟨count, next, few, reached⟩ := ready state here
    exact ⟨count, next, by omega, reached⟩

theorem done_reached (before : HwSync) (state : Handshake) (phase : Phase updateHwQueues before state)
    (answered : state.word = syncHostToDsp) : Reaches updateHwQueues 3 state fun next => next.word = syncDspToHost := by
  have said (from_ : Handshake) (here : from_.pc = .sayDone) :
      Reaches updateHwQueues 1 from_ fun next => next.word = syncDspToHost :=
    reaches_step updateHwQueues 0 from_ _ _ (say_done updateHwQueues from_ here) (reaches_now updateHwQueues 0 _ _ rfl)
  have walked (from_ : Handshake) (here : from_.pc = .process) (complete : Complete from_.area) :
      Reaches updateHwQueues 2 from_ fun next => next.word = syncDspToHost := by
    obtain ⟨marked, after, taken, -⟩ := process_area updateHwQueues from_ here complete
    exact reaches_step updateHwQueues 1 from_ _ _ taken (said _ rfl)
  rcases phase_answered updateHwQueues before state phase answered with here | here | here
  · simp only [Phase, here] at phase
    have complete : Complete state.area :=
      phase.1.elim (fun ready => absurd (answered.symm.trans ready.1) (by decide)) fun handed => handed.2.2
    exact reaches_step updateHwQueues 2 state _ _ (wait_answer updateHwQueues state here answered) (walked _ rfl complete)
  · simp only [Phase, here] at phase
    obtain ⟨count, next, few, reached⟩ := walked state here phase.2.2.1
    exact ⟨count, next, Nat.le_succ_of_le few, reached⟩
  · obtain ⟨count, next, few, reached⟩ := said state here
    exact ⟨count, next, by omega, reached⟩

-- In any order of the host's and the firmware's steps: no failure, one walk of
-- the area the host handed over, the accept bits in place before DSP_TO_HOST, and
-- an answer to whatever the host says.
theorem handshake_safe (before : HwSync) (area : List Word) (events : List SyncEvent) (state : Handshake)
    (keeps : Guarded (syncStep updateHwQueues) HostKeeps (beforeSync before area) events)
    (ran : run (syncStep updateHwQueues) (beforeSync before area) events = some state) :
    (∀ result, state.pc = .returned result →
      result = 0 ∧ ∃ handed marked, state.handed = [handed] ∧ state.walked = [handed] ∧ Taken updateHwQueues before handed marked state.hw) ∧
    (state.word = syncDspToHost →
      ∃ handed, state.handed = [handed] ∧ state.walked = [handed] ∧ Taken updateHwQueues before handed state.area state.hw) ∧
    (state.word = syncStart → Reaches updateHwQueues 3 state fun next => next.word = syncDspReadyV2) ∧
    (state.word = syncHostToDsp → Reaches updateHwQueues 3 state fun next => next.word = syncDspToHost) ∧
    (state.pc = .waitIrq → state.irq = true → Reaches updateHwQueues 1 state fun next => next.pc = .returned 0) := by
  have phase := run_phase updateHwQueues before area events state keeps ran
  refine ⟨fun result here => ?_, fun done => ?_, ready_reached updateHwQueues before state phase,
    done_reached updateHwQueues before state phase, fun here pending => ?_⟩
  · simp only [Phase, here] at phase
    obtain ⟨zero, -, handed, marked, once, walked, written, -⟩ := phase
    exact ⟨zero, handed, marked, once, walked, written⟩
  · have accepted : Accepted updateHwQueues before state := by
      rcases phase_done updateHwQueues before state phase done with here | ⟨result, here⟩
      · simp only [Phase, here] at phase
        exact phase.2
      · simp only [Phase, here] at phase
        exact phase.2.2
    obtain ⟨handed, marked, once, walked, written, same⟩ := accepted
    exact ⟨handed, once, walked, same (.inr done) ▸ written⟩
  · refine reaches_step updateHwQueues 0 state { state with irq := if state.hw.deviceIrqMode = .none then state.irq else false, pc := .returned 0 }
      _ ?_ (reaches_now updateHwQueues 0 _ _ rfl)
    simp only [deviceStep, here, pending, if_true]
    split <;> rfl

end Steps

def quietHw : HwSync := ⟨0, .none, 0, 0, 0, .none, 0, 0, 0, 0⟩

-- A host that hands over one entry with the address of the panic area.
def oneEntryHost : List SyncEvent :=
  [.device, .hostWord syncStart, .device, .device, .hostArea [3, 8, 0x4000, 2, 0, 0], .device, .hostIrq,
   .hostWord syncHostToDsp, .device, .device, .device, .device, .hostWord syncIdle]

theorem one_entry_complete : Complete [3, 8, 0x4000, 2, 0, 0] := by
  refine ⟨[⟨3, 8, [0x4000, 2]⟩], 0, 0, [], ?_, .inr (by decide), by decide⟩
  intro entry listed
  cases List.mem_singleton.mp listed
  exact ⟨by decide, by decide, by decide, by decide, by decide⟩

theorem one_entry_walk : processSyncData (fun _ => false) quietHw [3, 8, 0x4000, 2, 0, 0] =
    some ([0x80000003, 8, 0x4000, 2, 0, 0], { quietHw with panic := 0x4000, dspLogLevel := 2 }) := by
  have whole : ∀ entry ∈ [(⟨3, 8, [0x4000, 2]⟩ : SyncEntry)], entry.Whole := by
    intro entry listed
    cases List.mem_singleton.mp listed
    exact ⟨by decide, by decide, by decide, by decide, by decide⟩
  exact (walk_entries (fun _ => false) quietHw _ whole 0 0 [] (.inr (by decide))).trans (by decide)

theorem handshake_safe_one : ∃ state,
    run (syncStep fun _ => false) (beforeSync quietHw []) oneEntryHost = some state ∧ state.pc = .returned 0 ∧
    ∃ handed marked, state.handed = [handed] ∧ state.walked = [handed] ∧ Taken (fun _ => false) quietHw handed marked state.hw := by
  have early : run (syncStep fun _ => false) (beforeSync quietHw []) (oneEntryHost.take 9) =
      some ⟨syncHostToDsp, [3, 8, 0x4000, 2, 0, 0], true, .process, quietHw, [[3, 8, 0x4000, 2, 0, 0]], []⟩ := by
    decide
  have walks : syncStep (fun _ => false)
      ⟨syncHostToDsp, [3, 8, 0x4000, 2, 0, 0], true, .process, quietHw, [[3, 8, 0x4000, 2, 0, 0]], []⟩ .device =
      some ⟨syncHostToDsp, [0x80000003, 8, 0x4000, 2, 0, 0], true, .sayDone, { quietHw with panic := 0x4000, dspLogLevel := 2 },
        [[3, 8, 0x4000, 2, 0, 0]], [[3, 8, 0x4000, 2, 0, 0]]⟩ := by
    simp only [syncStep, deviceStep, one_entry_walk, Option.map_some, List.nil_append]
  have ran : run (syncStep fun _ => false) (beforeSync quietHw []) oneEntryHost =
      some ⟨syncIdle, [0x80000003, 8, 0x4000, 2, 0, 0], true, .returned 0, { quietHw with panic := 0x4000, dspLogLevel := 2 },
        [[3, 8, 0x4000, 2, 0, 0]], [[3, 8, 0x4000, 2, 0, 0]]⟩ := by
    rw [← List.take_append_drop 9 oneEntryHost, run_append, early]
    change (syncStep _ _ .device).bind _ = _
    rw [walks]
    decide
  have keeps : Guarded (syncStep fun _ => false) HostKeeps (beforeSync quietHw []) oneEntryHost := by
    refine guarded_cons _ _ _ _ _ _ rfl trivial <| guarded_cons _ _ _ _ _ _ rfl (.inl ⟨rfl, rfl, rfl⟩) <|
      guarded_cons _ _ _ _ _ _ rfl trivial <| guarded_cons _ _ _ _ _ _ rfl trivial <|
      guarded_cons _ _ _ _ _ _ rfl ⟨by decide, by decide⟩ <| guarded_cons _ _ _ _ _ _ rfl trivial <|
      guarded_cons _ _ _ _ _ _ rfl trivial <| guarded_cons _ _ _ _ _ _ rfl (.inr (.inl ⟨rfl, rfl, one_entry_complete⟩)) <|
      guarded_cons _ _ _ _ _ _ rfl trivial <| guarded_cons _ _ _ _ _ _ walks trivial <| guarded_cons _ _ _ _ _ _ rfl trivial <|
      guarded_cons _ _ _ _ _ _ rfl trivial <| guarded_cons _ _ _ _ _ _ rfl (.inr (.inr ⟨rfl, rfl⟩)) trivial
  refine ⟨_, ran, rfl, ?_⟩
  exact ((handshake_safe (fun _ => false) quietHw [] oneEntryHost _ keeps ran).1 0 rfl).2

section AnyHost

variable (updateHwQueues : List Word → Bool) (start : Handshake)

-- The firmware loaded such a word there.
def Loaded (events : List SyncEvent) (pc : Pc) (property : Word → Prop) : Prop :=
  ∃ first middle rest, events = first ++ .device :: rest ∧ run (syncStep updateHwQueues) start first = some middle ∧
    middle.pc = pc ∧ property middle.word

theorem loaded_later (events : List SyncEvent) (event : SyncEvent) (pc : Pc) (property : Word → Prop)
    (seen : Loaded updateHwQueues start events pc property) : Loaded updateHwQueues start (events ++ [event]) pc property := by
  obtain ⟨first, middle, rest, rfl, ran, here, holds⟩ := seen
  exact ⟨first, middle, rest ++ [event], by simp, ran, here, holds⟩

theorem loaded_now (events : List SyncEvent) (state : Handshake) (property : Word → Prop)
    (ran : run (syncStep updateHwQueues) start events = some state) (holds : property state.word) :
    Loaded updateHwQueues start (events ++ [.device]) state.pc property :=
  ⟨events, state, [], rfl, ran, rfl, holds⟩

def Untouched (state : Handshake) : Prop := state.walked = [] ∧ state.hw = start.hw

def WalkedOnce (events : List SyncEvent) (state : Handshake) : Prop :=
  Loaded updateHwQueues start events .waitAnswer (· = syncHostToDsp) ∧
    ∃ area marked, state.walked = [area] ∧ processSyncData updateHwQueues start.hw area = some (marked, state.hw)

inductive Ending (events : List SyncEvent) (state : Handshake) : Int → Prop where
  | refused (untouched : Untouched start state)
      (seen : Loaded updateHwQueues start events .poll fun word => xrpRequestValid word = true ∧ word ≠ syncStart) :
      Ending events state (-1)
  | abandoned (untouched : Untouched start state)
      (seen : Loaded updateHwQueues start events .waitAnswer fun word => word ≠ syncHostToDsp ∧ word ≠ syncDspReadyV2) :
      Ending events state 0
  | synced (walked : WalkedOnce updateHwQueues start events state) : Ending events state 0

def History (events : List SyncEvent) (state : Handshake) : Prop :=
  match state.pc with
  | .poll | .waitStart | .sayReady | .waitAnswer => Untouched start state
  | .process => Untouched start state ∧ Loaded updateHwQueues start events .waitAnswer (· = syncHostToDsp)
  | .sayDone | .waitIrq => WalkedOnce updateHwQueues start events state
  | .returned result => Ending updateHwQueues start events state result

theorem history_kept (events : List SyncEvent) (event : SyncEvent) (state next : Handshake)
    (pc : next.pc = state.pc) (walked : next.walked = state.walked) (hw : next.hw = state.hw)
    (history : History updateHwQueues start events state) : History updateHwQueues start (events ++ [event]) next := by
  have later := loaded_later updateHwQueues start events event
  have untouched (was : Untouched start state) : Untouched start next := ⟨walked.trans was.1, hw.trans was.2⟩
  have once (was : WalkedOnce updateHwQueues start events state) : WalkedOnce updateHwQueues start (events ++ [event]) next := by
    obtain ⟨seen, area, marked, one, walk⟩ := was
    exact ⟨later _ _ seen, area, marked, walked.trans one, hw ▸ walk⟩
  rw [History, pc]
  rw [History] at history
  cases here : state.pc with
  | poll | waitStart | sayReady | waitAnswer =>
      rw [here] at history
      exact untouched history
  | process =>
      rw [here] at history
      exact ⟨untouched history.1, later _ _ history.2⟩
  | sayDone | waitIrq =>
      rw [here] at history
      exact once history
  | returned result =>
      rw [here] at history
      cases history with
      | refused was seen => exact .refused (untouched was) (later _ _ seen)
      | abandoned was seen => exact .abandoned (untouched was) (later _ _ seen)
      | synced was => exact .synced (once was)

theorem history_by_device (events : List SyncEvent) (state next : Handshake)
    (ran : run (syncStep updateHwQueues) start events = some state) (history : History updateHwQueues start events state)
    (taken : deviceStep updateHwQueues state = some next) : History updateHwQueues start (events ++ [.device]) next := by
  have now := loaded_now updateHwQueues start events state
  have later := loaded_later updateHwQueues start events .device
  have stays := history_kept updateHwQueues start events .device state state rfl rfl rfl history
  rw [History] at history
  cases here : state.pc with
  | poll =>
      rw [here] at history now
      simp only [deviceStep, here] at taken
      split at taken
      · cases taken
        exact stays
      · rename_i valid
        split at taken
        · cases taken
          exact history
        · rename_i other
          cases taken
          exact .refused history (now _ ran ⟨by simpa using valid, other⟩)
  | waitStart =>
      rw [here] at history
      simp only [deviceStep, here] at taken
      split at taken
      · cases taken
        exact history
      · cases taken
        exact stays
  | sayReady =>
      rw [here] at history
      rw [say_ready updateHwQueues state here] at taken
      cases taken
      exact history
  | waitAnswer =>
      rw [here] at history now
      simp only [deviceStep, here] at taken
      split at taken
      · rename_i answered
        cases taken
        exact ⟨history, now _ ran answered⟩
      · rename_i unanswered
        split at taken
        · cases taken
          exact stays
        · rename_i other
          cases taken
          exact .abandoned history (now _ ran ⟨unanswered, other⟩)
  | process =>
      rw [here] at history
      simp only [deviceStep, here] at taken
      obtain ⟨⟨marked, after⟩, walk, rfl⟩ := Option.map_eq_some_iff.mp taken
      obtain ⟨⟨none, same⟩, seen⟩ := history
      refine ⟨later _ _ seen, state.area, marked, ?_, same ▸ walk⟩
      simp only [none, List.nil_append]
  | sayDone =>
      rw [here] at history
      rw [say_done updateHwQueues state here] at taken
      cases taken
      exact ⟨later _ _ history.1, history.2⟩
  | waitIrq =>
      rw [here] at history
      simp only [deviceStep, here] at taken
      split at taken
      · cases taken
        exact .synced ⟨later _ _ history.1, history.2⟩
      · split at taken
        · cases taken
          exact .synced ⟨later _ _ history.1, history.2⟩
        · cases taken
          exact stays
  | returned result =>
      simp only [deviceStep, here] at taken
      cases taken

theorem run_history (boots : start.pc = .poll) (fresh : start.walked = []) (events : List SyncEvent) (state : Handshake)
    (ran : run (syncStep updateHwQueues) start events = some state) : History updateHwQueues start events state := by
  induction events using List.reverseRecOn generalizing state with
  | nil =>
      cases ran
      rw [History, boots]
      exact ⟨fresh, rfl⟩
  | append_singleton before event ih =>
      rw [run_append] at ran
      obtain ⟨middle, early, last⟩ := Option.bind_eq_some_iff.mp ran
      obtain ⟨next, taken, done⟩ := Option.bind_eq_some_iff.mp last
      cases done
      cases event with
      | device => exact history_by_device updateHwQueues start before middle _ early (ih middle early) taken
      | hostWord word | hostArea area | hostIrq =>
          cases taken
          exact history_kept updateHwQueues start before _ middle _ rfl rfl rfl (ih middle early)

-- Whatever the host writes, ps_wait_host_sync ends in one of three ways. In two
-- of them nothing was set, and one of those two counts as success.
theorem handshake_endings (before : HwSync) (area : List Word) (events : List SyncEvent) (state : Handshake) (result : Int)
    (ran : run (syncStep updateHwQueues) (beforeSync before area) events = some state) (ended : state.pc = .returned result) :
    Ending updateHwQueues (beforeSync before area) events state result := by
  have history := run_history updateHwQueues (beforeSync before area) rfl rfl events state ran
  rw [History, ended] at history
  exact history

end AnyHost

-- A host that starts over while the firmware waits for its answer.
theorem handshake_endings_restart : ∃ state,
    run (syncStep fun _ => false) (beforeSync quietHw []) [.hostWord syncStart, .device, .device, .device, .hostWord syncStart, .device] =
      some state ∧
    Ending (fun _ => false) (beforeSync quietHw [])
      [.hostWord syncStart, .device, .device, .device, .hostWord syncStart, .device] state 0 ∧ state.hw = quietHw :=
  ⟨⟨syncStart, [], false, .returned 0, quietHw, [], []⟩, by decide,
    handshake_endings (fun _ => false) quietHw [] _ _ 0 (by decide) rfl, rfl⟩

end CsiDsp.Sync
