set_option autoImplicit false

namespace Runs

variable {State Event : Type}

-- A system is a partial step function. The result none means that the event
-- cannot happen in that state.
def run (step : State → Event → Option State) : State → List Event → Option State
  | state, [] => some state
  | state, event :: rest => (step state event).bind fun next => run step next rest

theorem run_append (step : State → Event → Option State) (start : State) (first second : List Event) :
    run step start (first ++ second) = (run step start first).bind fun middle => run step middle second := by
  induction first generalizing start with
  | nil => rfl
  | cons event rest ih =>
      cases taken : step start event with
      | none => simp [run, taken]
      | some next => simp [run, taken, ih]

-- Every step of the run is taken in a state where the guard holds of its event.
def Guarded (step : State → Event → Option State) (guard : State → Event → Prop) : State → List Event → Prop
  | _, [] => True
  | state, event :: rest => guard state event ∧ ∀ next, step state event = some next → Guarded step guard next rest

def decideGuarded (step : State → Event → Option State) (guard : State → Event → Prop)
    [∀ state event, Decidable (guard state event)] : ∀ start events, Decidable (Guarded step guard start events)
  | _, [] => .isTrue trivial
  | state, event :: rest =>
      match taken : step state event with
      | none => decidable_of_iff (guard state event)
          ⟨fun held => ⟨held, fun _ reached => by simp [taken] at reached⟩, fun guarded => guarded.1⟩
      | some next =>
          have : Decidable (Guarded step guard next rest) := decideGuarded step guard next rest
          decidable_of_iff (guard state event ∧ Guarded step guard next rest)
            ⟨fun held => ⟨held.1, fun other reached => by cases taken.symm.trans reached; exact held.2⟩,
             fun guarded => ⟨guarded.1, guarded.2 next taken⟩⟩

instance (step : State → Event → Option State) (guard : State → Event → Prop)
    [∀ state event, Decidable (guard state event)] (start : State) (events : List Event) :
    Decidable (Guarded step guard start events) := decideGuarded step guard start events

-- What one guarded step preserves, a whole guarded run preserves.
theorem guarded_run_invariant (step : State → Event → Option State) (guard : State → Event → Prop)
    (invariant : State → Prop)
    (preserved : ∀ state event next, invariant state → guard state event → step state event = some next → invariant next)
    (start finish : State) (events : List Event) (initial : invariant start)
    (guarded : Guarded step guard start events) (ran : run step start events = some finish) : invariant finish := by
  induction events generalizing start with
  | nil =>
      cases ran
      exact initial
  | cons event rest ih =>
      cases taken : step start event with
      | none => simp [run, taken] at ran
      | some next =>
          have tail : run step next rest = some finish := by simpa [run, taken] using ran
          exact ih next (preserved start event next initial guarded.1 taken) (guarded.2 next taken) tail

-- Where every guarded event can be taken, every guarded run can be taken.
theorem guarded_run_total (step : State → Event → Option State) (guard : State → Event → Prop) (invariant : State → Prop)
    (progress : ∀ state event, invariant state → guard state event → ∃ next, step state event = some next ∧ invariant next)
    (start : State) (events : List Event) (initial : invariant start) (guarded : Guarded step guard start events) :
    ∃ finish, run step start events = some finish ∧ invariant finish := by
  induction events generalizing start with
  | nil => exact ⟨start, rfl, initial⟩
  | cons event rest ih =>
      obtain ⟨next, taken, held⟩ := progress start event initial guarded.1
      obtain ⟨finish, ran, kept⟩ := ih next held (guarded.2 next taken)
      refine ⟨finish, ?_, kept⟩
      rw [run, taken]
      exact ran

theorem guarded_cons (step : State → Event → Option State) (guard : State → Event → Prop) (start next : State) (event : Event)
    (rest : List Event) (taken : step start event = some next) (here : guard start event) (later : Guarded step guard next rest) :
    Guarded step guard start (event :: rest) := by
  refine ⟨here, fun other reached => ?_⟩
  cases taken.symm.trans reached
  exact later

theorem guarded_of_forall (step : State → Event → Option State) (guard : State → Event → Prop) (start : State)
    (events : List Event) (each : ∀ event ∈ events, ∀ state, guard state event) : Guarded step guard start events := by
  induction events generalizing start with
  | nil => trivial
  | cons event rest ih =>
      exact ⟨each event List.mem_cons_self start, fun next _ => ih next fun other member =>
        each other (List.mem_cons_of_mem event member)⟩

theorem guarded_append (step : State → Event → Option State) (guard : State → Event → Prop) (start : State)
    (first second : List Event) : Guarded step guard start (first ++ second) ↔
      Guarded step guard start first ∧ ∀ middle, run step start first = some middle → Guarded step guard middle second := by
  induction first generalizing start with
  | nil => simp [Guarded, run]
  | cons event rest ih =>
      constructor
      · rintro ⟨here, later⟩
        refine ⟨⟨here, fun next taken => ((ih next).mp (later next taken)).1⟩, fun middle ran => ?_⟩
        obtain ⟨next, taken, ran⟩ := Option.bind_eq_some_iff.mp ran
        exact ((ih next).mp (later next taken)).2 middle ran
      · rintro ⟨⟨here, later⟩, last⟩
        exact ⟨here, fun next taken => (ih next).mpr ⟨later next taken, fun middle ran =>
          last middle (Option.bind_eq_some_iff.mpr ⟨next, taken, ran⟩)⟩⟩

theorem guarded_and (step : State → Event → Option State) (guard : State → Event → Prop) (extra : Event → Prop) (start : State)
    (events : List Event) (guarded : Guarded step guard start events) (each : ∀ event ∈ events, extra event) :
    Guarded step (fun state event => guard state event ∧ extra event) start events := by
  induction events generalizing start with
  | nil => trivial
  | cons event rest ih =>
      exact ⟨⟨guarded.1, each event List.mem_cons_self⟩, fun next taken => ih next (guarded.2 next taken) fun other member =>
        each other (List.mem_cons_of_mem event member)⟩

theorem guarded_trivial (step : State → Event → Option State) (start : State) (events : List Event) :
    Guarded step (fun _ _ => True) start events := by
  induction events generalizing start with
  | nil => trivial
  | cons event rest ih => exact ⟨trivial, fun next _ => ih next⟩

theorem run_invariant (step : State → Event → Option State) (invariant : State → Prop)
    (preserved : ∀ state event next, invariant state → step state event = some next → invariant next)
    (start finish : State) (events : List Event) (initial : invariant start)
    (ran : run step start events = some finish) : invariant finish :=
  guarded_run_invariant step (fun _ _ => True) invariant
    (fun state event next held _ taken => preserved state event next held taken)
    start finish events initial (guarded_trivial step start events) ran

-- Where the invariant lets every event be taken, every run can be taken.
theorem run_total (step : State → Event → Option State) (invariant : State → Prop)
    (progress : ∀ state event, invariant state → ∃ next, step state event = some next ∧ invariant next)
    (start : State) (events : List Event) (initial : invariant start) :
    ∃ finish, run step start events = some finish ∧ invariant finish := by
  induction events generalizing start with
  | nil => exact ⟨start, rfl, initial⟩
  | cons event rest ih =>
      obtain ⟨next, taken, held⟩ := progress start event initial
      obtain ⟨finish, ran, kept⟩ := ih next held
      refine ⟨finish, ?_, kept⟩
      rw [run, taken]
      exact ran

end Runs
