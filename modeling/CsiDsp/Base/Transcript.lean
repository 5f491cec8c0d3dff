import CsiDsp.Base.Runs

set_option autoImplicit false

-- Runs of a system whose steps answer.
namespace Transcript

open Runs

variable {State Event Output : Type}

def transcript (step : State → Event → Option (State × Output)) : State → List Event → Option (State × List Output)
  | state, [] => some (state, [])
  | state, event :: rest => (step state event).bind fun taken =>
      (transcript step taken.1 rest).map fun last => (last.1, taken.2 :: last.2)

-- The system without its answers.
def silent (step : State → Event → Option (State × Output)) (state : State) (event : Event) : Option State :=
  (step state event).map Prod.fst

section Transcript

variable (step : State → Event → Option (State × Output)) (guard : State → Event → Prop)

theorem transcript_cons (start last : State) (event : Event) (rest : List Event) (outputs : List Output) :
    transcript step start (event :: rest) = some (last, outputs) ↔
      ∃ next output others, step start event = some (next, output) ∧ transcript step next rest = some (last, others) ∧
        outputs = output :: others := by
  simp only [transcript, Option.bind_eq_some_iff, Option.map_eq_some_iff, Prod.exists, Prod.mk.injEq]
  constructor
  · rintro ⟨next, output, taken, final, others, done, rfl, rfl⟩
    exact ⟨next, output, others, taken, done, rfl⟩
  · rintro ⟨next, output, others, taken, done, rfl⟩
    exact ⟨next, output, taken, last, others, done, rfl, rfl⟩

theorem transcript_append (start last : State) (first second : List Event) (outputs : List Output) :
    transcript step start (first ++ second) = some (last, outputs) ↔
      ∃ middle before after, transcript step start first = some (middle, before) ∧
        transcript step middle second = some (last, after) ∧ outputs = before ++ after := by
  induction first generalizing start outputs with
  | nil =>
      constructor
      · intro done
        exact ⟨start, [], outputs, rfl, done, rfl⟩
      · rintro ⟨middle, before, after, one, two, rfl⟩
        cases one
        exact two
  | cons event rest ih =>
      rw [List.cons_append, transcript_cons]
      constructor
      · rintro ⟨next, output, others, taken, done, rfl⟩
        obtain ⟨middle, before, after, one, two, rfl⟩ := (ih next others).mp done
        exact ⟨middle, output :: before, after,
          (transcript_cons step start middle event rest _).mpr ⟨next, output, before, taken, one, rfl⟩,
          two, rfl⟩
      · rintro ⟨middle, before, after, one, two, rfl⟩
        obtain ⟨next, output, others, taken, done, rfl⟩ := (transcript_cons step start middle event rest before).mp one
        exact ⟨next, output, others ++ after, taken, (ih next _).mpr ⟨middle, others, after, done, two, rfl⟩, rfl⟩

theorem transcript_run (start last : State) (events : List Event) (outputs : List Output)
    (done : transcript step start events = some (last, outputs)) : run (silent step) start events = some last := by
  induction events generalizing start outputs with
  | nil =>
      cases done
      rfl
  | cons event rest ih =>
      obtain ⟨next, output, others, taken, later, rfl⟩ := (transcript_cons step start last event rest outputs).mp done
      rw [run, silent, taken]
      exact ih next others later

-- Two runs of related states answer the same as long as one step does. What is
-- left of the first run is known at each step.
theorem transcript_simulated (relation : State → State → Prop) (last : State)
    (simulated : ∀ first second event rest outputs next output, relation first second →
      Guarded (silent step) guard first (event :: rest) → guard second event →
      transcript step first (event :: rest) = some (last, outputs) → step first event = some (next, output) →
      ∃ other, step second event = some (other, output) ∧ relation next other)
    (first second : State) (events : List Event) (outputs : List Output) (related : relation first second)
    (guarded : Guarded (silent step) guard first events) (alike : Guarded (silent step) guard second events)
    (done : transcript step first events = some (last, outputs)) :
    ∃ other, transcript step second events = some (other, outputs) ∧ relation last other := by
  induction events generalizing first second outputs with
  | nil =>
      cases done
      exact ⟨second, rfl, related⟩
  | cons event rest ih =>
      obtain ⟨next, output, others, taken, later, same⟩ := (transcript_cons step first last event rest outputs).mp done
      obtain ⟨again, answered, kept⟩ := simulated first second event rest outputs next output related guarded alike.1 done taken
      obtain ⟨other, ran, reached⟩ := ih next again others kept (guarded.2 next (by rw [silent, taken]; rfl))
        (alike.2 again (by rw [silent, answered]; rfl)) later
      exact ⟨other, (transcript_cons step second other event rest _).mpr ⟨again, output, others, answered, ran, same⟩, reached⟩

-- Related states that can take the same steps with the same answers have the
-- same transcripts.
theorem transcript_alike (relation : State → State → Prop)
    (alike : ∀ first second event, relation first second →
      Option.Rel (fun one two => relation one.1 two.1 ∧ one.2 = two.2) (step first event) (step second event))
    (first second : State) (events : List Event) (related : relation first second) :
    (transcript step first events).map Prod.snd = (transcript step second events).map Prod.snd := by
  induction events generalizing first second with
  | nil => rfl
  | cons event rest ih =>
      have steps := alike first second event related
      simp only [transcript]
      cases one : step first event with
      | none =>
          cases two : step second event with
          | none => rfl
          | some taken =>
              rw [one, two] at steps
              cases steps
      | some next =>
          cases two : step second event with
          | none =>
              rw [one, two] at steps
              cases steps
          | some other =>
              rw [one, two] at steps
              cases steps with
              | some both =>
                  have later := ih next.1 other.1 both.1
                  simp only [Option.bind_some, Option.map_map, both.2]
                  rw [show (Prod.snd ∘ fun last : State × List Output => (last.1, other.2 :: last.2)) =
                    (List.cons other.2) ∘ Prod.snd from rfl,
                    ← Option.map_map, ← Option.map_map, later]

-- What answers the same once and can go on, answers the same every time.
theorem transcript_repeated (again : State → Prop) (cycle : List Event) (outputs : List Output)
    (once : ∀ state, again state → Guarded (silent step) guard state cycle →
      ∃ next, transcript step state cycle = some (next, outputs) ∧ again next) (start : State) (ready : again start) (count : Nat)
    (guarded : Guarded (silent step) guard start (List.replicate count cycle).flatten) :
    ∃ last, transcript step start (List.replicate count cycle).flatten = some (last, (List.replicate count outputs).flatten) ∧
      again last := by
  induction count generalizing start with
  | zero => exact ⟨start, rfl, ready⟩
  | succ count ih =>
      rw [List.replicate_succ, List.flatten_cons] at guarded ⊢
      obtain ⟨here, rest⟩ := (guarded_append (silent step) guard start cycle _).mp guarded
      obtain ⟨next, done, ready⟩ := once start ready here
      obtain ⟨last, ran, reached⟩ := ih next ready (rest next (transcript_run step start next cycle outputs done))
      refine ⟨last, ?_, reached⟩
      rw [transcript_append]
      exact ⟨next, outputs, _, done, ran, by rw [List.replicate_succ, List.flatten_cons]⟩

end Transcript

end Transcript
