import Mathlib.Data.List.Induction

namespace FaultInject.Transition
variable {S E : Type} (step : S → E → Option S)

/-- A run takes the events of a list one after the other. -/
def run (start : S) (events : List E) : Option S := events.foldlM step start

@[simp] theorem run_nil (start : S) : run step start [] = some start := rfl

theorem run_append (start : S) (first second : List E) :
    run step start (first ++ second) = (run step start first).bind fun state =>
      run step state second := List.foldlM_append ..

theorem run_singleton (state : S) (event : E) : run step state [event] = step state event := by
  rw [run, List.foldlM_cons]
  cases step state event <;> rfl

theorem run_cons_eq_some {start next : S} {event : E} {events : List E} :
    run step start (event :: events) = some next ↔
      ∃ state, step start event = some state ∧ run step state events = some next := by
  rw [run, List.foldlM_cons]
  exact Option.bind_eq_some_iff

/-- The last event of a run is one step. -/
theorem run_concat_eq_some {start next : S} {events : List E} {event : E} :
    run step start (events ++ [event]) = some next ↔
      ∃ state, run step start events = some state ∧ step state event = some next := by
  rw [run_append, Option.bind_eq_some_iff]
  simp only [run_singleton]

/-- A fact about the events so far and the state holds after every run
when it holds at the start and every step keeps it. -/
theorem run_invariant {start : S} {holds : List E → S → Prop} (base : holds [] start)
    (preserved : ∀ events state event next, holds events state → step state event = some next →
      holds (events ++ [event]) next)
    {events : List E} {state : S} (reached : run step start events = some state) :
    holds events state := by
  induction events using List.reverseRecOn generalizing state with
  | nil =>
      cases reached
      exact base
  | append_singleton events event ih =>
      obtain ⟨before, head, last⟩ := (run_concat_eq_some step).mp reached
      exact preserved events before event state (ih head) last

section Condition
variable {condition : S → E → Prop}

/-- Every step of the run meets the condition on its state and its event. -/
def Meets (condition : S → E → Prop) : S → List E → Prop
  | _, [] => True
  | state, event :: events =>
      condition state event ∧ ∀ next, step state event = some next → Meets condition next events

/-- A fact that every step keeps under the condition holds after a run that meets the condition. -/
theorem run_of_meets {holds : S → Prop}
    (preserved : ∀ state event next, holds state → condition state event →
      step state event = some next → holds next)
    {start final : S} {events : List E} (base : holds start) (meets : Meets step condition start events)
    (reached : run step start events = some final) : holds final := by
  induction events generalizing start with
  | nil =>
      cases reached
      exact base
  | cons event events ih =>
      obtain ⟨next, taken, rest⟩ := (run_cons_eq_some step).mp reached
      exact ih (preserved start event next base meets.1 taken) (meets.2 next taken) rest

/-- A run that does not meet the condition has a first part behind which the condition fails. -/
theorem exists_of_not_meets {start final : S} {events : List E}
    (fails : ¬Meets step condition start events) (reached : run step start events = some final) :
    ∃ state event next rest, ¬condition state event ∧ step state event = some next ∧
      run step next rest = some final := by
  induction events generalizing start with
  | nil => exact absurd trivial fails
  | cons event events ih =>
      obtain ⟨next, taken, rest⟩ := (run_cons_eq_some step).mp reached
      by_cases passed : condition start event
      · apply ih _ rest
        intro meets
        apply fails
        refine ⟨passed, ?_⟩
        intro other again
        rw [taken, Option.some.injEq] at again
        rwa [← again]
      · exact ⟨start, event, next, events, passed, taken, rest⟩

end Condition

end FaultInject.Transition
