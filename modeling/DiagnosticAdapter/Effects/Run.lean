import Mathlib.Data.List.Basic
import Mathlib.Data.List.Induction

/-!
# Runs of a transition system

A system moves from state to state under labelled events.  What holds in every
reachable state is shown by one step at a time.
-/

namespace DiagnosticAdapter.Effects

variable {State Event : Type}

/-- The events of a run, in order, and the state they lead to. -/
inductive Run (step : State → Event → State → Prop) (initial : State) :
    List Event → State → Prop where
  | start : Run step initial [] initial
  | step {events : List Event} {event : Event} {state next : State} :
      Run step initial events state → step state event next →
      Run step initial (events ++ [event]) next

variable {events : List Event} {initial : State}

/-- What holds initially and is kept by every step holds after every run; the
steps may be told apart by the events before them. -/
theorem Run.keeps {step : State → Event → State → Prop}
    (kept : List Event → State → Prop) (initially : kept [] initial)
    (preserved : ∀ events event state next, kept events state → step state event next →
      kept (events ++ [event]) next) {state : State}
    (run : Run step initial events state) : kept events state := by
  induction run with
  | start => exact initially
  | step _ taken ih => exact preserved _ _ _ _ ih taken

theorem Run.mono {step wider : State → Event → State → Prop}
    (included : ∀ state event next, step state event next → wider state event next)
    {state : State} (run : Run step initial events state) : Run wider initial events state := by
  induction run with
  | start => exact .start
  | step _ taken ih =>
    exact .step ih (included _ _ _ taken)

theorem Run.of_foldlM {step : State → Event → Option State} {initial final : State}
    (folded : events.foldlM step initial = some final) :
    Run (fun state event next => step state event = some next) initial events final := by
  induction events using List.reverseRecOn generalizing final with
  | nil =>
    cases folded
    exact .start
  | append_singleton events event ih =>
    rw [List.foldlM_append] at folded
    obtain ⟨state, before, last⟩ := Option.bind_eq_some_iff.mp folded
    exact .step (ih before) (by simpa using last)

theorem Run.of_foldl {step : State → Event → State} (events : List Event) :
    Run (fun state event next => step state event = next) initial events
      (events.foldl step initial) := by
  induction events using List.reverseRecOn with
  | nil => exact .start
  | append_singleton events event ih =>
    rw [List.foldl_append]
    exact .step ih rfl

theorem Run.of_guarded_foldlM {step : State → Event → Option State}
    {guard : State → Event → Bool} {initial final : State}
    (folded : events.foldlM (fun state event =>
      if guard state event then step state event else none) initial = some final) :
    Run (fun state event next => step state event = some next ∧ guard state event = true)
      initial events final := by
  apply (Run.of_foldlM folded).mono
  intro state event next taken
  split at taken
  case isTrue guarded => exact ⟨taken, guarded⟩
  case isFalse => cases taken

/-- Who is found in a table after an update is new there or was there before. -/
theorem cases_of_update {Key Value : Type} [DecidableEq Key] {table : Key → Option Value}
    {key other : Key} {new found : Value}
    (present : Function.update table key (some new) other = some found) :
    other = key ∧ found = new ∨ other ≠ key ∧ table other = some found := by
  by_cases same : other = key
  · rw [same, Function.update_self] at present
    exact .inl ⟨same, (Option.some.inj present).symm⟩
  · rw [Function.update_of_ne same] at present
    exact .inr ⟨same, present⟩

end DiagnosticAdapter.Effects
