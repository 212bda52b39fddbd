import DiagnosticAdapter.Effects.Stateful

/-!
# The errors that a program can fail with

What holds of every error of the parts of a program holds of every error of the whole.
-/

namespace DiagnosticAdapter.Effects

universe u

variable {ε α β σ : Type u} {allowed : ε → Prop}

/-- Every failure of the program is with an allowed error. -/
def FailsWith (allowed : ε → Prop) (program : Except ε α) : Prop :=
  ∀ error, program = .error error → allowed error

namespace FailsWith

theorem ok (value : α) : FailsWith allowed (.ok value : Except ε α) := by
  intro error failed
  cases failed

theorem error {error : ε} (holds : allowed error) :
    FailsWith allowed (.error error : Except ε α) := by
  intro other failed
  cases failed
  exact holds

theorem bind {program : Except ε α} {next : α → Except ε β} (first : FailsWith allowed program)
    (second : ∀ value, FailsWith allowed (next value)) : FailsWith allowed (program >>= next) := by
  intro error failed
  cases ran : program with
  | ok value =>
    rw [ran] at failed
    exact second value error failed
  | error failure =>
    rw [ran] at failed
    cases failed
    exact first _ ran

theorem mapM {body : α → Except ε β} (each : ∀ item, FailsWith allowed (body item))
    (items : List α) : FailsWith allowed (items.mapM body) := by
  induction items with
  | nil => exact ok []
  | cons item items ih =>
    rw [List.mapM_cons]
    refine bind (each item) fun value => ?_
    exact bind ih fun values => ok _

theorem forIn {body : α → σ → Except ε (ForInStep σ)}
    (each : ∀ item state, FailsWith allowed (body item state)) (items : List α) (start : σ) :
    FailsWith allowed (ForIn.forIn items start body) := by
  induction items generalizing start with
  | nil => exact ok start
  | cons item items ih =>
    rw [List.forIn_cons]
    refine bind (each item start) fun step => ?_
    cases step with
    | done state => exact ok state
    | yield state => exact ih state

end FailsWith

end DiagnosticAdapter.Effects
