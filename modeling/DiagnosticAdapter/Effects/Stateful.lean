import Mathlib.Data.List.Basic

/-!
# Programs on a state that survives a failure

A failed `EStateM` program leaves the state it had reached, so that a caller may go on
from there.  `Obeys` says what a program does to the state whether it fails or not;
`Agrees` says that two programs do the same to related states.
-/

namespace DiagnosticAdapter.Effects

universe u

variable {ε σ τ α β : Type u}

def finalState : EStateM.Result ε σ α → σ
  | .ok _ state => state
  | .error _ state => state

def error? : EStateM.Result ε σ α → Option ε
  | .ok _ _ => none
  | .error error _ => some error

@[simp]
theorem finalState_ok (value : α) (state : σ) :
    finalState (.ok value state : EStateM.Result ε σ α) = state := rfl

@[simp]
theorem finalState_error (error : ε) (state : σ) :
    finalState (.error error state : EStateM.Result ε σ α) = state := rfl

@[simp]
theorem error?_ok (value : α) (state : σ) :
    error? (.ok value state : EStateM.Result ε σ α) = none := rfl

@[simp]
theorem error?_error (error : ε) (state : σ) :
    error? (.error error state : EStateM.Result ε σ α) = some error := rfl

variable {next : α → EStateM ε σ β} {program : EStateM ε σ α}

theorem bind_of_ok {start state : σ} {value : α} (ran : program start = .ok value state) :
    (program >>= next) start = next value state := by
  change EStateM.bind program next start = _
  rw [EStateM.bind, ran]

theorem bind_of_error {start state : σ} {error : ε} (ran : program start = .error error state) :
    (program >>= next) start = .error error state := by
  change EStateM.bind program next start = _
  rw [EStateM.bind, ran]

variable {result : β}

theorem exists_of_bind_eq_ok {start final : σ} (ran : (program >>= next) start = .ok result final) :
    ∃ value state, program start = .ok value state ∧ next value state = .ok result final := by
  cases first : program start with
  | ok value state =>
    rw [bind_of_ok first] at ran
    exact ⟨value, state, rfl, ran⟩
  | error error state =>
    rw [bind_of_error first] at ran
    cases ran

theorem bind_eq_ok_iff {start final : σ} : (program >>= next) start = .ok result final ↔
      ∃ value state, program start = .ok value state ∧ next value state = .ok result final := by
  constructor
  · exact exists_of_bind_eq_ok
  · intro parts
    obtain ⟨value, state, first, second⟩ := parts
    rw [bind_of_ok first]
    exact second

theorem pure_eq_ok_iff {value result : α} {start final : σ} :
    (Pure.pure value : EStateM ε σ α) start = .ok result final ↔
      result = value ∧ final = start := by
  constructor
  · intro ran
    cases ran
    exact ⟨rfl, rfl⟩
  · intro same
    obtain ⟨rfl, rfl⟩ := same
    rfl

theorem exists_of_except_bind {program : Except ε α} {next : α → Except ε β}
    (ran : (program >>= next) = .ok result) :
    ∃ value, program = .ok value ∧ next value = .ok result := by
  cases program with
  | ok value => exact ⟨value, rfl, ran⟩
  | error error => cases ran

theorem except_bind_eq_ok_iff {program : Except ε α} {next : α → Except ε β} :
    (program >>= next) = .ok result ↔ ∃ value, program = .ok value ∧ next value = .ok result := by
  constructor
  · exact exists_of_except_bind
  · intro parts
    obtain ⟨value, rfl, second⟩ := parts
    exact second

/-- Hand an error to the caller as a value. -/
def attempt (program : EStateM ε σ α) : EStateM ε σ (Except ε α) := fun start =>
  match program start with
  | .ok value state => .ok (.ok value) state
  | .error error state => .ok (.error error) state

section Ensures

variable {returns : α → σ → Prop} {fails : ε → σ → Prop} {start : σ}

def Ensures (program : EStateM ε σ α) (start : σ) (returns : α → σ → Prop)
    (fails : ε → σ → Prop) : Prop :=
  match program start with
  | .ok value state => returns value state
  | .error error state => fails error state

theorem Ensures.bind {program : EStateM ε σ α} {next : α → EStateM ε σ β}
    {after : β → σ → Prop} (first : Ensures program start returns fails)
    (second : ∀ value state, returns value state → Ensures (next value) state after fails) :
    Ensures (program >>= next) start after fails := by
  unfold Ensures at first ⊢
  cases ran : program start with
  | ok value state =>
    rw [ran] at first
    rw [bind_of_ok ran]
    exact second value state first
  | error error state =>
    rw [ran] at first
    rw [bind_of_error ran]
    exact first

theorem Ensures.mono {program : EStateM ε σ α} {others : α → σ → Prop} {mishaps : ε → σ → Prop}
    (ensures : Ensures program start returns fails)
    (ok : ∀ value state, returns value state → others value state)
    (error : ∀ error state, fails error state → mishaps error state) :
    Ensures program start others mishaps := by
  unfold Ensures at ensures ⊢
  cases ran : program start with
  | ok value state =>
    rw [ran] at ensures
    exact ok value state ensures
  | error failure state =>
    rw [ran] at ensures
    exact error failure state ensures

theorem Ensures.ended {program : EStateM ε σ α} {ends : Option ε → σ → Prop}
    (ensures : Ensures program start (fun _ state => ends none state)
      (fun error state => ends (some error) state)) :
    ends (error? (program start)) (finalState (program start)) := by
  unfold Ensures at ensures
  cases ran : program start with
  | ok value state | error error state =>
    rw [ran] at ensures
    exact ensures

theorem Ensures.pure {value : α} (holds : returns value start) :
    Ensures (Pure.pure value) start returns fails :=
  holds

theorem Ensures.get :
    Ensures (get : EStateM ε σ σ) start (fun value state => value = start ∧ state = start) fails :=
  ⟨rfl, rfl⟩

theorem Ensures.throw {error : ε} (holds : fails error start) :
    Ensures (throw error) start returns fails :=
  holds

theorem Ensures.attempt {program : EStateM ε σ α}
    (ensures : Ensures program start returns fails) {mishaps : ε → σ → Prop} :
    Ensures (attempt program) start (fun result state => match result with
      | .ok value => returns value state
      | .error error => fails error state) mishaps := by
  unfold Ensures Effects.attempt at *
  cases ran : program start with
  | ok value state | error error state =>
    rw [ran] at ensures
    exact ensures

end Ensures

section Obeys

variable {spec : σ → Option ε → σ → Prop}

/-- `spec` relates every start of the program, the error it ends with if there is one,
and the state it ends in. -/
def Obeys (spec : σ → Option ε → σ → Prop) (program : EStateM ε σ α) : Prop :=
  ∀ start, spec start (error? (program start)) (finalState (program start))

theorem Obeys.of_ok {program : EStateM ε σ α} {start final : σ} {value : α}
    (obeys : Obeys spec program) (ran : program start = .ok value final) :
    spec start none final := by
  have reached := obeys start
  rw [ran] at reached
  exact reached

theorem Obeys.of_error {program : EStateM ε σ α} {start final : σ} {error : ε}
    (obeys : Obeys spec program) (ran : program start = .error error final) :
    spec start (some error) final := by
  have reached := obeys start
  rw [ran] at reached
  exact reached

theorem Obeys.bind {program : EStateM ε σ α} {next : α → EStateM ε σ β}
    (composes : ∀ {start middle final : σ} {error : Option ε}, spec start none middle →
      spec middle error final → spec start error final)
    (first : Obeys spec program) (second : ∀ value, Obeys spec (next value)) :
    Obeys spec (program >>= next) := by
  intro start
  cases ran : program start with
  | ok value middle =>
    rw [bind_of_ok ran]
    exact composes (first.of_ok ran) (second value middle)
  | error error middle =>
    rw [bind_of_error ran]
    exact first.of_error ran

end Obeys

section Agrees

variable {related : σ → τ → Prop} {escaped : τ → Prop}

/-- Both runs end alike, in related states. -/
inductive SameOutcome (related : σ → τ → Prop) : EStateM.Result ε σ α → EStateM.Result ε τ α → Prop
  | ok {left : σ} {right : τ} (value : α) :
      related left right → SameOutcome related (.ok value left) (.ok value right)
  | error {left : σ} {right : τ} (error : ε) :
      related left right → SameOutcome related (.error error left) (.error error right)

/-- From related states the programs end alike, unless the second one escapes. -/
def Agrees (related : σ → τ → Prop) (escaped : τ → Prop)
    (left : EStateM ε σ α) (right : EStateM ε τ α) : Prop :=
  ∀ s t, related s t → escaped (finalState (right t)) ∨ SameOutcome related (left s) (right t)

theorem Agrees.bind {left : EStateM ε σ α} {right : EStateM ε τ α}
    {leftNext : α → EStateM ε σ β} {rightNext : α → EStateM ε τ β}
    (first : Agrees related escaped left right)
    (second : ∀ value, Agrees related escaped (leftNext value) (rightNext value))
    (stays : ∀ value t, escaped t → escaped (finalState (rightNext value t))) :
    Agrees related escaped (left >>= leftNext) (right >>= rightNext) := by
  intro s t start
  obtain gone | same := first s t start
  · left
    cases ran : right t with
    | ok value middle =>
      rw [ran] at gone
      rw [bind_of_ok ran]
      exact stays value middle gone
    | error error middle =>
      rw [ran] at gone
      rw [bind_of_error ran]
      exact gone
  · generalize leftRan : left s = leftResult at same
    generalize rightRan : right t = rightResult at same
    cases same with
    | ok value reached =>
      rw [bind_of_ok leftRan, bind_of_ok rightRan]
      exact second value _ _ reached
    | error error reached =>
      rw [bind_of_error leftRan, bind_of_error rightRan]
      exact .inr (.error error reached)

end Agrees

end DiagnosticAdapter.Effects
