import DiagnosticAdapter.Kernel.Scoped

/-!
# Decoders fail with ordinary errors

By induction on how a decoder is put together.
-/

namespace DiagnosticAdapter.Kernel

open Codec Effects Decoder

variable {conv : Conversions} {α β : Type}

def FailsOrdinarily (decoder : Decoder conv α) : Prop :=
  Obeys (fun _ failure? _ => ∀ failure, failure? = some failure → Ordinary failure.error) decoder

namespace FailsOrdinarily

theorem bind {decoder : Decoder conv α} {next : α → Decoder conv β}
    (first : FailsOrdinarily decoder) (second : ∀ value, FailsOrdinarily (next value)) :
    FailsOrdinarily (decoder >>= next) :=
  Obeys.bind (fun _ ended => ended) first second

theorem of_ok {decoder : Decoder conv α}
    (succeeds : ∀ state, ∃ value final, decoder state = .ok value final) :
    FailsOrdinarily decoder := by
  intro state failure failed
  obtain ⟨value, final, ran⟩ := succeeds state
  rw [ran] at failed
  cases failed

theorem pure (value : α) : FailsOrdinarily (Pure.pure value : Decoder conv α) :=
  of_ok fun state => ⟨value, state, rfl⟩

theorem inView {body : Decoder conv α} (start stop : Nat) (ordinary : FailsOrdinarily body) :
    FailsOrdinarily (inView start stop body) := by
  refine bind ?_ fun _ => bind ?_ fun value => bind ?_ fun _ => pure value
  · intro state failure failed
    unfold pushSlice Payload.pushSlice at failed
    split at failed
    · cases failed
    · rename_i error pushed
      cases failed
      split at pushed
      · cases pushed
        trivial
      · cases pushed
  · intro state failure failed
    unfold leavingView at failed
    cases ran : body state with
    | ok value final =>
      rw [ran] at failed
      cases failed
    | error inner final =>
      rw [ran] at failed
      cases failed
      exact ordinary.of_error ran inner rfl
  · intro state failure failed
    unfold popSlice Payload.popSlice at failed
    split at failed
    · cases failed
    · rename_i error popped
      cases failed
      split at popped
      · cases popped
        trivial
      · cases popped

theorem swallow {body : Decoder conv α} (ignored : DiagServiceError → Bool)
    (ordinary : FailsOrdinarily body) : FailsOrdinarily (swallow ignored body) := by
  intro state failure failed
  unfold Decoder.swallow at failed
  cases ran : body state with
  | ok value final =>
    rw [ran] at failed
    cases failed
  | error inner final =>
    rw [ran] at failed
    dsimp only at failed
    split at failed
    · cases failed
    · cases failed
      exact ordinary.of_error ran _ rfl

theorem onFreshData {body : Decoder conv Unit} (ordinary : FailsOrdinarily body) :
    FailsOrdinarily (onFreshData body) := by
  intro state failure failed
  unfold Decoder.onFreshData at failed
  cases ran : body { state with data := .empty } with
  | ok value final =>
    rw [ran] at failed
    cases failed
  | error inner final =>
    rw [ran] at failed
    cases failed
    exact ordinary.of_error ran _ rfl

end FailsOrdinarily

theorem closed_failsOrdinarily {strict : Prop} (strictly : strict) :
    @Closed conv strict FailsOrdinarily where
  sight act ordinary := by
    intro state failure failed
    have steps := ordinary strictly state
    unfold onSight at failed
    cases ended : act state.sight with
    | mk outcome target =>
      rw [ended] at steps failed
      cases outcome with
      | ok value => cases failed
      | error error =>
        cases failed
        exact steps error rfl
  bind := .bind
  inView start stop inner := inner.inView start stop
  swallow ignored inner := inner.swallow ignored
  onFreshData := .onFreshData
  consume := .of_ok fun _ => ⟨_, _, rfl⟩
  exhausted := .of_ok fun _ => ⟨_, _, rfl⟩
  byteCount := .of_ok fun _ => ⟨_, _, rfl⟩
  report := .of_ok fun _ => ⟨_, _, rfl⟩

theorem Scoped.failsOrdinarily {strict : Prop} {decoder : Decoder conv α}
    (scope : Scoped strict decoder) (holds : strict) : FailsOrdinarily decoder :=
  (closed_failsOrdinarily holds).of_scoped scope

end DiagnosticAdapter.Kernel
