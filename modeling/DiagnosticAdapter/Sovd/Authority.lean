import DiagnosticAdapter.Sovd.Frame

/-!
# Who may change a lock

A held lock changes by a request of its owner, by its own deletion task or by the
release of a vehicle lock.  A POST that is answered with an error should change nothing;
the functional-group POST deletes the caller's ECU locks before it can be refused.
-/

namespace DiagnosticAdapter.Sovd

open Effects Function

variable {ecuFunctionalGroups : String → Except ApiError (List String)}

variable {answers : Answers} {action : Action} {phase next : Phase} {entity : Entity}

/-- Where a POST has a new lock in hand no lock is held. -/
def Vacant (state : State) : Prop :=
  ∀ pid entity lock, (state.processes pid).phase.inHand? = some (entity, lock) →
    state.locks.lockAt entity = none

variable {event : Event}

theorem Vacant.step {state next : State} (vacant : Vacant state)
    (coherent : Coherent state) (stepped : Step ecuFunctionalGroups state event next) :
    Vacant next := by
  rcases State.step_cases stepped with ⟨call, rfl, rfl⟩ | ⟨pid, level, mode, rfl, -, -, -, rfl⟩ |
    ⟨pid, answers, action, phase, rfl, ready, resumed, rfl⟩
  · intro pid entity lock inHand
    rw [State.spawn_processes, update_apply] at inHand
    split at inHand
    case isTrue => cases call <;> cases inHand
    case isFalse => exact vacant pid entity lock inHand
  · intro other entity lock inHand
    rw [State.handOver_phase] at inHand
    exact vacant other entity lock inHand
  · have turn := resume_turn resumed
    intro other entity lock inHand
    rw [State.enter_locks]
    rw [State.enter_processes] at inHand
    by_cases same : other = pid
    · subst same
      rw [update_self] at inHand
      obtain ⟨free, writesNothing⟩ := turn.free_of_inHand inHand
      rw [State.lockAt_apply, writesNothing]
      exact free
    · rw [update_of_ne same] at inHand
      have before : (state.processes other).phase.inHand? = some (entity, lock) := by
        rcases State.apply_processes action state other with unchanged | aborted | ⟨-, task, new⟩
        · rw [unchanged] at inHand
          exact inHand
        · rw [aborted] at inHand
          cases inHand
        · rw [new] at inHand
          cases inHand
      have guarded : (entity.lockType, .write) ∈ (state.processes other).holds :=
        List.mem_append_left _ (Phase.write_of_inHand? before)
      rw [coherent.lockAt_apply_of_guard ready turn same guarded]
      exact vacant other entity lock before

theorem Vacant.initial (ecuNames : List String) : Vacant (State.initial ecuNames) := by
  intro pid entity lock inHand
  cases inHand

end DiagnosticAdapter.Sovd
