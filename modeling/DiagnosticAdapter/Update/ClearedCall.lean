import DiagnosticAdapter.Update.SingleExecution

/-!
# Cleared calls

A call that `check_apply_allowed` has let pass, and the task it spawns.  No call gets there
but by the answer of the check.
-/

namespace DiagnosticAdapter.Update

/-- Past `check_apply_allowed`. -/
def StartCall.isCleared : StartCall → Bool
  | .readingExecutions .. | .checkingBackup | .writingExecutions _ | .spawning .. => true
  | _ => false

namespace ExecutionState

def IsChecking (state : ExecutionState) (call : Nat) : Prop :=
  ∃ mode collections, state.calls call = .checkingAllowed mode collections

def IsCleared (state : ExecutionState) (call : Nat) : Prop :=
  (state.calls call).isCleared = true ∨ (state.tasks call).isUnfinished = true

def IsExecuting (state : ExecutionState) (task : Nat) : Prop :=
  ∃ mode id, state.tasks task = .executing mode id

variable {state after : ExecutionState} {event : ExecutionEvent} {call : Nat}

theorem IsChecking.owns (checking : state.IsChecking call) : state.Owns call := by
  obtain ⟨mode, collections, equation⟩ := checking
  left
  rw [equation]
  rfl

theorem IsCleared.owns (cleared : state.IsCleared call) : state.Owns call := by
  apply cleared.imp_left
  cases state.calls call <;> first | exact fun _ => rfl | exact nofun

theorem IsExecuting.isCleared (executing : state.IsExecuting call) : state.IsCleared call := by
  obtain ⟨mode, id, equation⟩ := executing
  right
  rw [equation]
  rfl

/-- Nothing but its own resumption makes a call advance. -/
structure KeptBy (state after : ExecutionState) (call : Nat) : Prop where
  checking : after.IsChecking call → state.IsChecking call
  cleared : after.IsCleared call → state.IsCleared call
  executing : after.IsExecuting call → state.IsExecuting call

theorem KeptBy.of_eq (calls : after.calls call = state.calls call)
    (tasks : after.tasks call = state.tasks call) : KeptBy state after call where
  checking checking := by simpa [IsChecking, calls] using checking
  cleared cleared := by simpa [IsCleared, calls, tasks] using cleared
  executing executing := by simpa [IsExecuting, tasks] using executing

theorem KeptBy.of_entered (phase : StartCall) (calls : after.calls call = phase)
    (notChecking : ∀ mode collections, phase ≠ .checkingAllowed mode collections)
    (notCleared : phase.isCleared = false)
    (tasks : after.tasks call = state.tasks call) : KeptBy state after call where
  checking := by
    rintro ⟨mode, collections, equation⟩
    exact absurd (calls.symm.trans equation) (notChecking mode collections)
  cleared := by
    rintro (cleared | unfinished)
    · rw [calls, notCleared] at cleared
      cases cleared
    · exact .inr (tasks ▸ unfinished)
  executing := by
    rintro ⟨mode, id, equation⟩
    exact ⟨mode, id, tasks ▸ equation⟩

theorem KeptBy.of_task (phase : ExecutionTask) (calls : after.calls call = state.calls call)
    (tasks : after.tasks call = phase) (unfinished : (state.tasks call).isUnfinished = true)
    (behind : ∀ mode id, phase ≠ .executing mode id) : KeptBy state after call where
  checking checking := by simpa [IsChecking, calls] using checking
  cleared _ := .inr unfinished
  executing := by
    rintro ⟨mode, id, equation⟩
    exact absurd (tasks.symm.trans equation) (behind mode id)

end ExecutionState

open ExecutionState in
theorem ExecutionStep.keeps {state after : ExecutionState} {event : ExecutionEvent} {call : Nat}
    (taken : ExecutionStep state event after) (other : ∀ answers, event ≠ .resume call answers) :
    KeptBy state after call := by
  cases taken with
  | refused =>
    by_cases same : call = state.issued
    · exact .of_entered (.returned (.error .executionConflict)) (by simp [enter, same]) (by simp)
        rfl rfl
    · exact .of_eq (by simp [enter, same]) rfl
  | @started mode =>
    by_cases same : call = state.issued
    · exact .of_entered (.gettingPending mode) (by simp [enter, same]) (by simp) rfl rfl
    · exact .of_eq (by simp [enter, same]) rfl
  | @advanced resumed answers | @inserted resumed answers =>
    have ne : call ≠ resumed := by
      rintro rfl
      exact other answers rfl
    exact .of_eq (by simp [enter, ne]) rfl
  | @failed resumed answers =>
    have ne : call ≠ resumed := by
      rintro rfl
      exact other answers rfl
    exact .of_eq (by simp [fail, enter, ne]) rfl
  | @spawned resumed answers =>
    have ne : call ≠ resumed := by
      rintro rfl
      exact other answers rfl
    exact .of_eq (by simp [enter, enterTask, ne]) (by simp [enter, enterTask, ne])
  | @dropped dropped =>
    by_cases same : call = dropped
    · exact .of_entered .dropped (by simp [enter, same]) (by simp) rfl rfl
    · exact .of_eq (by simp [enter, same]) rfl
  | @finished task result mode id executing =>
    by_cases same : call = task
    · subst same
      exact .of_task .finishing rfl (by simp [enterTask]) (by rw [executing]; rfl) (by simp)
    · exact .of_eq rfl (by simp [enterTask, same])
  | @released task finishing =>
    by_cases same : call = task
    · subst same
      exact .of_task .finished rfl (by simp [enterTask]) (by rw [finishing]; rfl) (by simp)
    · exact .of_eq rfl (by simp [enterTask, same])

open ExecutionState in
theorem ExecutionStep.resume_other {state after : ExecutionState} {call other : Nat}
    {answers : StartAnswers} (taken : ExecutionStep state (.resume call answers) after)
    (ne : other ≠ call) :
    after.calls other = state.calls other ∧ after.tasks other = state.tasks other := by
  cases taken with
  | advanced => exact ⟨by simp [enter, ne], rfl⟩
  | failed => exact ⟨by simp [fail, enter, ne], rfl⟩
  | inserted => exact ⟨by simp [enter, ne], rfl⟩
  | spawned =>
    exact ⟨by simp [enter, enterTask, ne], by simp [enter, enterTask, ne]⟩

theorem ExecutionState.isCleared_enter {state : ExecutionState} {call : Nat} {phase : StartCall} :
    (state.enter call phase).IsCleared call ↔
      phase.isCleared = true ∨ (state.tasks call).isUnfinished = true := by
  simp [IsCleared, enter]

/-- Only the answer of `check_apply_allowed` clears a call. -/
theorem ExecutionState.isCleared_of_resume {state after : ExecutionState} {call : Nat}
    {answers : StartAnswers} (taken : state.resume call answers = some after)
    (cleared : after.IsCleared call) :
    state.IsCleared call ∨ state.IsChecking call ∧ answers.checkApplyAllowed = .ok () := by
  have notYet : ∀ phase : StartCall, phase.isCleared = false →
      (state.enter call phase).IsCleared call → state.IsCleared call := by
    intro phase notCleared entered
    rcases isCleared_enter.mp entered with impossible | unfinished
    · rw [notCleared] at impossible
      cases impossible
    · exact .inr unfinished
  have already : (state.calls call).isCleared = true → state.IsCleared call := .inl
  unfold resume at taken
  split at taken
  case h_1 mode equation =>
    cases taken
    exact .inl (notYet _ rfl cleared)
  case h_2 mode pendingMdd equation =>
    cases taken
    exact .inl (notYet _ rfl cleared)
  case h_3 mode collections equation =>
    split at taken
    case h_1 =>
      cases taken
      exact .inl (notYet _ rfl cleared)
    case h_2 allowed => exact .inr ⟨⟨mode, collections, equation⟩, allowed⟩
  case h_4 mode collections equation => exact .inl (already (by rw [equation]; rfl))
  case h_5 equation => exact .inl (already (by rw [equation]; rfl))
  case h_6 mode equation => exact .inl (already (by rw [equation]; rfl))
  case h_7 mode id equation => exact .inl (already (by rw [equation]; rfl))
  all_goals cases taken

end DiagnosticAdapter.Update
