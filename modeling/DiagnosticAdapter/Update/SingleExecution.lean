import DiagnosticAdapter.Effects.Ownership
import DiagnosticAdapter.Update.Executions

/-!
# A single update execution

The busy flag has one owner at a time: an open call, an unfinished task, or a call that
was dropped while it was open.  Nobody clears the flag of a dropped call.
-/

namespace DiagnosticAdapter.Update

open Effects

inductive ExecutionStep (state : ExecutionState) : ExecutionEvent → ExecutionState → Prop where
  | refused {mode : ExecutionMode} :
      state.updateInProgress = true →
      ExecutionStep state (.start mode)
        ({ state with issued := state.issued + 1 }.enter state.issued
          (.returned (.error .executionConflict)))
  | started {mode : ExecutionMode} :
      state.updateInProgress = false →
      ExecutionStep state (.start mode)
        ({ state with issued := state.issued + 1, updateInProgress := true }.enter state.issued
          (.gettingPending mode))
  | advanced {call : Nat} {answers : StartAnswers} {phase : StartCall} :
      (state.calls call).awaits = true → phase.awaits = true →
      ExecutionStep state (.resume call answers) (state.enter call phase)
  | failed {call : Nat} {answers : StartAnswers} {error : RuntimeUpdateError} :
      (state.calls call).awaits = true →
      ExecutionStep state (.resume call answers) (state.fail call error)
  | inserted {call : Nat} {answers : StartAnswers} {mode : ExecutionMode} :
      state.calls call = .writingExecutions mode →
      ExecutionStep state (.resume call answers)
        ({ state with
          executions := state.executions.retainRunning.insert answers.newV4
            ⟨answers.newV4, mode, .running⟩ }.enter call (.spawning mode answers.newV4))
  | spawned {call : Nat} {answers : StartAnswers} {mode : ExecutionMode} {id : ExecutionId} :
      state.calls call = .spawning mode id →
      ExecutionStep state (.resume call answers)
        ((state.enterTask call (.executing mode id)).enter call (.returned (.ok id)))
  | dropped {call : Nat} :
      (state.calls call).awaits = true →
      ExecutionStep state (.drop call) (state.enter call .dropped)
  | finished {task : Nat} {result : Except RuntimeUpdateError Unit} {mode : ExecutionMode}
      {id : ExecutionId} :
      state.tasks task = .executing mode id →
      ExecutionStep state (.finish task result)
        ({ state with
          executions := state.executions.setStatus id (.of result)
          writer := some task }.enterTask task .finishing)
  | released {task : Nat} :
      state.tasks task = .finishing →
      ExecutionStep state (.release task)
        ({ state with updateInProgress := false, writer := none }.enterTask task .finished)

variable {state after : ExecutionState} {event : ExecutionEvent}

theorem StartCall.awaits_of_checkMode {mode : ExecutionMode} {collections : UpdateCollections}
    {phase : StartCall} (checked : checkMode mode collections = .ok phase) :
    phase.awaits = true := by
  cases mode with
  | apply =>
    simp only [checkMode] at checked
    split at checked
    case isTrue =>
      cases checked
      rfl
    case isFalse => cases checked
  | rollback | cleanup =>
    cases checked
    rfl

theorem ExecutionStep.of_resume {call : Nat} {answers : StartAnswers}
    (taken : state.resume call answers = some after) :
    ExecutionStep state (.resume call answers) after := by
  unfold ExecutionState.resume at taken
  split at taken
  case h_1 mode equation =>
    cases taken
    exact .advanced (by rw [equation]; rfl) rfl
  case h_2 mode pendingMdd equation =>
    cases taken
    exact .advanced (by rw [equation]; rfl) rfl
  case h_3 mode collections equation =>
    have awaits : (state.calls call).awaits = true := by rw [equation]; rfl
    split at taken
    · cases taken
      exact .failed awaits
    · cases taken
      exact .advanced awaits rfl
  case h_4 mode collections equation =>
    have awaits : (state.calls call).awaits = true := by rw [equation]; rfl
    split at taken
    · cases taken
    · split at taken
      · cases taken
        exact .failed awaits
      · split at taken
        · cases taken
          exact .failed awaits
        · rename_i checked
          cases taken
          exact .advanced awaits (StartCall.awaits_of_checkMode checked)
  case h_5 equation =>
    have awaits : (state.calls call).awaits = true := by rw [equation]; rfl
    split at taken
    · cases taken
      exact .failed awaits
    · cases taken
      exact .failed awaits
    · cases taken
      exact .advanced awaits rfl
  case h_6 mode equation =>
    split at taken
    · cases taken
    · cases taken
      exact .inserted equation
  case h_7 mode id equation =>
    cases taken
    exact .spawned equation
  all_goals cases taken

theorem ExecutionStep.of_step (taken : state.step event = some after) :
    ExecutionStep state event after := by
  cases event <;> simp only [ExecutionState.step] at taken
  case start mode =>
    cases taken
    unfold ExecutionState.start
    by_cases busy : state.updateInProgress = true
    · have refused : ExecutionStep state (.start mode) _ := .refused busy
      simpa [busy] using refused
    · simp only [busy]
      exact .started (by simpa using busy)
  case resume call answers => exact .of_resume taken
  case drop call =>
    split at taken
    case isTrue awaits =>
      cases taken
      exact .dropped awaits
    case isFalse => cases taken
  case finish task result =>
    split at taken
    case h_1 equation =>
      split at taken
      · cases taken
      · cases taken
        exact .finished equation
    case h_2 => cases taken
  case release task =>
    split at taken
    case h_1 equation =>
      cases taken
      exact .released equation
    case h_2 => cases taken

namespace Executions

section

variable {executions : Executions} {execution : UpdateExecution}

theorem lookup_of_retainRunning {id : ExecutionId}
    (present : executions.retainRunning.lookup id = some execution) :
    executions.lookup id = some execution ∧ execution.status = .running := by
  have kept := List.mem_filter.mp (AList.mem_lookup_iff.mp present)
  exact ⟨AList.mem_lookup_iff.mpr kept.1, by simpa using kept.2⟩

theorem lookup_of_setStatus {id other : ExecutionId} {status : ExecutionStatus}
    (present : (executions.setStatus id status).lookup other = some execution) :
    execution.status = status ∨ other ≠ id ∧ executions.lookup other = some execution := by
  unfold setStatus at present
  by_cases same : other = id
  · subst same
    left
    split at present
    · rw [AList.lookup_insert] at present
      cases present
      rfl
    · rename_i absent
      rw [absent] at present
      cases present
  · right
    refine ⟨same, ?_⟩
    split at present
    · rwa [AList.lookup_insert_ne same] at present
    · exact present

end

end Executions

theorem ExecutionStatus.of_ne_running (result : Except RuntimeUpdateError Unit) :
    ExecutionStatus.of result ≠ .running := by
  cases result <;> exact nofun

def StartCall.owns : StartCall → Bool
  | .dropped => true
  | call => call.isOpen

namespace ExecutionState

def Owns (state : ExecutionState) (call : Nat) : Prop :=
  (state.calls call).owns = true ∨ (state.tasks call).isUnfinished = true

/-- The call or its task that has a running execution with this id. -/
def Runs (state : ExecutionState) (call : Nat) (id : ExecutionId) : Prop :=
  (∃ mode, state.calls call = .spawning mode id) ∨ ∃ mode, state.tasks call = .executing mode id

structure Owned (state : ExecutionState) : Prop where
  sole : SoleOwner state.updateInProgress state.Owns
  running : ∀ id execution, state.executions.lookup id = some execution →
    execution.status = .running → ∃ call, state.Runs call id
  /-- A call that has a task has returned. -/
  spawned : ∀ call, state.tasks call ≠ .absent → ∃ result, state.calls call = .returned result
  unissued : ∀ call, state.issued ≤ call → state.calls call = .absent

end ExecutionState

theorem StartCall.isOpen_of_awaits {call : StartCall} (awaits : call.awaits = true) :
    call.isOpen = true := by
  cases call <;> first | exact awaits | cases awaits

theorem StartCall.owns_of_isOpen {call : StartCall} (isOpen : call.isOpen = true) :
    call.owns = true := by
  cases call <;> first | exact isOpen | cases isOpen

theorem StartCall.owns_of_awaits {call : StartCall} (awaits : call.awaits = true) :
    call.owns = true :=
  owns_of_isOpen (isOpen_of_awaits awaits)

theorem ExecutionState.Runs.owns {call : Nat} {id : ExecutionId} (runs : state.Runs call id) :
    state.Owns call := by
  rcases runs with ⟨mode, spawning⟩ | ⟨mode, executing⟩
  · left
    rw [spawning]
    rfl
  · right
    rw [executing]
    rfl

namespace ExecutionState.Owned

theorem initial : Owned .initial where
  sole := .of_none (by rintro call (owns | unfinished) <;> contradiction)
  running id execution present := by cases present
  spawned call present := absurd rfl present
  unissued call _ := rfl

variable {call : Nat}

section

variable (owned : state.Owned)

include owned

theorem task_absent (owns : (state.calls call).owns = true) : state.tasks call = .absent := by
  by_contra present
  obtain ⟨result, returned⟩ := owned.spawned call present
  rw [returned] at owns
  cases owns

theorem absent_task_of_unissued (unissued : state.issued ≤ call) : state.tasks call = .absent := by
  by_contra present
  obtain ⟨result, returned⟩ := owned.spawned call present
  rw [owned.unissued call unissued] at returned
  cases returned

theorem lt_issued (owns : (state.calls call).owns = true) : call < state.issued := by
  by_contra unissued
  rw [owned.unissued call (Nat.le_of_not_lt unissued)] at owns
  cases owns

theorem idle_of_awaits (awaits : (state.calls call).awaits = true) (id : ExecutionId) :
    ¬ state.Runs call id := by
  rintro (⟨mode, spawning⟩ | ⟨mode, executing⟩)
  · rw [spawning] at awaits
    cases awaits
  · rw [owned.task_absent (StartCall.owns_of_awaits awaits)] at executing
    cases executing

end

variable {id : ExecutionId}

theorem none_running (owned : state.Owned) (owns : state.Owns call)
    (idle : ∀ id, ¬ state.Runs call id) {execution : UpdateExecution}
    (present : state.executions.lookup id = some execution) : execution.status ≠ .running := by
  intro running
  obtain ⟨runner, runs⟩ := owned.running id execution present running
  have same := owned.sole.one runner call runs.owns owns
  exact idle id (same ▸ runs)

theorem enter {base : ExecutionState} {phase : StartCall} (owned : state.Owned)
    (calls : base.calls = state.calls) (tasks : base.tasks = state.tasks)
    (taskless : state.tasks call = .absent) (issued : state.issued ≤ base.issued)
    (bounded : call < base.issued)
    (sole : SoleOwner base.updateInProgress (base.enter call phase).Owns)
    (running : ∀ id execution, base.executions.lookup id = some execution →
      execution.status = .running → ∃ runner, (base.enter call phase).Runs runner id) :
    (base.enter call phase).Owned := by
  refine ⟨sole, running, ?_, ?_⟩
  · intro other present
    have taskOf : state.tasks other ≠ .absent := tasks ▸ present
    have ne : other ≠ call := by
      rintro rfl
      exact taskOf taskless
    obtain ⟨result, returned⟩ := owned.spawned other taskOf
    exact ⟨result, by simp [ExecutionState.enter, ne, calls, returned]⟩
  · intro other unissued
    have before := owned.unissued other (Nat.le_trans issued unissued)
    have ne : other ≠ call := by
      rintro rfl
      exact absurd bounded (Nat.not_lt.mpr unissued)
    simp [ExecutionState.enter, ne, calls, before]

theorem refused (owned : state.Owned) :
    ({ state with issued := state.issued + 1 }.enter state.issued
      (.returned (.error .executionConflict))).Owned := by
  have fresh : state.calls state.issued = .absent := owned.unissued _ (Nat.le_refl _)
  have taskless := owned.absent_task_of_unissued (Nat.le_refl _)
  refine owned.enter rfl rfl taskless (Nat.le_succ _) (Nat.lt_succ_self _) ?_ ?_
  · apply owned.sole.congr
    intro other
    by_cases same : other = state.issued
    · subst same
      simp [Owns, ExecutionState.enter, taskless, fresh, StartCall.owns, StartCall.isOpen]
    · simp [Owns, ExecutionState.enter, same]
  · intro id execution present running
    obtain ⟨runner, runs⟩ := owned.running id execution present running
    refine ⟨runner, ?_⟩
    by_cases same : runner = state.issued
    · subst same
      simp [Runs, fresh, taskless] at runs
    · simpa [Runs, ExecutionState.enter, same] using runs

theorem started {mode : ExecutionMode} (owned : state.Owned)
    (free : state.updateInProgress = false) :
    ({ state with issued := state.issued + 1, updateInProgress := true }.enter state.issued
      (.gettingPending mode)).Owned := by
  have taskless := owned.absent_task_of_unissued (Nat.le_refl _)
  have sole := owned.sole
  rw [free] at sole
  refine owned.enter rfl rfl taskless (Nat.le_succ _) (Nat.lt_succ_self _) ?_ ?_
  · apply sole.acquire state.issued
    intro other
    by_cases same : other = state.issued
    · subst same
      simp [Owns, ExecutionState.enter, StartCall.owns, StartCall.isOpen]
    · simp [Owns, ExecutionState.enter, same]
  · intro id execution present running
    obtain ⟨runner, runs⟩ := owned.running id execution present running
    exact absurd runs.owns (sole.none_of_free runner)

theorem moved {phase : StartCall} (owned : state.Owned)
    (awaits : (state.calls call).awaits = true) (owns : phase.owns = true) :
    (state.enter call phase).Owned := by
  have owned' := StartCall.owns_of_awaits awaits
  refine owned.enter rfl rfl (owned.task_absent owned') (Nat.le_refl _) (owned.lt_issued owned')
    ?_ ?_
  · apply owned.sole.congr
    intro other
    by_cases same : other = call
    · subst same
      simp [Owns, ExecutionState.enter, owns, owned']
    · simp [Owns, ExecutionState.enter, same]
  · intro id execution present running
    exact absurd running (owned.none_running (.inl owned') (owned.idle_of_awaits awaits) present)

theorem failed {call : Nat} {error : RuntimeUpdateError} (owned : state.Owned)
    (awaits : (state.calls call).awaits = true) : (state.fail call error).Owned := by
  have owned' := StartCall.owns_of_awaits awaits
  have taskless := owned.task_absent owned'
  refine owned.enter rfl rfl taskless (Nat.le_refl _) (owned.lt_issued owned') ?_ ?_
  · apply owned.sole.release (.inl owned' : state.Owns call)
    intro other owns
    by_cases same : other = call
    · subst same
      simp [Owns, ExecutionState.enter, taskless, ExecutionTask.isUnfinished, StartCall.owns,
        StartCall.isOpen] at owns
    · exact ⟨by simpa [Owns, ExecutionState.enter, same] using owns, same⟩
  · intro id execution present running
    exact absurd running (owned.none_running (.inl owned') (owned.idle_of_awaits awaits) present)

theorem inserted {call : Nat} {mode : ExecutionMode} {id : ExecutionId} (owned : state.Owned)
    (writing : state.calls call = .writingExecutions mode) :
    ({ state with
      executions := state.executions.retainRunning.insert id ⟨id, mode, .running⟩ }.enter call
        (.spawning mode id)).Owned := by
  have awaits : (state.calls call).awaits = true := by rw [writing]; rfl
  have owns := StartCall.owns_of_awaits awaits
  refine owned.enter rfl rfl (owned.task_absent owns) (Nat.le_refl _) (owned.lt_issued owns) ?_ ?_
  · apply owned.sole.congr
    intro other
    by_cases same : other = call
    · subst same
      have spawningOwns : (StartCall.spawning mode id).owns = true := rfl
      simp [Owns, ExecutionState.enter, owns, spawningOwns]
    · simp [Owns, ExecutionState.enter, same]
  · intro other execution present running
    by_cases same : other = id
    · subst same
      exact ⟨call, .inl ⟨mode, by simp [ExecutionState.enter]⟩⟩
    · rw [AList.lookup_insert_ne same] at present
      have before := (Executions.lookup_of_retainRunning present).1
      exact absurd running (owned.none_running (.inl owns) (owned.idle_of_awaits awaits) before)

section

variable (owned : state.Owned)

include owned

theorem spawns {mode : ExecutionMode} (spawning : state.calls call = .spawning mode id) :
    ((state.enterTask call (.executing mode id)).enter call (.returned (.ok id))).Owned := by
  have owns : (state.calls call).owns = true := by rw [spawning]; rfl
  refine ⟨?_, ?_, ?_, ?_⟩
  · apply owned.sole.congr
    intro other
    by_cases same : other = call
    · subst same
      simp [Owns, ExecutionState.enter, enterTask, owns, ExecutionTask.isUnfinished]
    · simp [Owns, ExecutionState.enter, enterTask, same]
  · intro other execution present running
    obtain ⟨runner, runs⟩ := owned.running other execution present running
    have same : runner = call := owned.sole.one runner call runs.owns (.inl owns)
    subst same
    have sameId : other = id := by
      rcases runs with ⟨_, otherwise⟩ | ⟨_, executing⟩
      · rw [spawning] at otherwise
        cases otherwise
        rfl
      · rw [owned.task_absent owns] at executing
        cases executing
    subst sameId
    exact ⟨runner, .inr ⟨mode, by simp [ExecutionState.enter, enterTask]⟩⟩
  · intro other present
    by_cases same : other = call
    · subst same
      exact ⟨.ok id, by simp [ExecutionState.enter]⟩
    · obtain ⟨result, returned⟩ := owned.spawned other (by
        simpa [ExecutionState.enter, enterTask, same] using present)
      exact ⟨result, by simp [ExecutionState.enter, enterTask, same, returned]⟩
  · intro other unissued
    have bounded := owned.lt_issued owns
    have ne : other ≠ call := by
      rintro rfl
      exact absurd bounded (Nat.not_lt.mpr unissued)
    simpa [ExecutionState.enter, enterTask, ne] using owned.unissued other unissued

theorem taskMoved {base : ExecutionState} {task : Nat} {phase : ExecutionTask}
    (calls : base.calls = state.calls) (tasks : base.tasks = state.tasks)
    (issued : base.issued = state.issued) (unfinished : (state.tasks task).isUnfinished = true)
    (sole : SoleOwner base.updateInProgress (base.enterTask task phase).Owns)
    (none : ∀ id execution, base.executions.lookup id = some execution → execution.status ≠ .running) :
    (base.enterTask task phase).Owned := by
  refine ⟨sole, ?_, ?_, ?_⟩
  · intro id execution present running
    exact absurd running (none id execution present)
  · intro other present
    obtain ⟨result, returned⟩ := owned.spawned other (by
      by_cases same : other = task
      · subst same
        intro absent
        rw [absent] at unfinished
        cases unfinished
      · simpa [enterTask, same, tasks] using present)
    exact ⟨result, by simpa [enterTask, calls] using returned⟩
  · intro other unissued
    simpa [enterTask, calls] using owned.unissued other (issued ▸ unissued)

theorem finishes {task : Nat} {mode : ExecutionMode} {result : Except RuntimeUpdateError Unit}
    (executing : state.tasks task = .executing mode id) :
    ({ state with
      executions := state.executions.setStatus id (.of result)
      writer := some task }.enterTask task .finishing).Owned := by
  have unfinished : (state.tasks task).isUnfinished = true := by rw [executing]; rfl
  refine owned.taskMoved rfl rfl rfl unfinished ?_ ?_
  · apply owned.sole.congr
    intro other
    by_cases same : other = task
    · subst same
      have stillUnfinished : ExecutionTask.finishing.isUnfinished = true := rfl
      simp [Owns, enterTask, unfinished, stillUnfinished]
    · simp [Owns, enterTask, same]
  · intro other execution present running
    rcases Executions.lookup_of_setStatus present with ended | ⟨ne, before⟩
    · exact ExecutionStatus.of_ne_running result (ended ▸ running)
    · obtain ⟨runner, runs⟩ := owned.running other execution before running
      have same : runner = task := owned.sole.one runner task runs.owns (.inr unfinished)
      subst same
      obtain ⟨_, returned⟩ := owned.spawned runner (by rw [executing]; exact nofun)
      rcases runs with ⟨_, spawning⟩ | ⟨_, otherwise⟩
      · rw [returned] at spawning
        cases spawning
      · rw [executing] at otherwise
        cases otherwise
        exact ne rfl

theorem releases {task : Nat} (finishing : state.tasks task = .finishing) :
    ({ state with updateInProgress := false, writer := none }.enterTask task .finished).Owned := by
  have unfinished : (state.tasks task).isUnfinished = true := by rw [finishing]; rfl
  obtain ⟨_, returned⟩ := owned.spawned task (by rw [finishing]; exact nofun)
  refine owned.taskMoved rfl rfl rfl unfinished ?_ ?_
  · apply owned.sole.release (.inr unfinished : state.Owns task)
    intro other owns
    by_cases same : other = task
    · subst same
      simp [Owns, enterTask, returned, StartCall.owns, StartCall.isOpen,
        ExecutionTask.isUnfinished] at owns
    · exact ⟨by simpa [Owns, enterTask, same] using owns, same⟩
  · intro id execution present
    apply owned.none_running (.inr unfinished) _ present
    rintro other (⟨_, spawning⟩ | ⟨_, executing⟩)
    · rw [returned] at spawning
      cases spawning
    · rw [finishing] at executing
      cases executing

theorem step (taken : ExecutionStep state event after) : after.Owned := by
  cases taken with
  | refused => exact owned.refused
  | started free => exact owned.started free
  | advanced awaits next =>
    exact owned.moved awaits (StartCall.owns_of_awaits next)
  | failed awaits => exact owned.failed awaits
  | inserted writing => exact owned.inserted writing
  | spawned spawning => exact owned.spawns spawning
  | dropped awaits => exact owned.moved awaits rfl
  | finished executing => exact owned.finishes executing
  | released finishing => exact owned.releases finishing

end

end ExecutionState.Owned

abbrev ExecutionRun : List ExecutionEvent → ExecutionState → Prop :=
  Run (fun state event after => state.step event = some after) .initial

namespace ExecutionState

def OneRunning (state : ExecutionState) : Prop :=
  ∀ first second firstExecution secondExecution,
    state.executions.lookup first = some firstExecution →
    state.executions.lookup second = some secondExecution →
    firstExecution.status = .running → secondExecution.status = .running → first = second

def RunningIsBusy (state : ExecutionState) : Prop :=
  ∀ id execution, state.executions.lookup id = some execution → execution.status = .running →
    state.updateInProgress = true

/-- A call is between its `compare_exchange` and its return, or a task has not finished. -/
def InProgress (state : ExecutionState) : Prop :=
  ∃ call, (state.calls call).isOpen = true ∨ (state.tasks call).isUnfinished = true

theorem Owned.oneRunning (owned : state.Owned) : state.OneRunning := by
  intro first second firstExecution secondExecution firstPresent secondPresent firstRuns secondRuns
  obtain ⟨firstRunner, firstBy⟩ := owned.running _ _ firstPresent firstRuns
  obtain ⟨secondRunner, secondBy⟩ := owned.running _ _ secondPresent secondRuns
  have same := owned.sole.one _ _ firstBy.owns secondBy.owns
  subst same
  rcases firstBy with ⟨mode, spawning⟩ | ⟨mode, executing⟩
  · rcases secondBy with ⟨_, alsoSpawning⟩ | ⟨_, executing⟩
    · rw [spawning] at alsoSpawning
      cases alsoSpawning
      rfl
    · rw [owned.task_absent (by rw [spawning]; rfl)] at executing
      cases executing
  · rcases secondBy with ⟨_, spawning⟩ | ⟨_, alsoExecuting⟩
    · rw [owned.task_absent (by rw [spawning]; rfl)] at executing
      cases executing
    · rw [executing] at alsoExecuting
      cases alsoExecuting
      rfl

theorem Owned.runningIsBusy (owned : state.Owned) : state.RunningIsBusy := by
  intro id execution present running
  obtain ⟨runner, runs⟩ := owned.running id execution present running
  exact owned.sole.is_busy runs.owns

theorem Owned.inProgress_iff (owned : state.Owned) :
    (state.updateInProgress = true → state.InProgress) ↔ ∀ call, state.calls call ≠ .dropped := by
  constructor
  · intro held call dropped
    have owns : state.Owns call := .inl (by rw [dropped]; rfl)
    obtain ⟨other, inProgress⟩ := held (owned.sole.is_busy owns)
    have otherOwns : state.Owns other := inProgress.imp_left StartCall.owns_of_isOpen
    have same := owned.sole.one other call otherOwns owns
    subst same
    rcases inProgress with isOpen | unfinished
    · rw [dropped] at isOpen
      cases isOpen
    · rw [owned.task_absent (by rw [dropped]; rfl)] at unfinished
      cases unfinished
  · intro noneDropped busy
    obtain ⟨call, owns⟩ := owned.sole.busy.mp busy
    refine ⟨call, owns.imp_left ?_⟩
    intro callOwns
    have notDropped := noneDropped call
    revert callOwns notDropped
    cases state.calls call <;> simp [StartCall.owns, StartCall.isOpen]

end ExecutionState

theorem ExecutionState.dropped_enter_iff {base : ExecutionState} {call other : Nat}
    {phase : StartCall} (calls : base.calls = state.calls)
    (present : state.calls call ≠ .dropped) (goesOn : phase ≠ .dropped) :
    (base.enter call phase).calls other = .dropped ↔ state.calls other = .dropped := by
  by_cases same : other = call
  · subst same
    simp [enter, present, goesOn]
  · simp [enter, same, calls]

theorem StartCall.ne_dropped_of_awaits {call : StartCall} (awaits : call.awaits = true) :
    call ≠ .dropped := by
  rintro rfl
  cases awaits

theorem ExecutionStep.dropped_iff (owned : state.Owned)
    (taken : ExecutionStep state event after) (call : Nat) :
    after.calls call = .dropped ↔ state.calls call = .dropped ∨ event = .drop call := by
  have fresh : state.calls state.issued ≠ .dropped := by
    rw [owned.unissued _ (Nat.le_refl _)]
    exact nofun
  cases taken with
  | refused | started =>
    simp only [reduceCtorEq, or_false]
    exact ExecutionState.dropped_enter_iff rfl fresh nofun
  | advanced awaits next =>
    simp only [reduceCtorEq, or_false]
    exact ExecutionState.dropped_enter_iff rfl (StartCall.ne_dropped_of_awaits awaits)
      (StartCall.ne_dropped_of_awaits next)
  | failed awaits =>
    simp only [reduceCtorEq, or_false]
    exact ExecutionState.dropped_enter_iff rfl (StartCall.ne_dropped_of_awaits awaits) nofun
  | inserted phase | spawned phase =>
    simp only [reduceCtorEq, or_false]
    exact ExecutionState.dropped_enter_iff rfl (by rw [phase]; exact nofun) nofun
  | @dropped other awaits =>
    by_cases same : call = other
    · subst same
      simp [ExecutionState.enter]
    · simp [ExecutionState.enter, same, Ne.symm same]
  | finished executing | released finishing => simp [ExecutionState.enterTask]

theorem ExecutionState.owned_of_run {events : List ExecutionEvent}
    (run : ExecutionRun events state) :
    state.Owned ∧ ∀ call, state.calls call = .dropped ↔ .drop call ∈ events := by
  apply run.keeps fun events state =>
    state.Owned ∧ ∀ call, state.calls call = .dropped ↔ .drop call ∈ events
  · exact ⟨.initial, fun call => by simp [initial]⟩
  · intro events event state after ⟨owned, dropped⟩ taken
    have step := ExecutionStep.of_step taken
    refine ⟨owned.step step, ?_⟩
    intro call
    rw [step.dropped_iff owned call, dropped call, List.mem_append, List.mem_singleton]
    exact or_congr_right eq_comm

/-- One execution runs at a time, under the flag; the flag is given back exactly in the runs in
which no call is dropped at an await point. -/
theorem single_execution {events : List ExecutionEvent} (run : ExecutionRun events state) :
    state.OneRunning ∧ state.RunningIsBusy ∧ ((state.updateInProgress = true → state.InProgress) ↔
        ∀ event ∈ events, event.isDrop = false) := by
  obtain ⟨owned, dropped⟩ := ExecutionState.owned_of_run run
  refine ⟨owned.oneRunning, owned.runningIsBusy, ?_⟩
  rw [owned.inProgress_iff]
  constructor
  · intro none event present
    cases event with
    | drop call => exact absurd ((dropped call).mpr present) (none call)
    | _ => rfl
  · intro noDrop call isDropped
    have isDrop := noDrop _ ((dropped call).mp isDropped)
    cases isDrop

def passing : StartAnswers := ⟨true, .ok (), .ok false, "id"⟩

/-- An apply up to its task, with a second call in between. -/
def applyAndConflict : List ExecutionEvent :=
  [.start .apply, .resume 0 passing, .start .cleanup, .resume 0 passing, .resume 0 passing,
    .resume 0 passing, .resume 0 passing, .resume 0 passing]

theorem single_execution_of_applyAndConflict : ∃ state, ExecutionRun applyAndConflict state ∧
      state.tasks 0 = .executing .apply "id" ∧
      state.OneRunning ∧ state.RunningIsBusy ∧ ((state.updateInProgress = true → state.InProgress) ↔
          ∀ event ∈ applyAndConflict, event.isDrop = false) := by
  have run : ∃ state, ExecutionRun applyAndConflict state ∧
      state.tasks 0 = .executing .apply "id" :=
    ⟨_, Run.of_foldlM rfl, rfl⟩
  obtain ⟨state, run, executing⟩ := run
  exact ⟨state, run, executing, single_execution run⟩

/-- The caller goes away while the first collection is looked up. -/
def droppedApply : List ExecutionEvent := [.start .apply, .drop 0]

theorem busy_forever : ¬ ∀ events state, ExecutionRun events state →
      state.OneRunning ∧ state.RunningIsBusy ∧
        (state.updateInProgress = true → state.InProgress) := by
  intro neverBusyForever
  have run : ∃ state, ExecutionRun droppedApply state :=
    ⟨_, Run.of_foldlM rfl⟩
  obtain ⟨state, run⟩ := run
  have owned := ExecutionState.owned_of_run run
  have dropped : state.calls 0 = .dropped := (owned.2 0).mpr (by simp [droppedApply])
  exact owned.1.inProgress_iff.mp (neverBusyForever _ _ run).2.2 0 dropped

end DiagnosticAdapter.Update
