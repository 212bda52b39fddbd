import DiagnosticAdapter.Effects.Run
import DiagnosticAdapter.Update.Upload

/-!
# Update executions

Any number of `start_execution` calls and the tasks they spawn share the busy flag and
the map of executions.  A call runs from one await point to the next and may be dropped
at any of them; a task that has executed its operation writes the map and clears the
flag before it gives the guard of the map back.
-/

namespace DiagnosticAdapter.Update

abbrev ExecutionId := String

inductive ExecutionMode where
  | apply
  | rollback
  | cleanup
  deriving DecidableEq, Repr

/-- A failed execution keeps the text of its error in the source. -/
inductive ExecutionStatus where
  | running
  | completed
  | failed (error : RuntimeUpdateError)
  deriving DecidableEq, Repr

def ExecutionStatus.of : Except RuntimeUpdateError Unit → ExecutionStatus
  | .ok () => .completed
  | .error e => .failed e

structure UpdateExecution where
  id : ExecutionId
  mode : ExecutionMode
  status : ExecutionStatus
  deriving DecidableEq, Repr

abbrev Executions := AList fun _ : ExecutionId => UpdateExecution

namespace Executions

def hasRunning (executions : Executions) : Bool :=
  executions.entries.any fun entry => entry.2.status == .running

/-- `retain` of the running executions. -/
def retainRunning (executions : Executions) : Executions :=
  ⟨executions.entries.filter fun entry => entry.2.status == .running,
    List.NodupKeys.sublist List.filter_sublist executions.nodupKeys⟩

def setStatus (executions : Executions) (id : ExecutionId) (status : ExecutionStatus) :
    Executions :=
  match executions.lookup id with
  | some execution => executions.insert id { execution with status := status }
  | none => executions

end Executions

structure UpdateCollections where
  pendingMdd : Bool
  currentMdd : Bool
  deriving DecidableEq, Repr

/-- The await point a `start_execution` call has reached. -/
inductive StartCall where
  | absent
  | gettingPending (mode : ExecutionMode)
  | gettingCurrent (mode : ExecutionMode) (pendingMdd : Bool)
  | checkingAllowed (mode : ExecutionMode) (collections : UpdateCollections)
  | readingExecutions (mode : ExecutionMode) (collections : UpdateCollections)
  | checkingBackup
  | writingExecutions (mode : ExecutionMode)
  /-- No await point: the execution is in the map and the task not spawned yet. -/
  | spawning (mode : ExecutionMode) (id : ExecutionId)
  | returned (result : Except RuntimeUpdateError ExecutionId)
  | dropped
  deriving Repr

namespace StartCall

/-- Between its `compare_exchange` and its return. -/
def isOpen : StartCall → Bool
  | .absent | .returned _ | .dropped => false
  | _ => true

def awaits (call : StartCall) : Bool :=
  match call with
  | .spawning .. => false
  | call => call.isOpen

def checkMode (mode : ExecutionMode) (collections : UpdateCollections) :
    Except RuntimeUpdateError StartCall :=
  match mode with
  | .rollback => .ok .checkingBackup
  | .apply => if collections.pendingMdd then .ok (.writingExecutions .apply)
      else .error .noPendingUpdate
  | .cleanup => .ok (.writingExecutions .cleanup)

end StartCall

inductive ExecutionTask where
  | absent
  | executing (mode : ExecutionMode) (id : ExecutionId)
  /-- The status is written, the guard of the map held and the flag still set. -/
  | finishing
  | finished
  deriving DecidableEq, Repr

def ExecutionTask.isUnfinished : ExecutionTask → Bool
  | .executing .. | .finishing => true
  | .absent | .finished => false

structure StartAnswers where
  collectionFound : Bool
  checkApplyAllowed : Except RuntimeUpdateError Unit
  isBackupEmpty : Except RuntimeUpdateError Bool
  newV4 : ExecutionId
  deriving Repr

inductive ExecutionEvent where
  | start (mode : ExecutionMode)
  | resume (call : Nat) (answers : StartAnswers)
  | drop (call : Nat)
  | finish (task : Nat) (result : Except RuntimeUpdateError Unit)
  | release (task : Nat)
  deriving Repr

def ExecutionEvent.isDrop : ExecutionEvent → Bool
  | .drop _ => true
  | _ => false

structure ExecutionState where
  updateInProgress : Bool
  executions : Executions
  /-- The task with the write guard of `executions`. -/
  writer : Option Nat
  calls : Nat → StartCall
  tasks : Nat → ExecutionTask
  issued : Nat

namespace ExecutionState

def initial : ExecutionState where
  updateInProgress := false
  executions := ∅
  writer := none
  calls _ := .absent
  tasks _ := .absent
  issued := 0

def enter (call : Nat) (phase : StartCall) (state : ExecutionState) : ExecutionState :=
  { state with calls := Function.update state.calls call phase }

def enterTask (task : Nat) (phase : ExecutionTask) (state : ExecutionState) : ExecutionState :=
  { state with tasks := Function.update state.tasks task phase }

/-- An error exit: the flag is cleared. -/
def fail (call : Nat) (error : RuntimeUpdateError) (state : ExecutionState) : ExecutionState :=
  { state with updateInProgress := false }.enter call (.returned (.error error))

def start (mode : ExecutionMode) (state : ExecutionState) : ExecutionState :=
  let arrived := { state with issued := state.issued + 1 }
  if state.updateInProgress then
    arrived.enter state.issued (.returned (.error .executionConflict))
  else
    { arrived with updateInProgress := true }.enter state.issued (.gettingPending mode)

/-- A call from its await point to the next one or to its end. -/
def resume (call : Nat) (answers : StartAnswers) (state : ExecutionState) :
    Option ExecutionState :=
  match state.calls call with
  | .gettingPending mode =>
    some (state.enter call (.gettingCurrent mode answers.collectionFound))
  | .gettingCurrent mode pendingMdd =>
    some (state.enter call (.checkingAllowed mode ⟨pendingMdd, answers.collectionFound⟩))
  | .checkingAllowed mode collections =>
    match answers.checkApplyAllowed with
    | .error e => some (state.fail call e)
    | .ok () => some (state.enter call (.readingExecutions mode collections))
  | .readingExecutions mode collections =>
    if state.writer.isSome then none
    else if state.executions.hasRunning then some (state.fail call .executionConflict)
    else
      match StartCall.checkMode mode collections with
      | .error e => some (state.fail call e)
      | .ok phase => some (state.enter call phase)
  | .checkingBackup =>
    match answers.isBackupEmpty with
    | .ok true => some (state.fail call .noBackup)
    | .error e => some (state.fail call e)
    | .ok false => some (state.enter call (.writingExecutions .rollback))
  | .writingExecutions mode =>
    if state.writer.isSome then none
    else
      some ({ state with
        executions := state.executions.retainRunning.insert answers.newV4
          ⟨answers.newV4, mode, .running⟩ }.enter call (.spawning mode answers.newV4))
  | .spawning mode id =>
    some ((state.enterTask call (.executing mode id)).enter call (.returned (.ok id)))
  | .absent | .returned _ | .dropped => none

def step (state : ExecutionState) : ExecutionEvent → Option ExecutionState
  | .start mode => some (state.start mode)
  | .resume call answers => state.resume call answers
  | .drop call => if (state.calls call).awaits then some (state.enter call .dropped) else none
  | .finish task result =>
    match state.tasks task with
    | .executing _ id =>
      if state.writer.isSome then none
      else
        some ({ state with
          executions := state.executions.setStatus id (.of result)
          writer := some task }.enterTask task .finishing)
    | _ => none
  | .release task =>
    match state.tasks task with
    | .finishing =>
      some ({ state with updateInProgress := false, writer := none }.enterTask task .finished)
    | _ => none

end ExecutionState

end DiagnosticAdapter.Update
