import DiagnosticAdapter.Sovd.Handlers
import DiagnosticAdapter.Effects.Run

/-!
# Concurrent lock requests

Any number of requests and deletion tasks share the three `RwLock`s.  A process
that asks for a guard joins the queue of its lock; the lock admits the head of the
queue when no other process holds a conflicting guard, and the process runs on at
some later time.
-/

namespace DiagnosticAdapter.Sovd

open Effects Function

structure Process where
  phase : Phase
  /-- The guard the phase wants has been handed over. -/
  granted : Bool

namespace Process

def holds (process : Process) : List (LockType × Mode) :=
  process.phase.held ++ (if process.granted then process.phase.wanted.toList else [])

def waits (process : Process) : Option (LockType × Mode) :=
  if process.granted then none else process.phase.wanted

end Process

structure State where
  locks : Locks
  processes : Pid → Process
  spawned : Pid
  queue : LockType → List Pid
  issued : List String

inductive Call where
  | ecuPost (request : PostRequest) (ecu : String)
  | vehiclePost (request : PostRequest)
  | groupPost (request : PostRequest) (group : String)
  | put (entity : Entity) (lockId sub : String) (lockExpiration : UInt64)
  | delete (entity : Entity) (lockId sub : String)
  | validateLock (sub ecu : String)
  | validateFgLock (sub group : String)
  deriving DecidableEq, Repr

def Call.phase : Call → Phase
  | .ecuPost request ecu => .ecuPost request ecu .vehicle
  | .vehiclePost request => .vehiclePost request .vehicle
  | .groupPost request group => .groupPost request group .vehicle
  | .put entity lockId sub lockExpiration => .put entity lockId sub lockExpiration
  | .delete entity lockId sub => .delete entity lockId sub
  | .validateLock sub ecu => .validateLock sub ecu .own
  | .validateFgLock sub group => .validateFgLock sub group .own

inductive Event where
  | arrive (call : Call)
  | grant (pid : Pid)
  | resume (pid : Pid) (answers : Answers)

namespace State

def initial (ecuNames : List String) : State where
  locks := .new ecuNames
  processes := fun _ => ⟨.absent, false⟩
  spawned := 0
  queue := fun _ => []
  issued := []

def view (state : State) : View :=
  ⟨state.locks, state.issued, state.spawned⟩

def guards (state : State) : Guards Pid LockType where
  holds pid := (state.processes pid).holds
  waits pid := (state.processes pid).waits
  queue := state.queue

/-- The process enters a phase, and the queue of the lock it wants there. -/
def enter (pid : Pid) (phase : Phase) (state : State) : State :=
  { state with
    processes := update state.processes pid ⟨phase, false⟩
    queue := match phase.wanted with
      | some (level, _) => update state.queue level (state.queue level ++ [pid])
      | none => state.queue }

def spawn (phase : Phase) (state : State) : State :=
  { state with spawned := state.spawned + 1 }.enter state.spawned phase

/-- `JoinHandle::abort`: an unfinished process is dropped, with its guards and its place
in the queues. -/
def abort (pid : Pid) (state : State) : State :=
  match (state.processes pid).phase with
  | .finished _ => state
  | _ =>
    { state with
      processes := update state.processes pid ⟨.aborted, false⟩
      queue := fun level => (state.queue level).filter (· ≠ pid) }

def apply (action : Action) (state : State) : State :=
  match action with
  | .keep => state
  | .getMut entity => { state with locks := state.locks.getMut entity }
  | .schedule entity task =>
    { state with
      locks := state.locks.getMut entity
      issued := task.lockId :: state.issued }.spawn (.sleeping task)
  | .insert entity lock => { state with locks := state.locks.setLock entity (some lock) }
  | .scheduleInsert entity lock task =>
    { state with
      locks := state.locks.setLock entity (some lock)
      issued := task.lockId :: state.issued }.spawn (.sleeping task)
  | .reschedule entity lock task =>
    let state := state.abort lock.deletionTask
    { state with
      locks := state.locks.setLock entity
        (some { lock with expiration := task.expiration, deletionTask := state.spawned })
    }.spawn (.sleeping task)
  | .abort lock => state.abort lock.deletionTask
  | .delete entity lock =>
    let state := state.abort lock.deletionTask
    { state with locks := state.locks.delete entity }
  | .expire entity => { state with locks := state.locks.delete entity }

/-- No other process holds a guard that conflicts. -/
def admits (state : State) (pid : Pid) (level : LockType) (mode : Mode) : Bool :=
  (List.range state.spawned).all fun other =>
    other == pid || (state.processes other).holds.all fun (otherLevel, otherMode) =>
      otherLevel != level || !decide (mode.Conflicts otherMode)

/-- The process leaves the queue with the guard it waited for. -/
def handOver (pid : Pid) (level : LockType) (state : State) : State :=
  { state with
    processes := update state.processes pid
      { state.processes pid with granted := true }
    queue := update state.queue level (state.queue level).tail }

def step (ecuFunctionalGroups : String → Except ApiError (List String)) (state : State) :
    Event → Option State
  | .arrive call => some (state.spawn call.phase)
  | .grant pid =>
    match (state.processes pid).waits with
    | some (level, mode) =>
      if (state.queue level).head? = some pid ∧ state.admits pid level mode then
        some (state.handOver pid level)
      else
        none
    | none => none
  | .resume pid answers =>
    match (state.processes pid).waits with
    | some _ => none
    | none =>
      match resume ecuFunctionalGroups state.view answers (state.processes pid).phase with
      | some (action, phase) => some ((state.apply action).enter pid phase)
      | none => none

end State

end DiagnosticAdapter.Sovd
