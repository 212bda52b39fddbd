import DiagnosticAdapter.Sovd.ServiceExecutions
import DiagnosticAdapter.Update.Executions

/-!
# The registry of the running operations

Operation requests insert into the execution maps of their ECUs under the write guard of
the map, after a look at the busy flag.  An update sets the flag first and then probes
every map of the registry with `try_read`.  A task that reloads the databases builds new
maps and makes the registry list those.
-/

namespace DiagnosticAdapter.Sovd

open DiagnosticAdapter.Update (ExecutionState ExecutionEvent)

inductive ExecutionMap where
  | comparam (executions : ComparamExecutions)
  | service (executions : ServiceExecutions)

namespace ExecutionMap

/-- The map as `is_active` looks at it. -/
def isActive : ExecutionMap → Bool
  | .comparam executions => !executions.entries.isEmpty
  | .service executions => executions.isActive

def HasExecution : ExecutionMap → Prop
  | .comparam executions => ∃ id execution, executions.lookup id = some execution
  | .service executions => ∃ service id execution, executions.find? service id = some execution

end ExecutionMap

inductive WriteRequest where
  | reserve (service : String)
  | comparam (parameters : Parameters)

/-- What the request does once it has found the flag not set.  A routine that is running
already is a conflict. -/
def WriteRequest.insert (request : WriteRequest) (id : Uuid) (map : ExecutionMap) :
    ExecutionMap :=
  match request, map with
  | .reserve service, .service executions =>
    match reserveExecution service service false id executions with
    | .ok executions => .service executions
    | .error _ => map
  | .comparam parameters, .comparam executions => .comparam (executions.create id parameters)
  | _, map => map

/-- What else is done under the write guard. -/
inductive MapChange where
  | finalize (service : String) (id : Uuid) (update : ServiceExecution → ServiceExecution)
  | removeReserved (service : String) (id : Uuid)
  | modify (service : String) (id : Uuid) (change : ServiceExecution → ServiceExecution)
  | shiftRemove (service : String) (id : Uuid)
  | putComparam (id : Uuid) (parameters : Parameters)
  | deleteComparam (id : Uuid)

def MapChange.perform (change : MapChange) (map : ExecutionMap) : ExecutionMap :=
  match change, map with
  | .finalize service id update, .service executions =>
    .service (finalizeExecution service id update executions)
  | .removeReserved service id, .service executions =>
    .service (removeReservedExecution service id executions)
  | .modify service id change, .service executions =>
    .service (executions.modify service id change)
  | .shiftRemove service id, .service executions => .service (executions.shiftRemove service id)
  | .putComparam id parameters, .comparam executions => .comparam (executions.put id parameters)
  | .deleteComparam id, .comparam executions => .comparam (executions.erase id)
  | _, map => map

inductive WriteOperation where
  | absent
  /-- With the write guard of the map, before the look at the flag. -/
  | holding (map : Nat) (request : WriteRequest)
  /-- The flag was not set; the guard is still held. -/
  | tested (map : Nat) (request : WriteRequest)
  | ended

def WriteOperation.guarded : WriteOperation → Option Nat
  | .holding map _ | .tested map _ => some map
  | .absent | .ended => none

inductive ExclusionEvent where
  | update (event : ExecutionEvent)
  | probe (call : Nat)
  | newRegistry (task : Nat)
  | register (task : Nat)
  | replace (task : Nat)
  | acquire (operation map : Nat) (request : WriteRequest)
  | test (operation : Nat)
  | insert (operation : Nat) (id : Uuid)
  | change (map : Nat) (change : MapChange)

structure ExclusionState where
  update : ExecutionState
  registered : List Nat
  /-- The maps of the registry that a task is building. -/
  built : Nat → List Nat
  /-- The maps that a call in `is_active` has still to probe. -/
  probing : Nat → Option (List Nat)
  maps : Nat → ExecutionMap
  /-- The operations with the write guards of the maps. -/
  writers : Nat → Option Nat
  operations : Nat → WriteOperation
  allocated : Nat

namespace ExclusionState

/-- A comparam map and a service map for each ECU. -/
def initial (ecus : Nat) : ExclusionState where
  update := .initial
  registered := List.range (2 * ecus)
  built _ := []
  probing _ := none
  maps map := if map % 2 = 0 then .comparam ∅ else .service ∅
  writers _ := none
  operations _ := .absent
  allocated := 2 * ecus

/-- `check_apply_allowed` allows the update only when no map of the registry is active. -/
def allows (state : ExclusionState) (call : Nat) (answers : Update.StartAnswers) : Bool :=
  match state.update.calls call, answers.checkApplyAllowed with
  | .checkingAllowed .., .ok () => state.probing call == some []
  | _, _ => true

def isExecuting (state : ExclusionState) (task : Nat) : Bool :=
  match state.update.tasks task with
  | .executing .. => true
  | _ => false

/-- The call gets to its next await point, with no probe under way, or its task is spawned,
with nothing built yet. -/
def stepUpdate (event : ExecutionEvent) (state : ExclusionState) : Option ExclusionState :=
  match event with
  | .resume call answers =>
    if state.allows call answers then
      (state.update.resume call answers).map fun update =>
        { state with
          update := update
          probing := Function.update state.probing call none
          built := Function.update state.built call [] }
    else none
  | event => (state.update.step event).map fun update => { state with update := update }

/-- The call goes on to the next map.  A map that is held by a writer or not empty ends the
check with an error. -/
def probe (call : Nat) (state : ExclusionState) : Option ExclusionState :=
  match state.update.calls call, state.probing call with
  | .checkingAllowed .., none =>
    some { state with probing := Function.update state.probing call (some state.registered) }
  | .checkingAllowed .., some (map :: rest) =>
    if (state.writers map).isNone && !(state.maps map).isActive then
      some { state with probing := Function.update state.probing call (some rest) }
    else none
  | _, _ => none

def finish (operation map : Nat) (state : ExclusionState) : ExclusionState :=
  { state with
    writers := Function.update state.writers map none
    operations := Function.update state.operations operation .ended }

def step (state : ExclusionState) : ExclusionEvent → Option ExclusionState
  | .update event => state.stepUpdate event
  | .probe call => state.probe call
  | .newRegistry task =>
    if state.isExecuting task then
      some { state with built := Function.update state.built task [] }
    else none
  | .register task =>
    if state.isExecuting task then
      some { state with
        built := Function.update state.built task
          (state.built task ++ [state.allocated, state.allocated + 1])
        allocated := state.allocated + 2 }
    else none
  | .replace task =>
    if state.isExecuting task then some { state with registered := state.built task } else none
  | .acquire operation map request =>
    match state.operations operation, state.writers map with
    | .absent, none =>
      if map < state.allocated then
        some { state with
          writers := Function.update state.writers map (some operation)
          operations := Function.update state.operations operation (.holding map request) }
      else none
    | _, _ => none
  | .test operation =>
    match state.operations operation with
    | .holding map request =>
      if state.update.updateInProgress then some (state.finish operation map)
      else
        some { state with
          operations := Function.update state.operations operation (.tested map request) }
    | _ => none
  | .insert operation id =>
    match state.operations operation with
    | .tested map request =>
      some ({ state with
        maps := Function.update state.maps map (request.insert id (state.maps map)) }.finish
          operation map)
    | _ => none
  | .change map change =>
    if (state.writers map).isNone then
      some { state with
        maps := Function.update state.maps map (change.perform (state.maps map)) }
    else none

end ExclusionState

end DiagnosticAdapter.Sovd
