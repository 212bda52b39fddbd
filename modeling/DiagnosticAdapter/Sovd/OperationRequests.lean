import DiagnosticAdapter.Effects.Run
import DiagnosticAdapter.Sovd.ServiceExecutions

/-!
# Requests on the executions of an operation

Any number of POST, GET and DELETE requests on `/operations/{service}/executions` of one
ECU.  A request runs from one await point to the next, and its client may go away at any of
them.  Waiting for the write guard is an await point; what is done under it is not divided.
-/

namespace DiagnosticAdapter.Sovd

open Codec (DiagServiceError)

/-- A routine-control service that the security plugin lets the request see. -/
structure RoutineService where
  /-- `trim_routine_name` of its short name. -/
  routineName : String
  subFunctionId : Option Nat
  deriving DecidableEq, Repr

def eqIgnoreAsciiCase (text other : String) : Bool :=
  text.toList.map Char.toLower == other.toList.map Char.toLower

structure RoutineSubfunctions where
  hasStop : Bool
  hasRequestResults : Bool
  deriving DecidableEq, Repr

def routineStop : Nat := 0x02

def routineRequestResults : Nat := 0x03

/-- With the `DEFAULT_SUBFUNCTION_MASK`. -/
def subfunctionFlagsFromServices (services : List RoutineService) : RoutineSubfunctions where
  hasStop := services.any fun service =>
    service.subFunctionId.map (· &&& 0x7F) == some routineStop
  hasRequestResults := services.any fun service =>
    service.subFunctionId.map (· &&& 0x7F) == some routineRequestResults

def getRoutineSubfunctions (services : List RoutineService) (serviceName : String) :
    Except DiagServiceError RoutineSubfunctions :=
  match services.filter fun service => eqIgnoreAsciiCase service.routineName serviceName with
  | [] => .error (.notFound s!"No RoutineControl service found for routine '{serviceName}'")
  | found => .ok (subfunctionFlagsFromServices found)

def checkIfAsync (services : List RoutineService) (service : String) :
    Except DiagServiceError Bool := do
  let sf ← getRoutineSubfunctions services service
  return sf.hasStop || sf.hasRequestResults

/-- The answer of the ECU; the parameters are those of its JSON object, if it is one. -/
inductive UdsResponse where
  | negative
  | positive (isEmpty : Bool) (parameters : Parameters)

inductive OperationResponse where
  | error (error : ApiError)
  | udsError (error : DiagServiceError)
  | negative
  | accepted (id : Uuid)
  | executed (parameters : Parameters)
  | byId (status : ExecutionStatus) (parameters : Parameters)
  | noContent

structure OperationAnswers where
  updateInProgress : Bool
  newV4 : Uuid
  services : List RoutineService
  /-- Of `validate_and_parse_write_request`: whether the response is mapped to JSON. -/
  parsed : Except ApiError Bool
  uds : Except DiagServiceError UdsResponse

inductive OperationRequest where
  | absent
  | reserving (service : String) (suppressService : Bool)
  | resetting
  | checkingAsync (service : String) (id : Uuid)
  | sendingStart (service : String) (id : Uuid) (isAsync mapToJson : Bool)
  | finalizing (service : String) (id : Uuid) (parameters : Parameters)
  | removingReserved (service : String) (id : Uuid) (response : OperationResponse)
  | guardingGet (service : String) (id : Uuid) (suppressService : Bool)
  | sendingRequestResults (service : String) (id : Uuid)
  | guardingDelete (service : String) (id : Uuid) (suppressService force : Bool)
  | sendingStop (service : String) (id : Uuid) (suppressService force : Bool)
  | removingStopped (service : String) (id : Uuid) (response : OperationResponse)
  /-- Before the mark is cleared; then the parameters are stored, if there are any. -/
  | clearing (service : String) (id : Uuid) (response : OperationResponse)
      (store : Option Parameters)
  | storing (service : String) (id : Uuid) (parameters : Parameters)
  | returned (response : OperationResponse)
  | dropped

namespace OperationRequest

/-- The execution that a POST has reserved and neither finalized nor removed. -/
def reserved : OperationRequest → Option (String × Uuid)
  | .checkingAsync service id | .sendingStart service id .. | .finalizing service id _
  | .removingReserved service id _ => some (service, id)
  | _ => none

def marked : OperationRequest → Option (String × Uuid)
  | .sendingRequestResults service id | .sendingStop service id .. | .removingStopped service id _
  | .clearing service id .. => some (service, id)
  | _ => none

def holds (request : OperationRequest) : Option (String × Uuid) :=
  request.reserved.or request.marked

def sending : OperationRequest → Option (String × Uuid)
  | .sendingStart service id .. | .sendingRequestResults service id
  | .sendingStop service id .. => some (service, id)
  | _ => none

def isOpen : OperationRequest → Bool
  | .absent | .returned _ | .dropped => false
  | _ => true

end OperationRequest

open OperationRequest in
/-- A POST behind `check_if_async`, which a suppressed service skips. -/
def parseAndStart (service : String) (id : Uuid) (suppressService isAsync : Bool)
    (parsed : Except ApiError Bool) : OperationRequest :=
  match parsed with
  | .error e => .removingReserved service id (.error e)
  | .ok mapToJson =>
    if suppressService then .finalizing service id []
    else .sendingStart service id isAsync mapToJson

/-- A request from its await point to the next one or to its end. -/
def resumeRequest (answers : OperationAnswers) (executions : ServiceExecutions) :
    OperationRequest → Option (OperationRequest × ServiceExecutions)
  | .reserving service suppressService =>
    match reserveExecution service service answers.updateInProgress answers.newV4 executions with
    | .error e => some (.returned (.error e), executions)
    | .ok executions =>
      if suppressService then
        some (parseAndStart service answers.newV4 true true answers.parsed, executions)
      else some (.checkingAsync service answers.newV4, executions)
  | .resetting =>
    match answers.uds with
    | .error e => some (.returned (.udsError e), executions)
    | .ok .negative => some (.returned .negative, executions)
    | .ok (.positive _ parameters) => some (.returned (.executed parameters), executions)
  | .checkingAsync service id =>
    match checkIfAsync answers.services service with
    | .error e => some (.removingReserved service id (.udsError e), executions)
    | .ok isAsync => some (parseAndStart service id false isAsync answers.parsed, executions)
  | .sendingStart service id isAsync mapToJson =>
    match answers.uds with
    | .error e => some (.removingReserved service id (.udsError e), executions)
    | .ok .negative => some (.removingReserved service id .negative, executions)
    | .ok (.positive _ parameters) =>
      if isAsync then
        some (.finalizing service id (if mapToJson then parameters else []), executions)
      else some (.removingReserved service id (.executed parameters), executions)
  | .finalizing service id parameters =>
    some (.returned (.accepted id),
      finalizeExecution service id ({ · with parameters := parameters }) executions)
  | .removingReserved service id response =>
    some (.returned response, removeReservedExecution service id executions)
  | .guardingGet service id suppressService =>
    match guardExecution service id s!"Execution {id} is already in progress" executions with
    | .error e => some (.returned (.error e), executions)
    | .ok (stored, executions) =>
      if suppressService then
        some (.clearing service id (.byId stored.status stored.parameters) none, executions)
      else some (.sendingRequestResults service id, executions)
  | .sendingRequestResults service id =>
    match answers.uds with
    | .error e => some (.clearing service id (.udsError e) none, executions)
    | .ok .negative => some (.clearing service id .negative none, executions)
    | .ok (.positive _ parameters) =>
      some (.clearing service id (.byId .completed parameters) (some parameters), executions)
  | .guardingDelete service id suppressService force =>
    match guardExecution service id s!"Execution {id} is already being stopped" executions with
    | .error e => some (.returned (.error e), executions)
    | .ok (_, executions) => some (.sendingStop service id suppressService force, executions)
  | .sendingStop service id suppressService force =>
    match answers.uds with
    | .ok (.positive isEmpty parameters) =>
      some (.removingStopped service id
        (if isEmpty then .noContent else .byId .stopped parameters), executions)
    | .ok .negative =>
      if force then some (.removingStopped service id .noContent, executions)
      else some (.clearing service id .negative none, executions)
    | .error (.notFound message) =>
      if suppressService || force then
        some (.removingStopped service id .noContent, executions)
      else some (.clearing service id (.udsError (.notFound message)) none, executions)
    | .error e =>
      if force then some (.removingStopped service id .noContent, executions)
      else some (.clearing service id (.udsError e) none, executions)
  | .removingStopped service id response =>
    some (.returned response, executions.shiftRemove service id)
  | .clearing service id response store =>
    match store with
    | none => some (.returned response, clearInFlight service id executions)
    | some parameters =>
      some (.storing service id parameters, clearInFlight service id executions)
  | .storing service id parameters =>
    some (.returned (.byId .completed parameters),
      executions.modify service id ({ · with parameters := parameters }))
  | .absent | .returned _ | .dropped => none

inductive OperationEvent where
  | post (service : String) (suppressService : Bool)
  | get (service : String) (id : Uuid) (suppressService : Bool)
  | delete (service : String) (id : Uuid) (suppressService force : Bool)
  | resume (request : Nat) (answers : OperationAnswers)
  | drop (request : Nat)

structure OperationState where
  executions : ServiceExecutions
  requests : Nat → OperationRequest
  arrived : Nat

namespace OperationState

def initial : OperationState := ⟨∅, fun _ => .absent, 0⟩

def arrive (request : OperationRequest) (state : OperationState) : OperationState :=
  { state with
    requests := Function.update state.requests state.arrived request
    arrived := state.arrived + 1 }

def step (state : OperationState) : OperationEvent → Option OperationState
  | .post service suppressService =>
    -- `reset` is no routine and has no executions.
    some (state.arrive (if service = "reset" then .resetting
      else .reserving service suppressService))
  | .get service id suppressService => some (state.arrive (.guardingGet service id suppressService))
  | .delete service id suppressService force =>
    some (state.arrive (.guardingDelete service id suppressService force))
  | .resume request answers =>
    (resumeRequest answers state.executions (state.requests request)).map
      fun (phase, executions) =>
        { state with
          executions := executions
          requests := Function.update state.requests request phase }
  | .drop request =>
    if (state.requests request).isOpen then
      some { state with requests := Function.update state.requests request .dropped }
    else none

end OperationState

end DiagnosticAdapter.Sovd
