import DiagnosticAdapter.Codec.BitAccess
import DiagnosticAdapter.Effects.Run

/-!
# Tester present

`start_tester_present`, `stop_tester_present` and `check_tester_present_active` over
the one map of tasks.  A call for a functional group goes through the group's ECUs one
by one, and other calls may come between.
-/

namespace DiagnosticAdapter.Uds

open Codec (DiagServiceError)

inductive TesterPresentType where
  | functional (functionalGroup : String)
  | ecu (ecuName : String)
  deriving DecidableEq, Repr

inductive TesterPresentMode where
  | start
  | stop
  deriving DecidableEq, Repr

structure TesterPresentEcu where
  name : String
  logicalAddress : UInt16
  logicalGatewayAddress : UInt16
  isPhysicalEcu : Bool
  functionalGroups : List String
  /-- In microseconds. -/
  testerPresentTime : Nat

/-- The loaded ECUs, in the order in which the map yields them. -/
abbrev TesterPresentEcus := List TesterPresentEcu

def ecusForFunctionalGroup (ecus : TesterPresentEcus) (functionalGroup : String)
    (gatewayOnly : Bool) : List String :=
  (ecus.filter fun ecu =>
    !(gatewayOnly && ecu.logicalAddress != ecu.logicalGatewayAddress) && ecu.isPhysicalEcu &&
      ecu.functionalGroups.contains functionalGroup).map (·.name)

/-- The ECUs whose tasks a call is about. -/
def TesterPresentType.ecus (ecus : TesterPresentEcus) : TesterPresentType → List String
  | .functional functionalGroup => ecusForFunctionalGroup ecus functionalGroup true
  | .ecu ecuName => [ecuName]

structure TesterPresentTask where
  type : TesterPresentType
  /-- `tokio::time::interval` panics on a zero period, and the task with it. -/
  alive : Bool
  call : Nat
  deriving DecidableEq, Repr

abbrev TesterPresentTasks := String → Option TesterPresentTask

/-- `control_tester_present` for one ECU, under the write lock of the tasks. -/
def controlTesterPresent (ecus : TesterPresentEcus) (mode : TesterPresentMode)
    (type : TesterPresentType) (call : Nat) (ecu : String) (tasks : TesterPresentTasks) :
    Except DiagServiceError TesterPresentTasks :=
  match mode with
  | .start =>
    match tasks ecu with
    | some _ => .error (.invalidRequest s!"A tester present for {ecu} is already running")
    | none =>
      match ecus.find? (·.name == ecu) with
      | none => .error (.notFound s!"ECU {ecu} not found")
      | some found =>
        .ok (Function.update tasks ecu (some ⟨type, decide (0 < found.testerPresentTime), call⟩))
  | .stop =>
    -- the entry's type is not looked at
    match tasks ecu with
    | none => .error (.invalidRequest s!"ECU {ecu} has no active tester present task")
    | some _ => .ok (Function.update tasks ecu none)

structure TesterPresentCall where
  mode : TesterPresentMode
  type : TesterPresentType
  remaining : List String
  /-- The ECUs for which `control_tester_present` has returned `Ok`. -/
  succeeded : List String
  /-- What the call returns: for a functional group the errors are only logged. -/
  result : Except DiagServiceError Unit
  issuedAt : Nat
  returnedAt : Option Nat

inductive TesterPresentEvent where
  | issue (mode : TesterPresentMode) (type : TesterPresentType)
  | control (call : Nat)
  | complete (call : Nat)
  | check (type : TesterPresentType)

structure TesterPresentState where
  tasks : TesterPresentTasks
  issued : Nat
  calls : Nat → Option TesterPresentCall
  /-- Counts the calls that have begun and those that have returned. -/
  clock : Nat

namespace TesterPresentState

def initial : TesterPresentState where
  tasks := fun _ => none
  issued := 0
  calls := fun _ => none
  clock := 0

def issue (ecus : TesterPresentEcus) (mode : TesterPresentMode) (type : TesterPresentType)
    (state : TesterPresentState) : TesterPresentState :=
  { state with
    issued := state.issued + 1
    calls := Function.update state.calls state.issued
      (some ⟨mode, type, type.ecus ecus, [], .ok (), state.clock, none⟩)
    clock := state.clock + 1 }

/-- A call goes on, with the tasks as it leaves them. -/
def enter (call : Nat) (next : TesterPresentCall) (tasks : TesterPresentTasks)
    (state : TesterPresentState) : TesterPresentState :=
  { state with tasks := tasks, calls := Function.update state.calls call (some next) }

def checkTesterPresentActive (ecus : TesterPresentEcus) (type : TesterPresentType)
    (state : TesterPresentState) : Bool :=
  (type.ecus ecus).all fun ecu => (state.tasks ecu).isSome

def step (ecus : TesterPresentEcus) (state : TesterPresentState) :
    TesterPresentEvent → Option TesterPresentState
  | .issue mode type => some (state.issue ecus mode type)
  | .control call =>
    match state.calls call with
    | some current =>
      match current.remaining with
      | ecu :: rest =>
        match controlTesterPresent ecus current.mode current.type call ecu state.tasks with
        | .ok tasks =>
          some (state.enter call
            { current with remaining := rest, succeeded := ecu :: current.succeeded } tasks)
        | .error e =>
          let result := match current.type with
            | .functional _ => .ok ()
            | .ecu _ => .error e
          some (state.enter call { current with remaining := rest, result := result } state.tasks)
      | [] => none
    | none => none
  | .complete call =>
    match state.calls call with
    | some current =>
      if current.remaining = [] ∧ current.returnedAt = none then
        some ({ state with clock := state.clock + 1 }.enter call
          { current with returnedAt := some state.clock } state.tasks)
      else
        none
    | none => none
  | .check _ => some state

end TesterPresentState

end DiagnosticAdapter.Uds
