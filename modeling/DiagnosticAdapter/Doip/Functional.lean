import DiagnosticAdapter.Doip.SendTask

/-!
# Functional requests

`send_functional` of the DoIP gateway: one request to the gateway, then the first message
or error on the channel of each expected ECU and of the gateway.
-/

namespace DiagnosticAdapter.Doip.Functional

open Uds

inductive DiagServiceError where
  | ecuOffline (ecu : String)
  | connectionClosed (message : String)
  | sendFailed (message : String)
  | resourceError (message : String)
  | unexpectedResponse (message : Option String)
  | dataError (value details : String)
  | timeout
  deriving DecidableEq, Repr

inductive ConnectionError where
  | closed
  | decoding (message : String)
  | invalidMessage (message : String)
  | timeout (message : String)
  | connectionFailed (message : String)
  | routingError (message : String)
  | sendFailed (message : String)
  deriving DecidableEq, Repr

inductive EcuError where
  | resourceNotFound (resource : String)
  | ecuConnectionError (connectionError : ConnectionError)
  deriving DecidableEq, Repr

def EcuError.toDiagServiceError : EcuError → DiagServiceError
  | .resourceNotFound resource => .resourceError resource
  | .ecuConnectionError connectionError =>
    match connectionError with
    | .decoding message => .dataError message ""
    | .invalidMessage message => .unexpectedResponse (some message)
    | .timeout _ => .timeout
    | .connectionFailed message => .connectionClosed s!"ConnectionFailed {message}"
    | .routingError message => .connectionClosed s!"RoutingError {message}"
    | .sendFailed message => .connectionClosed s!"SendFailed {message}"
    | .closed => .connectionClosed ""

/-- What `recv` on an ECU's channel returns. -/
inductive Item where
  | response (response : DiagnosticResponse)
  | error (ecuError : EcuError)
  /-- Closed, or items were overwritten before they were read. -/
  | closed
  deriving DecidableEq, Repr

/-- An item, and whether it came after the request was sent, which the code does not see. -/
structure Arrival where
  item : Item
  afterSent : Bool
  deriving DecidableEq, Repr

/-- What is there when the gateway's channel is cleared, what comes until the request is sent, and
what comes until the time is over. -/
structure EcuChannel where
  queued : List Item
  meanwhile : List Item
  afterwards : List Item
  deriving DecidableEq, Repr

abbrev DoipConnection := UInt16 → Option EcuChannel

structure DoipGatewayState where
  logicalAddressToConnection : UInt16 → Option Nat
  doipConnections : List DoipConnection

structure TransmissionParameters where
  gatewayAddress : UInt16
  ecuName : String
  deriving DecidableEq, Repr

structure Waiting where
  address : UInt16
  name : String
  arrivals : List Arrival
  deriving DecidableEq, Repr

/-- A message of the result, and which ECU sent it when. -/
structure Response where
  payload : ServicePayload
  address : UInt16
  afterSent : Bool
  deriving DecidableEq, Repr

abbrev Results := String → Option (Except DiagServiceError Response)

/-- A channel that has lost items says so in front of the others, and is cleared no further. -/
def clearPendingMessages : List Item → List Item
  | [] => []
  | .closed :: items => items
  | _ :: items => clearPendingMessages items

namespace EcuChannel

def arrivalsOf (channel : EcuChannel) (queued : List Item) : List Arrival :=
  (queued ++ channel.meanwhile).map (⟨·, false⟩) ++ channel.afterwards.map (⟨·, true⟩)

def arrivals (channel : EcuChannel) : List Arrival := channel.arrivalsOf channel.queued

def clearedArrivals (channel : EcuChannel) : List Arrival :=
  channel.arrivalsOf (clearPendingMessages channel.queued)

end EcuChannel

def getDoipConnection (state : DoipGatewayState) (logicalAddress : UInt16) :
    Except DiagServiceError DoipConnection :=
  match state.logicalAddressToConnection logicalAddress with
  | none => .error (.ecuOffline s!"[{logicalAddress}]")
  | some index =>
    match state.doipConnections[index]? with
    | none =>
      .error (.connectionClosed (s!"Connection entry for address {logicalAddress} found, " ++
        "but it was already closed"))
    | some connection => .ok connection

/-- The time for the response is over where the arrivals end. -/
def waitForEcuResponse (address : UInt16) : List Arrival → Option (Except EcuError Response)
  | [] => none
  | ⟨.response (.msg message), afterSent⟩ :: _ =>
    some (.ok ⟨udsResponseFromRaw message.data message.sourceAddress message.targetAddress,
      address, afterSent⟩)
  | ⟨.response _, _⟩ :: arrivals => waitForEcuResponse address arrivals
  | ⟨.error ecuError, _⟩ :: _ => some (.error ecuError)
  | ⟨.closed, _⟩ :: _ => none

section

variable (toLowercase : String → String)

/-- The expected ECUs that the connection knows, in the order of their map, and the gateway. -/
def waitingEcus (parameters : TransmissionParameters)
    (expectedEcuLogicalAddrs : List (UInt16 × String)) (connection : DoipConnection)
    (gatewayEcu : EcuChannel) : List Waiting :=
  let ecuMtxs := expectedEcuLogicalAddrs.filterMap fun (address, name) =>
    if address = parameters.gatewayAddress then none
    else (connection address).map fun ecu => ⟨address, name, ecu.arrivals⟩
  ecuMtxs ++
    [⟨parameters.gatewayAddress, toLowercase parameters.ecuName, gatewayEcu.clearedArrivals⟩]

/-- `send_functional` up to the wait. -/
def sendRequest (state : DoipGatewayState) (parameters : TransmissionParameters)
    (message : ServicePayload) (expectedEcuLogicalAddrs : List (UInt16 × String))
    (sendWithRetries : DiagnosticMessage → Except DiagServiceError Unit) :
    Except DiagServiceError (List Waiting) :=
  match getDoipConnection state parameters.gatewayAddress with
  | .error e => .error e
  | .ok connection =>
    match connection parameters.gatewayAddress with
    | none => .error (.ecuOffline "Gateway ECU not found")
    | some gatewayEcu =>
      match sendWithRetries ⟨message.sourceAddress, message.targetAddress, message.data⟩ with
      | .error e => .error e
      | .ok () =>
        .ok (waitingEcus toLowercase parameters expectedEcuLogicalAddrs connection gatewayEcu)

end

def receivedResponses (completed : List Waiting) : Results :=
  completed.foldl (fun received ecu =>
    match waitForEcuResponse ecu.address ecu.arrivals with
    | some response =>
      Function.update received ecu.name (some (response.mapError EcuError.toDiagServiceError))
    | none => received) fun _ => none

def insertTimeouts (expectedEcuLogicalAddrs : List (UInt16 × String))
    (expectPositiveResponse : Bool) (results : Results) : Results :=
  expectedEcuLogicalAddrs.foldl (fun results ecu =>
    if (results ecu.2).isNone && expectPositiveResponse then
      Function.update results ecu.2 (some (.error .timeout))
    else results) results

/-- `completionOrder` is the order in which the waits end. -/
def sendFunctional (toLowercase : String → String) (state : DoipGatewayState)
    (parameters : TransmissionParameters) (message : ServicePayload)
    (expectedEcuLogicalAddrs : List (UInt16 × String))
    (sendWithRetries : DiagnosticMessage → Except DiagServiceError Unit)
    (expectPositiveResponse : Bool) (completionOrder : List Waiting → List Waiting) :
    Except DiagServiceError Results := do
  let waiting ← sendRequest toLowercase state parameters message expectedEcuLogicalAddrs
    sendWithRetries
  return insertTimeouts expectedEcuLogicalAddrs expectPositiveResponse
    (receivedResponses (completionOrder waiting))

end DiagnosticAdapter.Doip.Functional
