import DiagnosticAdapter.Uds.PendingNrc

/-!
# The send task of the DoIP gateway

`DoipDiagGateway::send` after the ECU's receiver has been flushed: the loop that waits
for the acknowledgement, then the loop that reads responses.
-/

namespace DiagnosticAdapter.Doip

open Codec (DiagServiceError)
open Uds

/-- A UDS payload with the logical addresses. -/
structure DiagnosticMessage where
  sourceAddress : UInt16
  targetAddress : UInt16
  data : List UInt8
  deriving DecidableEq, Repr

inductive DiagnosticResponse where
  | msg (message : DiagnosticMessage)
  | ack (address : UInt16) (previous : List UInt8)
  | nack (address : UInt16) (nackCode : UInt8)
  | aliveCheckResponse
  | testerPresentNrc (nrc : UInt8)
  | genericNack (nackCode : UInt8)
  deriving DecidableEq, Repr

def DiagnosticResponse.matchesRequest (response : DiagnosticResponse) (request : List UInt8) :
    Bool :=
  match request with
  | [] => false
  | sid :: _ =>
    match response with
    | .ack _ previous => previous.isPrefixOf request
    | .msg message => udsResponseMatchesRequestSid sid message.data
    | _ => false

/-- What `recv` on the ECU's channel returns. -/
inductive Received where
  | response (response : DiagnosticResponse)
  /-- An `EcuError`, by its text. -/
  | ecuError (text : String)
  /-- Closed, or messages were overwritten before they were read. -/
  | closed
  deriving DecidableEq, Repr

def DiagnosticMessage.toTransport (message : DiagnosticMessage) : TransportResponse :=
  match pendingNrcFromRaw message.data message.sourceAddress with
  | some nrc => .pending nrc
  | none =>
    .udsResponse (udsResponseFromRaw message.data message.sourceAddress message.targetAddress)

def diagnosticResponseToTransport : DiagnosticResponse → Delivery
  | .msg message => .ok (some message.toTransport)
  | _ => .error (.badPayload "Unexpected DoIP event type in UDS response stream")

inductive SendPhase where
  /-- In `wait_for_ack_or_response`. -/
  | waiting
  /-- In `read_ecu_responses`. -/
  | reading
  | finished
  deriving DecidableEq, Repr

inductive SendEvent where
  | receive (received : Received)
  /-- `CP_DoIPDiagnosticAckTimeout` is over. -/
  | timeoutAck
  deriving DecidableEq, Repr

/-- The request is acknowledged, by an Ack or by the response itself. -/
def acknowledged (expectUdsReply : Bool) : List Delivery :=
  if expectUdsReply then [] else [.ok none]

/-- What the task does next and what it sends to the caller meanwhile. -/
def receive (request : List UInt8) (expectUdsReply : Bool) :
    SendPhase → SendEvent → SendPhase × List Delivery
  | .waiting, .timeoutAck => (.finished, [.error .timeout])
  | .waiting, .receive (.ecuError text) =>
    (.finished, [.error (.noResponse s!"Error while waiting for ACK/NACK, {text}")])
  | .waiting, .receive .closed =>
    (.finished, [.error (.noResponse "ECU receiver unexpectedly closed")])
  | .waiting, .receive (.response response) =>
    match response with
    | .nack _ nackCode | .genericNack nackCode => (.finished, [.error (.nack nackCode)])
    | response =>
      if response.matchesRequest request then
        match response with
        | .ack _ _ => (.reading, acknowledged expectUdsReply)
        | response =>
          -- an implicit Ack
          (.reading, acknowledged expectUdsReply ++ [diagnosticResponseToTransport response])
      else
        (.waiting, [])
  | .reading, .receive (.response response) =>
    (.reading, [diagnosticResponseToTransport response])
  | .reading, .receive (.ecuError text) =>
    (.reading, [.error (.noResponse s!"Error while waiting for message, {text}")])
  | .reading, .receive .closed =>
    (.finished, [.error (.noResponse "ECU receiver unexpectedly closed")])
  | .reading, .timeoutAck => (.reading, [])
  | .finished, _ => (.finished, [])

def receiveAll (request : List UInt8) (expectUdsReply : Bool) :
    SendPhase → List SendEvent → List Delivery
  | _, [] => []
  | phase, event :: events =>
    let (next, deliveries) := receive request expectUdsReply phase event
    deliveries ++ receiveAll request expectUdsReply next events

/-- What the task sends to the caller; `sent` is the outcome of `send_with_retries`. -/
def send (request : List UInt8) (expectUdsReply : Bool) (sent : Except DiagServiceError Unit)
    (events : List SendEvent) : List Delivery :=
  match sent with
  | .error e => [.error e]
  | .ok () => receiveAll request expectUdsReply .waiting events

/-- The task stops at the first item it cannot send: the caller drops its end after so
many items, or never. -/
def forwarded (dropsAfter : Option Nat) (deliveries : List Delivery) : List Delivery :=
  match dropsAfter with
  | some count => deliveries.take count
  | none => deliveries

end DiagnosticAdapter.Doip
