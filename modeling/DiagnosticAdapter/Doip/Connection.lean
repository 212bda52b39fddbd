import DiagnosticAdapter.Doip.SendTask

/-!
# The tasks of a gateway connection

The receiver task, which routes what it reads to the channels of the ECUs, and the sender
task, which reads after an alive check.  A watch flag makes the receiver let go of the
connection while the sender is busy.
-/

namespace DiagnosticAdapter.Doip

open Uds

inductive DoipPayload where
  | diagnosticMessage (message : DiagnosticMessage)
  | diagnosticMessageAck (sourceAddress : UInt16) (previous : List UInt8)
  | diagnosticMessageNack (sourceAddress : UInt16) (nackCode : UInt8)
  | genericNack (nackCode : UInt8)
  | aliveCheckResponse
  | nonDiagnostic
  deriving DecidableEq, Repr

inductive Incoming where
  | message (payload : DoipPayload)
  | undecodable (text : String)
  | ended
  deriving DecidableEq, Repr

inductive ConnectionError where
  | closed
  | decoding (message : String)
  | invalidMessage (message : String)
  deriving DecidableEq, Repr

/-- `try_read`, of what has arrived. -/
def tryRead : Incoming → Except ConnectionError DiagnosticResponse
  | .message (.diagnosticMessage message) =>
    if isTesterPresentNrc message.data then .ok (.testerPresentNrc (message.data[2]?.getD 0))
    else .ok (.msg message)
  | .message (.diagnosticMessageNack sourceAddress nackCode) => .ok (.nack sourceAddress nackCode)
  | .message (.genericNack nackCode) => .ok (.genericNack nackCode)
  | .message (.diagnosticMessageAck sourceAddress previous) => .ok (.ack sourceAddress previous)
  | .message .aliveCheckResponse => .ok .aliveCheckResponse
  | .message .nonDiagnostic => .error (.invalidMessage "Received non-diagnostic message")
  | .undecodable text => .error (.decoding s!"Error reading from gateway: {text}")
  | .ended => .error .closed

inductive ReceiverPhase where
  /-- In `select`, without the read lock. -/
  | selecting
  /-- In `select`, with the read lock. -/
  | reading
  /-- Waits for the flag to change back. -/
  | paused
  | stopped
  deriving DecidableEq, Repr

inductive SenderPhase where
  | idle
  | sending
  | checking
  /-- Waits for the read lock. -/
  | awaitingReader
  | reading
  /-- After an Ack it waits, with the read lock, for the read lock. -/
  | awaitingItself
  /-- The flag is still set. -/
  | checked
  | stopped
  deriving DecidableEq, Repr

inductive ConnectionTask where
  | receiver
  | sender
  deriving DecidableEq, Repr

inductive ConnectionEvent where
  | arrive (incoming : Incoming)
  | receiverLocks
  | receiverReads
  /-- The flag has changed, and that branch of `select` is taken. -/
  | receiverYields
  | receiverResumes
  | receiverStops
  | senderTakes
  /-- `false` when the connection was closed. -/
  | senderSent (flagged : Bool)
  | aliveCheck
  | aliveSent (ok : Bool)
  | aliveLocks
  | aliveReads
  | aliveTimeout
  | aliveDone
  | senderStops
  | reconnect

abbrev EcuChannels := UInt16 → List DiagnosticResponse

/-- `outtx.get(&address)` and `send`; the channels are those of the gateway's ECUs. -/
def route (ecus : List UInt16) (address : UInt16) (response : DiagnosticResponse)
    (channels : EcuChannels) : EcuChannels :=
  if address ∈ ecus then Function.update channels address (channels address ++ [response])
  else channels

def handleOkResponse (ecus : List UInt16) (response : DiagnosticResponse)
    (channels : EcuChannels) : EcuChannels :=
  match response with
  | .ack sourceAddress _ => route ecus sourceAddress response channels
  | .msg message => route ecus message.sourceAddress response channels
  | .nack sourceAddress _ => route ecus sourceAddress response channels
  | .genericNack _ | .aliveCheckResponse | .testerPresentNrc _ => channels

structure Connection where
  incoming : List Incoming
  receiver : ReceiverPhase
  sender : SenderPhase
  sendPending : Bool
  /-- The receiver has not seen the flag's last value. -/
  changed : Bool
  resetRequested : Bool
  channels : EcuChannels
  /-- The messages read, with the task that has read each. -/
  readMessages : List (ConnectionTask × DoipPayload)

namespace Connection

def initial : Connection where
  incoming := []
  receiver := .selecting
  sender := .idle
  sendPending := false
  changed := false
  resetRequested := false
  channels := fun _ => []
  readMessages := []

def readerIsFree (connection : Connection) : Bool :=
  connection.receiver != .reading && connection.sender != .reading &&
    connection.sender != .awaitingItself

def flag (sendPending : Bool) (sender : SenderPhase) (connection : Connection) : Connection :=
  { connection with sender := sender, sendPending := sendPending, changed := true }

def note (task : ConnectionTask) (incoming : Incoming) (rest : List Incoming)
    (connection : Connection) : Connection :=
  { connection with
    incoming := rest
    readMessages :=
      match incoming with
      | .message payload => connection.readMessages ++ [(task, payload)]
      | _ => connection.readMessages }

def handleResponse (ecus : List UInt16) (result : Except ConnectionError DiagnosticResponse)
    (connection : Connection) : Connection :=
  match result with
  | .ok response =>
    { connection with channels := handleOkResponse ecus response connection.channels }
  | .error .closed => { connection with resetRequested := true }
  | .error _ => connection

/-- What `handle_alive_request_response` does after a read: the message is only logged. -/
def afterAliveRead : Except ConnectionError DiagnosticResponse → SenderPhase
  | .ok (.ack _ _) => .awaitingItself
  | _ => .checked

def step (ecus : List UInt16) (connection : Connection) : ConnectionEvent → Option Connection
  | .arrive incoming => some { connection with incoming := connection.incoming ++ [incoming] }
  | .receiverLocks =>
    if connection.receiver = .selecting ∧ connection.readerIsFree then
      some { connection with receiver := .reading }
    else
      none
  | .receiverReads =>
    match connection.receiver, connection.incoming with
    | .reading, incoming :: rest =>
      some (handleResponse ecus (tryRead incoming)
        { connection.note .receiver incoming rest with receiver := .selecting })
    | _, _ => none
  | .receiverYields =>
    if connection.changed ∧
        (connection.receiver = .selecting ∨ connection.receiver = .reading) then
      some { connection with
        changed := false
        receiver := if connection.sendPending then .paused else .selecting }
    else
      none
  | .receiverResumes =>
    if connection.changed ∧ connection.receiver = .paused then
      some { connection with changed := false, receiver := .selecting }
    else
      none
  | .receiverStops => some { connection with receiver := .stopped }
  | .senderTakes =>
    if connection.sender = .idle then some (connection.flag true .sending) else none
  | .senderSent flagged =>
    if connection.sender = .sending then
      if flagged then some (connection.flag false .idle)
      else some { connection with sender := .idle }
    else
      none
  | .aliveCheck =>
    if connection.sender = .idle then some (connection.flag true .checking) else none
  | .aliveSent ok =>
    if connection.sender = .checking then
      if ok then some { connection with sender := .awaitingReader }
      else some { connection with sender := .checked, resetRequested := true }
    else
      none
  | .aliveLocks =>
    if connection.sender = .awaitingReader ∧ connection.readerIsFree then
      some { connection with sender := .reading }
    else
      none
  | .aliveReads =>
    match connection.sender, connection.incoming with
    | .reading, incoming :: rest =>
      some { connection.note .sender incoming rest with
        sender := afterAliveRead (tryRead incoming) }
    | _, _ => none
  | .aliveTimeout =>
    match connection.sender with
    | .awaitingReader | .reading | .awaitingItself =>
      some { connection with sender := .checked }
    | _ => none
  | .aliveDone =>
    if connection.sender = .checked then some (connection.flag false .idle) else none
  | .senderStops => some { connection with sender := .stopped }
  | .reconnect =>
    if connection.resetRequested ∧ connection.readerIsFree then
      some { connection with incoming := [], resetRequested := false }
    else
      none

end Connection

end DiagnosticAdapter.Doip
