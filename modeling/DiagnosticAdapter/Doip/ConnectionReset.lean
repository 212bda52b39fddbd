import DiagnosticAdapter.Doip.Gateways

/-!
# The connection of one gateway after its set-up

The receiver and the sender task see the connection fail and ask the reset task for a new
one over a channel with room for one request.  Beside them the set-up path is about to
notify that the gateway is connected.
-/

namespace DiagnosticAdapter.Doip

open Function

inductive IoTask where
  | receiver
  | sender
  deriving DecidableEq, Repr

/-- The number of the connection on which the failure was observed; the source sends a text for the
log. -/
abbrev ResetRequest := Nat

structure Notification where
  connected : Bool
  ecuNames : List String
  deriving DecidableEq, Repr

inductive ResetPhase where
  /-- In `recv`. -/
  | listening
  /-- In `on_gateway_disconnected`. -/
  | disconnecting (request : ResetRequest)
  /-- In `lock_connection`. -/
  | locking (request : ResetRequest)
  /-- Both halves of the connection are locked from here on. -/
  | establishing (request : ResetRequest) (reconnectAttempts : Nat)
  /-- In `on_gateway_connected`. -/
  | connecting
  | draining
  | ended
  deriving DecidableEq, Repr

/-- What is left of `handle_gateway_connection` once its tasks run. -/
inductive SetUpPhase where
  /-- The connection is being pushed to the others. -/
  | publishing
  /-- In `on_gateway_connected`. -/
  | connecting
  | returned
  deriving DecidableEq, Repr

structure ReplacedConnection where
  connection : Nat
  request : ResetRequest
  deriving DecidableEq, Repr

structure GatewayLink where
  reset : ResetPhase
  /-- The last round of attempts was used up. -/
  gaveUp : Bool
  setUp : SetUpPhase
  connection : Nat
  channel : Option ResetRequest
  /-- The failure an I/O task has observed, until its request is in the channel. -/
  observed : IoTask → Option ResetRequest
  ioEnded : IoTask → Bool
  notifications : List Notification
  replaced : List ReplacedConnection

inductive LinkEvent where
  | observe (task : IoTask)
  | enqueue (task : IoTask)
  | endIo (task : IoTask)
  | receive
  | closed
  | notified
  | lock
  | establish (established : Bool)
  | drain
  | drained
  | published
  | setUpNotified
  deriving DecidableEq, Repr

/-- The names for the notifications, found by the logical addresses alone. -/
def ecuNamesForGateway (ecus : Ecus) (ecuIds : List UInt16) : List String :=
  (ecus.filter fun ecu => ecuIds.contains ecu.logicalAddress).map (·.name)

/-- What `handle_gateway_connection` hands to the tasks of a gateway. -/
structure GatewaySetup where
  ecus : List UInt16
  ecuNames : List String
  maxRetryAttempts : Nat

def gatewaySetup (ecus : Ecus) (gateway : UInt16) (maxRetryAttempts : Nat) :
    Option GatewaySetup :=
  (ecusBehind ecus gateway).map fun ecuIds =>
    ⟨ecuIds, ecuNamesForGateway ecus ecuIds, maxRetryAttempts⟩

namespace GatewayLink

def initial : GatewayLink where
  reset := .listening
  gaveUp := false
  setUp := .publishing
  connection := 0
  channel := none
  observed := fun _ => none
  ioEnded := fun _ => false
  notifications := []
  replaced := []

def isLocked (link : GatewayLink) : Bool :=
  match link.reset with
  | .establishing _ _ | .connecting | .draining => true
  | _ => false

def notify (connected : Bool) (setup : GatewaySetup) (link : GatewayLink) : GatewayLink :=
  { link with notifications := link.notifications ++ [⟨connected, setup.ecuNames⟩] }

/-- The halves of the new connection take the place of the old ones. -/
def reconnect (request : ResetRequest) (link : GatewayLink) : GatewayLink :=
  { link with
    reset := .connecting
    gaveUp := false
    connection := link.connection + 1
    replaced := link.replaced ++ [⟨link.connection, request⟩] }

def step (setup : GatewaySetup) (link : GatewayLink) : LinkEvent → Option GatewayLink
  | .observe task =>
    if link.isLocked = false ∧ link.observed task = none ∧ link.ioEnded task = false then
      some { link with
        observed := update link.observed task (some link.connection) }
    else none
  | .enqueue task =>
    match link.channel, link.observed task with
    | none, some request =>
      some { link with
        channel := some request
        observed := update link.observed task none }
    | _, _ => none
  | .endIo task =>
    if link.observed task = none then
      some { link with ioEnded := update link.ioEnded task true }
    else none
  | .receive =>
    match link.reset, link.channel with
    | .listening, some request =>
      some ({ link with
        channel := none
        reset := .disconnecting request }.notify false setup)
    | _, _ => none
  | .closed =>
    if link.reset = .listening ∧ link.channel = none ∧
        link.ioEnded .receiver = true ∧ link.ioEnded .sender = true then
      some { link with reset := .ended }
    else none
  | .notified =>
    match link.reset with
    | .disconnecting request => some { link with reset := .locking request }
    | .connecting => some { link with reset := .draining }
    | _ => none
  | .lock =>
    match link.reset with
    | .locking request => some { link with reset := .establishing request 0 }
    | _ => none
  | .establish established =>
    match link.reset with
    | .establishing request reconnectAttempts =>
      if established then
        some ((link.reconnect request).notify true setup)
      else if reconnectAttempts + 1 ≥ setup.maxRetryAttempts then
        -- the lock is released and the requests in the channel are kept
        some { link with
          reset := .listening
          gaveUp := true }
      else
        some { link with reset := .establishing request (reconnectAttempts + 1) }
    | _ => none
  | .drain =>
    match link.reset, link.channel with
    | .draining, some _ => some { link with channel := none }
    | _, _ => none
  | .drained =>
    match link.reset, link.channel with
    | .draining, none => some { link with reset := .listening }
    | _, _ => none
  | .published =>
    match link.setUp with
    | .publishing => some ({ link with setUp := .connecting }.notify true setup)
    | _ => none
  | .setUpNotified =>
    match link.setUp with
    | .connecting => some { link with setUp := .returned }
    | _ => none

end GatewayLink

section

variable {setup : GatewaySetup} {link next : GatewayLink}

inductive LinkStep (setup : GatewaySetup) (link : GatewayLink) :
    LinkEvent → GatewayLink → Prop where
  | observed {task} :
      link.isLocked = false → link.observed task = none → link.ioEnded task = false →
      LinkStep setup link (.observe task)
        { link with observed := update link.observed task (some link.connection) }
  | enqueued {task request} :
      link.channel = none → link.observed task = some request →
      LinkStep setup link (.enqueue task)
        { link with
          channel := some request
          observed := update link.observed task none }
  | ioEnded {task} :
      link.observed task = none →
      LinkStep setup link (.endIo task) { link with ioEnded := update link.ioEnded task true }
  | received {request} :
      link.reset = .listening → link.channel = some request →
      LinkStep setup link .receive
        ({ link with
          channel := none
          reset := .disconnecting request }.notify false setup)
  | closed :
      link.reset = .listening → link.channel = none →
      link.ioEnded .receiver = true → link.ioEnded .sender = true →
      LinkStep setup link .closed { link with reset := .ended }
  | disconnectNotified {request} :
      link.reset = .disconnecting request →
      LinkStep setup link .notified { link with reset := .locking request }
  | connectNotified :
      link.reset = .connecting → LinkStep setup link .notified { link with reset := .draining }
  | locked {request} :
      link.reset = .locking request →
      LinkStep setup link .lock { link with reset := .establishing request 0 }
  | established {request reconnectAttempts} :
      link.reset = .establishing request reconnectAttempts →
      LinkStep setup link (.establish true) ((link.reconnect request).notify true setup)
  | gaveUp {request reconnectAttempts} :
      link.reset = .establishing request reconnectAttempts →
      reconnectAttempts + 1 ≥ setup.maxRetryAttempts →
      LinkStep setup link (.establish false)
        { link with
          reset := .listening
          gaveUp := true }
  | retried {request reconnectAttempts} :
      link.reset = .establishing request reconnectAttempts →
      reconnectAttempts + 1 < setup.maxRetryAttempts →
      LinkStep setup link (.establish false)
        { link with reset := .establishing request (reconnectAttempts + 1) }
  | discarded {request} :
      link.reset = .draining → link.channel = some request →
      LinkStep setup link .drain { link with channel := none }
  | drained :
      link.reset = .draining → link.channel = none →
      LinkStep setup link .drained { link with reset := .listening }
  | published :
      link.setUp = .publishing →
      LinkStep setup link .published ({ link with setUp := .connecting }.notify true setup)
  | setUpNotified :
      link.setUp = .connecting →
      LinkStep setup link .setUpNotified { link with setUp := .returned }

theorem LinkStep.of_step {event : LinkEvent} (taken : link.step setup event = some next) :
    LinkStep setup link event next := by
  cases event <;> simp only [GatewayLink.step] at taken
  case observe =>
    split at taken
    case isTrue free =>
      cases taken
      exact .observed free.1 free.2.1 free.2.2
    case isFalse => cases taken
  case enqueue =>
    split at taken
    case h_1 empty held =>
      cases taken
      exact .enqueued empty held
    case h_2 => cases taken
  case endIo =>
    split at taken
    case isTrue idle =>
      cases taken
      exact .ioEnded idle
    case isFalse => cases taken
  case receive =>
    split at taken
    case h_1 listening waiting =>
      cases taken
      exact .received listening waiting
    case h_2 => cases taken
  case closed =>
    split at taken
    case isTrue idle =>
      cases taken
      exact .closed idle.1 idle.2.1 idle.2.2.1 idle.2.2.2
    case isFalse => cases taken
  case notified =>
    split at taken
    case h_1 phase =>
      cases taken
      exact .disconnectNotified phase
    case h_2 phase =>
      cases taken
      exact .connectNotified phase
    case h_3 => cases taken
  case lock =>
    split at taken
    case h_1 phase =>
      cases taken
      exact .locked phase
    case h_2 => cases taken
  case establish established =>
    split at taken
    case h_1 phase =>
      cases established with
      | true =>
        cases taken
        exact .established phase
      | false =>
        rw [if_neg Bool.false_ne_true] at taken
        split at taken
        case isTrue exhausted =>
          cases taken
          exact .gaveUp phase exhausted
        case isFalse left =>
          cases taken
          exact .retried phase (Nat.not_le.mp left)
    case h_2 => cases taken
  case drain =>
    split at taken
    case h_1 phase waiting =>
      cases taken
      exact .discarded phase waiting
    case h_2 => cases taken
  case drained =>
    split at taken
    case h_1 phase empty =>
      cases taken
      exact .drained phase empty
    case h_2 => cases taken
  case published =>
    split at taken
    case h_1 phase =>
      cases taken
      exact .published phase
    case h_2 => cases taken
  case setUpNotified =>
    split at taken
    case h_1 phase =>
      cases taken
      exact .setUpNotified phase
    case h_2 => cases taken

end

end DiagnosticAdapter.Doip
