import DiagnosticAdapter.Uds.ServicePayload
import DiagnosticAdapter.Effects.Run

/-!
# Sending one request

`send_with_raw_payload` of `cda-comm-uds` as a machine that is driven by the events
of the gateway.  Every attempt opens a channel of its own; the gateway task of an
earlier attempt may still push into the channel it was given.  Times are natural
numbers, and the delay before a repeated request is left out.
-/

namespace DiagnosticAdapter.Uds

open Codec Effects Function

abbrev Duration := Nat

inductive RetryPolicy where
  | disabled
  | continueUntilTimeout
  | continueUnlimited
  deriving DecidableEq, Repr

structure UdsParameters where
  timeoutDefault : Duration
  rc21RetryPolicy : RetryPolicy
  rc21CompletionTimeout : Duration
  rc78RetryPolicy : RetryPolicy
  rc78CompletionTimeout : Duration
  rc78Timeout : Duration
  rc94RetryPolicy : RetryPolicy
  rc94CompletionTimeout : Duration
  repeatReqCountApp : Nat
  deriving Repr

inductive PendingNrc where
  | responsePending (sourceAddress : UInt16)
  | busyRepeatRequest (sourceAddress : UInt16)
  | temporarilyNotAvailable (sourceAddress : UInt16)
  deriving DecidableEq, Repr

inductive TransportResponse where
  | pending (nrc : PendingNrc)
  | udsResponse (message : ServicePayload)
  deriving DecidableEq, Repr

abbrev Delivery := Except DiagServiceError (Option TransportResponse)

def validateTimeoutByPolicy (policy : RetryPolicy) (elapsed completionTimeout : Duration) :
    Except DiagServiceError Unit :=
  match policy with
  | .disabled => .error .timeout
  | .continueUntilTimeout => if elapsed > completionTimeout then .error .timeout else .ok ()
  | .continueUnlimited => .ok ()

/-- The arguments of the call, with what the ECU database answers for its name. -/
structure Call where
  ecu : Except DiagServiceError UdsParameters
  payload : ServicePayload
  timeout : Option Duration
  expectResponse : Bool

inductive Phase where
  /-- Waiting for the ECU's semaphore. -/
  | queueing
  /-- Waiting for the gateway to take the request. -/
  | sending
  /-- No response is expected, only the (n)ack. -/
  | acknowledging
  /-- In the loop that reads UDS messages. -/
  | reading
  /-- The semaphore is released, the ECU's states are still to be updated. -/
  | settled (response : Except DiagServiceError ServicePayload)
  | returned (result : Except DiagServiceError (Option ServicePayload))

/-- The variables of the call and what it shares: the channels by attempt, and the
ECU's service states by SID. -/
structure Exchange where
  phase : Phase
  parameters : UdsParameters
  sentSid : UInt8
  attempt : Nat
  appRetryCount : Nat
  rxTimeoutNext : Option Duration
  channels : Nat → List Delivery
  closed : Nat → Bool
  serviceStates : UInt8 → Option String
  disconnected : Bool

inductive GatewayEvent where
  | acquired
  | notAcquired
  | sendReturns (result : Except DiagServiceError Unit)
  | deliver (attempt : Nat) (delivery : Delivery)
  | close (attempt : Nat)
  /-- `recv` returns, `elapsed` after the call began. -/
  | receive (elapsed : Duration)
  | timeout (waited : Duration)
  | conclude

namespace Exchange

/-- `continue 'send`: the next attempt gets a fresh channel. -/
def resend (exchange : Exchange) : Exchange :=
  { exchange with phase := .sending, attempt := exchange.attempt + 1 }

/-- Repeat the request while `CP_RepeatReqCountApp` allows it. -/
def repeatOr (exchange : Exchange) (exhausted : Phase) : Exchange :=
  if exchange.appRetryCount < exchange.parameters.repeatReqCountApp then
    { exchange with
      appRetryCount := exchange.appRetryCount + 1
      rxTimeoutNext := none }.resend
  else
    { exchange with phase := exhausted }

def rxTimeout (call : Call) (exchange : Exchange) : Duration :=
  call.timeout.getD exchange.parameters.timeoutDefault

/-- The busy answers repeat the whole request, without counting as a retry. -/
def busyRepeat (exchange : Exchange) (policy : RetryPolicy)
    (elapsed completionTimeout : Duration) : Exchange :=
  match validateTimeoutByPolicy policy elapsed completionTimeout with
  | .error e => { exchange with phase := .settled (.error e) }
  | .ok () => exchange.resend

def receivePending (exchange : Exchange) (elapsed : Duration) : PendingNrc → Exchange
  | .busyRepeatRequest _ =>
    exchange.busyRepeat exchange.parameters.rc21RetryPolicy elapsed
      exchange.parameters.rc21CompletionTimeout
  | .temporarilyNotAvailable _ =>
    exchange.busyRepeat exchange.parameters.rc94RetryPolicy elapsed
      exchange.parameters.rc94CompletionTimeout
  | .responsePending _ =>
    match validateTimeoutByPolicy exchange.parameters.rc78RetryPolicy elapsed
        exchange.parameters.rc78CompletionTimeout with
    | .error e => { exchange with phase := .settled (.error e) }
    | .ok () => { exchange with rxTimeoutNext := some exchange.parameters.rc78Timeout }

def receiveMessage (call : Call) (exchange : Exchange) (message : ServicePayload) : Exchange :=
  if !message.data.isEmpty && message.isResponseForSid exchange.sentSid then
    if !message.hasMatchingEchoBytes call.payload.data then
      exchange
    else
      { exchange with phase := .settled (.ok message) }
  else
    exchange

def receiveDelivery (call : Call) (exchange : Exchange) (elapsed : Duration) : Delivery → Exchange
  | .ok (some (.udsResponse message)) => exchange.receiveMessage call message
  | .ok (some (.pending nrc)) => exchange.receivePending elapsed nrc
  | .ok none =>
    { exchange with
      phase := .settled
        (.error (.unexpectedResponse (some "Unexpected response received: None"))) }
  | .error e => exchange.repeatOr (.settled (.error e))

/-- `recv` on the channel of the current attempt: the next delivery, or its end. -/
def receive (call : Call) (exchange : Exchange) (elapsed : Duration) : Option Exchange :=
  match exchange.channels exchange.attempt with
  | delivery :: rest =>
    let exchange :=
      { exchange with
        channels := update exchange.channels exchange.attempt rest }
    some (exchange.receiveDelivery call elapsed delivery)
  | [] =>
    if exchange.closed exchange.attempt then
      some (exchange.repeatOr (.settled (.error .timeout)))
    else
      none

/-- `set_service_state` for the states the request leads to. -/
def updateStates (payload : ServicePayload) (states : UInt8 → Option String) :
    UInt8 → Option String :=
  let states := match payload.newSession with
    | some session => update states ServiceIds.sessionControl (some session)
    | none => states
  match payload.newSecurity with
  | some security => update states ServiceIds.securityAccess (some security)
  | none => states

def conclude (call : Call) (exchange : Exchange)
    (response : Except DiagServiceError ServicePayload) : Exchange :=
  { exchange with
    phase := .returned (response.map some)
    disconnected := exchange.disconnected ||
      (decide (response = .error .timeout) && exchange.sentSid != ServiceIds.testerPresent)
    serviceStates :=
      match response with
      | .ok message =>
        if message.isPositiveResponseForSid exchange.sentSid then
          updateStates call.payload exchange.serviceStates
        else
          exchange.serviceStates
      | .error _ => exchange.serviceStates }

def step (call : Call) (exchange : Exchange) : GatewayEvent → Option Exchange
  | .deliver attempt delivery =>
    if attempt ≤ exchange.attempt then
      some { exchange with
        channels := update exchange.channels attempt
          (exchange.channels attempt ++ [delivery]) }
    else
      none
  | .close attempt =>
    some { exchange with closed := update exchange.closed attempt true }
  | .acquired =>
    match exchange.phase with
    | .queueing => some { exchange with phase := .sending }
    | _ => none
  | .notAcquired =>
    match exchange.phase with
    | .queueing => some { exchange with phase := .returned (.error .timeout) }
    | _ => none
  | .sendReturns result =>
    match exchange.phase, result with
    | .sending, .ok () =>
      some { exchange with
        phase := if call.expectResponse then .reading else .acknowledging }
    | .sending, .error e => some (exchange.repeatOr (.returned (.error e)))
    | _, _ => none
  | .receive elapsed =>
    match exchange.phase with
    | .reading => exchange.receive call elapsed
    | .acknowledging =>
      if exchange.channels exchange.attempt ≠ [] ∨ exchange.closed exchange.attempt then
        some { exchange with phase := .returned (.ok none) }
      else
        none
    | _ => none
  | .timeout waited =>
    match exchange.phase with
    | .reading =>
      if exchange.rxTimeoutNext.getD (exchange.rxTimeout call) ≤ waited then
        some (exchange.repeatOr (.settled (.error .timeout)))
      else
        none
    | .acknowledging =>
      if exchange.rxTimeout call ≤ waited then
        some { exchange with phase := .returned (.ok none) }
      else
        none
    | _ => none
  | .conclude =>
    match exchange.phase with
    | .settled response => some (exchange.conclude call response)
    | _ => none

end Exchange

/-- The machine when the call begins, or the error of its first checks. -/
def sendWithRawPayload (call : Call) (serviceStates : UInt8 → Option String) :
    Except DiagServiceError Exchange := do
  let parameters ← call.ecu
  match call.payload.data.head? with
  | none => throw (.badPayload "Cannot sent message without SID")
  | some sentSid =>
    return {
      phase := .queueing
      parameters := parameters
      sentSid := sentSid
      attempt := 0
      appRetryCount := 0
      rxTimeoutNext := none
      channels := fun _ => []
      closed := fun _ => false
      serviceStates := serviceStates
      disconnected := false }

end DiagnosticAdapter.Uds
