import DiagnosticAdapter.Can.SendTask
import DiagnosticAdapter.Doip.SendTask

/-!
# Which frames steer an exchange

The UDS send loop with the gateway's task of the current attempt, on either transport.
An attempt's channel is dropped with it, so the tasks of earlier attempts have no part in
the exchange any more.
-/

namespace DiagnosticAdapter.Uds

open Codec Effects

inductive Gateway where
  | can (parameters : Can.SendParameters)
  | doip

inductive GatewayTask where
  | can (task : Can.SendTask)
  | doip (phase : Doip.SendPhase)

inductive GatewayInput where
  | can (now : Duration) (result : Can.ReadResult)
  | doip (event : Doip.SendEvent)

inductive GatewayStart where
  | can (now : Duration) (begun : Except String Unit)
  | doip (sent : Except DiagServiceError Unit)

def Gateway.start (call : Call) : Gateway → GatewayStart → Option (GatewayTask × List Delivery)
  | .can parameters, .can now begun =>
    let (task, deliveries) := Can.SendTask.start parameters call.expectResponse begun now
    some (.can task, deliveries)
  | .doip, .doip (.ok ()) => some (.doip .waiting, [])
  | .doip, .doip (.error e) => some (.doip .finished, [.error e])
  | _, _ => none

def Gateway.read (call : Call) :
    Gateway → GatewayTask → GatewayInput → Option (GatewayTask × List Delivery)
  | .can parameters, .can task, .can now result =>
    if task.finished then none
    else
      let (next, deliveries) := task.read parameters call.payload now result
      some (.can next, deliveries)
  | .doip, .doip phase, .doip event =>
    let (next, deliveries) := Doip.receive call.payload.data call.expectResponse phase event
    some (.doip next, deliveries)
  | _, _, _ => none

/-- The frame that a task takes for an answer in this round; the wait for the Ack passes
over what does not answer the request. -/
def GatewayTask.frame (request : List UInt8) : GatewayTask → GatewayInput → Option (List UInt8)
  | .can _, .can _ (.frame data) => some data
  | .doip .reading, .doip (.receive (.response (.msg message))) => some message.data
  | .doip .waiting, .doip (.receive (.response (.msg message))) =>
    if (Doip.DiagnosticResponse.msg message).matchesRequest request then some message.data
    else none
  | _, _ => none

def GatewayTask.deadline : GatewayTask → Option Duration
  | .can task => some task.deadline
  | .doip _ => none

def Delivery.isPending : Delivery → Bool
  | .ok (some (.pending _)) => true
  | _ => false

inductive EffectKind where
  /-- A Pending item goes to the UDS loop. -/
  | forwarded
  | deadlineExtended
  /-- The UDS loop repeats the request, waits longer or gives up. -/
  | handled
  deriving DecidableEq, Repr

structure PendingEffect where
  frame : List UInt8
  kind : EffectKind
  deriving DecidableEq, Repr

/-- The effects of one round of a gateway's loop, on account of the frame it reads. -/
def gatewayEffects (frame : Option (List UInt8)) (task next : GatewayTask)
    (deliveries : List Delivery) : List PendingEffect :=
  (if deliveries.any Delivery.isPending then [⟨frame.getD [], .forwarded⟩] else []) ++
    (if next.deadline ≠ task.deadline then [⟨frame.getD [], .deadlineExtended⟩] else [])

structure SteeredExchange where
  exchange : Exchange
  /-- The gateway's task of the current attempt. -/
  task : Option GatewayTask
  /-- The frames from which the deliveries in the current attempt's channel stem. -/
  origins : List (List UInt8)
  /-- The frames taken for answers so far. -/
  read : List (List UInt8)
  effects : List PendingEffect

inductive SteeredEvent where
  | start (start : GatewayStart)
  | gateway (input : GatewayInput)
  /-- The UDS loop goes on; the gateway alone delivers. -/
  | uds (event : GatewayEvent)

namespace SteeredExchange

def begin (exchange : Exchange) : SteeredExchange where
  exchange := exchange
  task := none
  origins := []
  read := []
  effects := []

/-- The receiver of the current attempt is still there. -/
def isOpen (state : SteeredExchange) : Bool :=
  match state.exchange.phase with
  | .sending | .acknowledging | .reading => true
  | _ => false

def deliver (deliveries : List Delivery) (origin : List UInt8) (state : SteeredExchange) :
    SteeredExchange :=
  { state with
    exchange := { state.exchange with
      channels := Function.update state.exchange.channels state.exchange.attempt
        (state.exchange.channels state.exchange.attempt ++ deliveries) }
    origins := state.origins ++ deliveries.map fun _ => origin }

/-- The effect of the delivery that `recv` takes. -/
def handledEffects (state : SteeredExchange) : List PendingEffect :=
  match state.exchange.channels state.exchange.attempt with
  | delivery :: _ =>
    if delivery.isPending then [⟨state.origins.head?.getD [], .handled⟩] else []
  | [] => []

/-- The loop has gone on; a new attempt has a channel of its own. -/
def goOn (next : Exchange) (origins : List (List UInt8)) (effects : List PendingEffect)
    (state : SteeredExchange) : SteeredExchange :=
  { state with
    exchange := next
    task := if next.attempt = state.exchange.attempt then state.task else none
    origins := if next.attempt = state.exchange.attempt then origins else []
    effects := effects ++ state.effects }

def step (gateway : Gateway) (call : Call) (state : SteeredExchange) :
    SteeredEvent → Option SteeredExchange
  | .start start =>
    match state.exchange.phase, state.task with
    | .sending, none =>
      match gateway.start call start with
      | some (task, deliveries) =>
        some { state.deliver deliveries [] with task := some task }
      | none => none
    | _, _ => none
  | .gateway input =>
    match state.task with
    | some task =>
      if state.isOpen then
        match gateway.read call task input with
        | some (next, deliveries) =>
          let frame := task.frame call.payload.data input
          let delivered := state.deliver deliveries (frame.getD [])
          some { delivered with
            task := some next
            read := frame.toList ++ state.read
            effects := gatewayEffects frame task next deliveries ++ state.effects }
        | none => none
      else
        none
    | none => none
  | .uds event =>
    match event with
    | .deliver _ _ => none
    | .receive elapsed =>
      match state.exchange.phase with
      | .reading =>
        match state.exchange.step call (.receive elapsed) with
        | some next =>
          some (state.goOn next state.origins.tail state.handledEffects)
        | none => none
      | _ =>
        match state.exchange.step call (.receive elapsed) with
        | some next => some (state.goOn next state.origins [])
        | none => none
    | event =>
      match state.exchange.step call event with
      | some next => some (state.goOn next state.origins [])
      | none => none

end SteeredExchange

end DiagnosticAdapter.Uds
