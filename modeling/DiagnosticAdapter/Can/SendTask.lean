import DiagnosticAdapter.Uds.PendingNrc

/-!
# The send task of the CAN gateway

The loop of `CanDiagGateway::send` that reads packets until one answers the request.
-/

namespace DiagnosticAdapter.Can

open Codec (DiagServiceError)
open Uds

structure SendParameters where
  responseTimeout : Duration
  probeTimeout : Duration
  deriving Repr

inductive ReadResult where
  | frame (data : List UInt8)
  | timeout
  | error (text : String)
  deriving DecidableEq, Repr

structure SendTask where
  exchangeStart : Duration
  deadline : Duration
  receivedAnyFrame : Bool
  finished : Bool
  /-- The ECU is dropped from the discovered set. -/
  undiscovered : Bool
  deriving DecidableEq, Repr

namespace SendTask

/-- `begin_exchange` has written the request, or has failed. -/
def start (parameters : SendParameters) (expectUdsReply : Bool) (begun : Except String Unit)
    (now : Duration) : SendTask × List Delivery :=
  let task : SendTask := ⟨now, now + parameters.responseTimeout, false, false, false⟩
  match begun with
  | .error text => ({ task with finished := true }, [.error (.noResponse text)])
  | .ok () =>
    if expectUdsReply then (task, []) else ({ task with finished := true }, [.ok none])

/-- The loop ends; an ECU that was silent throughout is looked for again. -/
def finish (parameters : SendParameters) (now : Duration) (task : SendTask) : SendTask :=
  { task with
    finished := true
    undiscovered :=
      !task.receivedAnyFrame && decide (parameters.probeTimeout ≤ now - task.exchangeStart) }

def read (parameters : SendParameters) (request : ServicePayload) (now : Duration)
    (task : SendTask) : ReadResult → SendTask × List Delivery
  | .frame data =>
    let task := { task with receivedAnyFrame := true }
    -- before the service id is compared
    match pendingNrcFromRaw data request.sourceAddress with
    | some nrc =>
      ({ task with deadline := now + parameters.responseTimeout }, [.ok (some (.pending nrc))])
    | none =>
      if udsResponseMatchesRequestSid (request.data.head?.getD 0) data then
        (task.finish parameters now, [.ok (some (.udsResponse
            (udsResponseFromRaw data request.sourceAddress request.targetAddress)))])
      else
        (task, [])
  | .timeout => (task.finish parameters now, [.error .timeout])
  | .error text => (task.finish parameters now, [.error (.noResponse text)])

end SendTask

end DiagnosticAdapter.Can
