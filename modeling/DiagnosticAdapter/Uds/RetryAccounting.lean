import DiagnosticAdapter.Uds.Transport

/-!
# Accounting for repeated requests

How often `send_with_raw_payload` transmits its request, when it gives up, and how long it
waits for a response, told from what the gateway and the clock do to it.
-/

namespace DiagnosticAdapter.Uds

open Codec Effects

def Phase.isSending : Phase → Bool
  | .sending => true
  | _ => false

def UdsParameters.validatePending (parameters : UdsParameters) (elapsed : Duration) :
    PendingNrc → Except DiagServiceError Unit
  | .responsePending _ =>
    validateTimeoutByPolicy parameters.rc78RetryPolicy elapsed parameters.rc78CompletionTimeout
  | .busyRepeatRequest _ =>
    validateTimeoutByPolicy parameters.rc21RetryPolicy elapsed parameters.rc21CompletionTimeout
  | .temporarilyNotAvailable _ =>
    validateTimeoutByPolicy parameters.rc94RetryPolicy elapsed parameters.rc94CompletionTimeout

def PendingNrc.isResponsePending : PendingNrc → Bool
  | .responsePending _ => true
  | .busyRepeatRequest _ | .temporarilyNotAvailable _ => false

namespace Exchange

/-- The pending response that the event hands to the call, if its policy lets it pass. -/
def passes (exchange : Exchange) : GatewayEvent → Option PendingNrc
  | .receive elapsed =>
    match exchange.phase, exchange.channels exchange.attempt with
    | .reading, .ok (some (.pending nrc)) :: _ =>
      match exchange.parameters.validatePending elapsed nrc with
      | .ok () => some nrc
      | .error _ => none
    | _, _ => none
  | _ => none

/-- The event passes a response that asks to repeat the request later. -/
def passesBusy (exchange : Exchange) (event : GatewayEvent) : Bool :=
  (exchange.passes event).any (!·.isResponsePending)

def passesResponsePending (exchange : Exchange) (event : GatewayEvent) : Bool :=
  (exchange.passes event).any (·.isResponsePending)

/-- A transmission failure, a receive error, a closed channel or a timeout. -/
def fails (exchange : Exchange) : GatewayEvent → Bool
  | .sendReturns (.error _) => exchange.phase.isSending
  | .receive _ =>
    match exchange.phase, exchange.channels exchange.attempt with
    | .reading, .error _ :: _ => true
    | .reading, [] => exchange.closed exchange.attempt
    | _, _ => false
  | .timeout _ =>
    match exchange.phase with
    | .reading => true
    | _ => false
  | _ => false

end Exchange

def GatewayEvent.transmits : GatewayEvent → Bool
  | .sendReturns _ => true
  | _ => false

/-- What a call has done so far; `pended` is about the transmission that is on. -/
structure Account where
  transmissions : Nat
  passedBusy : Nat
  repeats : Nat
  pended : Bool
  deriving DecidableEq, Repr

namespace Account

def zero : Account := ⟨0, 0, 0, false⟩

def charge (account : Account) (exchange : Exchange) (event : GatewayEvent)
    (next : Exchange) : Account where
  transmissions := account.transmissions + event.transmits.toNat
  passedBusy := account.passedBusy + (exchange.passesBusy event).toNat
  repeats := account.repeats + (exchange.fails event && next.phase.isSending).toNat
  pended := !event.transmits && (account.pended || exchange.passesResponsePending event)

end Account

structure Ledger where
  exchange : Exchange
  account : Account

def Ledger.Step (call : Call) (ledger : Ledger) (event : GatewayEvent) (next : Ledger) : Prop :=
  ledger.exchange.step call event = some next.exchange ∧
    next.account = ledger.account.charge ledger.exchange event next.exchange

def Exchange.waitsFor (call : Call) (exchange : Exchange) : Duration :=
  exchange.rxTimeoutNext.getD (exchange.rxTimeout call)

def Phase.Unsent (phase : Phase) : Prop :=
  phase = .queueing ∨ phase = .sending

/-- How the variables of the call go with its account. -/
structure Balanced (ledger : Ledger) : Prop where
  attempts : ledger.exchange.attempt = ledger.account.repeats + ledger.account.passedBusy
  repeats : ledger.exchange.appRetryCount = ledger.account.repeats
  bounded : ledger.account.repeats ≤ ledger.exchange.parameters.repeatReqCountApp
  transmissions : ledger.account.transmissions ≤ ledger.exchange.attempt + 1
  unsent : ledger.exchange.phase.Unsent → ledger.account.transmissions ≤ ledger.exchange.attempt

/-- The longer timeout belongs to a response pending of the present transmission. -/
structure Timely (ledger : Ledger) : Prop where
  pended : ledger.exchange.rxTimeoutNext ≠ none → ledger.account.pended = true
  unsent : ledger.exchange.phase.Unsent → ledger.exchange.rxTimeoutNext = none

section Steps

variable {call : Call} {exchange next : Exchange} {event : GatewayEvent} {account : Account}

/-- Everything a step does to the variables that are accounted for. -/
inductive Entry (exchange : Exchange) (event : GatewayEvent) : Exchange → Prop
  | quiet {next : Exchange} :
      event.transmits = false → exchange.fails event = false → exchange.passes event = none →
      (next.phase.Unsent → exchange.phase.Unsent) →
      next.attempt = exchange.attempt → next.appRetryCount = exchange.appRetryCount →
      next.rxTimeoutNext = exchange.rxTimeoutNext → next.parameters = exchange.parameters →
      Entry exchange event next
  | sent {next : Exchange} :
      event = .sendReturns (.ok ()) → exchange.phase = .sending → ¬ next.phase.Unsent →
      next.attempt = exchange.attempt → next.appRetryCount = exchange.appRetryCount →
      next.rxTimeoutNext = exchange.rxTimeoutNext → next.parameters = exchange.parameters →
      Entry exchange event next
  | repeated {next : Exchange} :
      exchange.fails event = true → exchange.passes event = none →
      (event.transmits = true → exchange.phase = .sending) →
      exchange.appRetryCount < exchange.parameters.repeatReqCountApp →
      next.phase = .sending → next.attempt = exchange.attempt + 1 →
      next.appRetryCount = exchange.appRetryCount + 1 → next.rxTimeoutNext = none →
      next.parameters = exchange.parameters → Entry exchange event next
  | gaveUp {next : Exchange} :
      exchange.fails event = true → exchange.passes event = none →
      (event.transmits = true → exchange.phase = .sending) →
      exchange.parameters.repeatReqCountApp ≤ exchange.appRetryCount →
      ¬ next.phase.Unsent → next.attempt = exchange.attempt →
      next.appRetryCount = exchange.appRetryCount →
      next.rxTimeoutNext = exchange.rxTimeoutNext → next.parameters = exchange.parameters →
      Entry exchange event next
  | busy {nrc : PendingNrc} {next : Exchange} :
      event.transmits = false → exchange.fails event = false →
      exchange.passes event = some nrc → nrc.isResponsePending = false →
      next.phase = .sending → next.attempt = exchange.attempt + 1 →
      next.appRetryCount = exchange.appRetryCount →
      next.rxTimeoutNext = exchange.rxTimeoutNext → next.parameters = exchange.parameters →
      Entry exchange event next
  | pending {nrc : PendingNrc} {next : Exchange} :
      event.transmits = false → exchange.fails event = false →
      exchange.passes event = some nrc → nrc.isResponsePending = true →
      ¬ next.phase.Unsent → next.attempt = exchange.attempt →
      next.appRetryCount = exchange.appRetryCount → next.parameters = exchange.parameters →
      Entry exchange event next

theorem entry_repeatOr (fails : exchange.fails event = true) (passes : exchange.passes event = none)
    (sending : event.transmits = true → exchange.phase = .sending)
    (channels : Nat → List Delivery) {exhausted : Phase} (notUnsent : ¬ exhausted.Unsent) :
    Entry exchange event ({ exchange with channels }.repeatOr exhausted) := by
  rw [Exchange.repeatOr]
  split
  · rename_i below
    exact .repeated fails passes sending below rfl rfl rfl rfl rfl
  · rename_i reached
    exact .gaveUp fails passes sending (not_lt.1 reached) notUnsent rfl rfl rfl rfl

section

variable {elapsed : Duration} (reading : exchange.phase = .reading)

include reading

theorem entry_receiveMessage {message : ServicePayload} {rest : List Delivery}
    (head : exchange.channels exchange.attempt = .ok (some (.udsResponse message)) :: rest)
    (channels : Nat → List Delivery) :
    Entry exchange (.receive elapsed) ({ exchange with channels }.receiveMessage call message) := by
  have fails : exchange.fails (.receive elapsed) = false := by
    simp [Exchange.fails, reading, head]
  have passes : exchange.passes (.receive elapsed) = none := by
    simp [Exchange.passes, reading, head]
  rw [Exchange.receiveMessage]
  split
  · split
    · exact .quiet rfl fails passes id rfl rfl rfl rfl
    · exact .quiet rfl fails passes (by simp [Phase.Unsent]) rfl rfl rfl rfl
  · exact .quiet rfl fails passes id rfl rfl rfl rfl

theorem entry_receivePending {nrc : PendingNrc} {rest : List Delivery}
    (head : exchange.channels exchange.attempt = .ok (some (.pending nrc)) :: rest)
    (channels : Nat → List Delivery) :
    Entry exchange (.receive elapsed) ({ exchange with channels }.receivePending elapsed nrc) := by
  have fails : exchange.fails (.receive elapsed) = false := by
    simp [Exchange.fails, reading, head]
  have passes : exchange.passes (.receive elapsed) =
      match exchange.parameters.validatePending elapsed nrc with
      | .ok () => some nrc
      | .error _ => none := by
    simp only [Exchange.passes, reading, head]
  have notUnsent : ¬ exchange.phase.Unsent := by
    simp [Phase.Unsent, reading]
  have busy (isBusy : nrc.isResponsePending = false) {policy : RetryPolicy}
      {completionTimeout : Duration}
      (validated : exchange.parameters.validatePending elapsed nrc =
        validateTimeoutByPolicy policy elapsed completionTimeout) :
      Entry exchange (.receive elapsed)
        ({ exchange with channels }.busyRepeat policy elapsed completionTimeout) := by
    rw [validated] at passes
    rw [Exchange.busyRepeat]
    split
    · rename_i refused
      rw [refused] at passes
      exact .quiet rfl fails passes (by simp [Phase.Unsent]) rfl rfl rfl rfl
    · rename_i allowed
      rw [allowed] at passes
      exact .busy rfl fails passes isBusy rfl rfl rfl rfl rfl
  cases nrc with
  | responsePending sourceAddress =>
    simp only [UdsParameters.validatePending] at passes
    rw [Exchange.receivePending]
    split
    · rename_i refused
      rw [refused] at passes
      exact .quiet rfl fails passes (by simp [Phase.Unsent]) rfl rfl rfl rfl
    · rename_i validated
      rw [validated] at passes
      exact .pending rfl fails passes rfl notUnsent rfl rfl rfl
  | busyRepeatRequest sourceAddress | temporarilyNotAvailable sourceAddress => exact busy rfl rfl

theorem entry_receive (received : exchange.receive call elapsed = some next) :
    Entry exchange (.receive elapsed) next := by
  rw [Exchange.receive] at received
  split at received
  · rename_i delivery rest head
    cases received
    match delivery with
    | .ok (some (.udsResponse message)) =>
      exact entry_receiveMessage reading head _
    | .ok (some (.pending nrc)) => exact entry_receivePending reading head _
    | .ok none =>
      exact .quiet rfl (by simp [Exchange.fails, reading, head])
        (by simp [Exchange.passes, reading, head]) (by simp [Exchange.receiveDelivery, Phase.Unsent])
        rfl rfl rfl rfl
    | .error e =>
      exact entry_repeatOr (by simp [Exchange.fails, reading, head])
        (by simp [Exchange.passes, reading, head]) (fun sends => by cases sends) _
        (by simp [Phase.Unsent])
  · rename_i head
    split at received
    · rename_i closed
      cases received
      exact entry_repeatOr (by simp [Exchange.fails, reading, head, closed])
        (by simp [Exchange.passes, reading, head]) (fun sends => by cases sends)
        exchange.channels (by simp [Phase.Unsent])
    · cases received

end

theorem entry_of_step (stepped : exchange.step call event = some next) :
    Entry exchange event next := by
  cases event with
  | deliver attempt delivery =>
    simp only [Exchange.step] at stepped
    split at stepped
    · cases stepped
      exact .quiet rfl rfl rfl id rfl rfl rfl rfl
    · cases stepped
  | close attempt =>
    cases stepped
    exact .quiet rfl rfl rfl id rfl rfl rfl rfl
  | acquired =>
    simp only [Exchange.step] at stepped
    split at stepped
    · rename_i phase
      cases stepped
      exact .quiet rfl rfl rfl (fun _ => .inl phase) rfl rfl rfl rfl
    · cases stepped
  | notAcquired =>
    simp only [Exchange.step] at stepped
    split at stepped
    · cases stepped
      exact .quiet rfl rfl rfl (by simp [Phase.Unsent]) rfl rfl rfl rfl
    · cases stepped
  | sendReturns result =>
    simp only [Exchange.step] at stepped
    split at stepped
    · rename_i phase
      cases stepped
      refine .sent rfl phase ?_ rfl rfl rfl rfl
      split <;> simp [Phase.Unsent]
    · rename_i phase
      cases stepped
      exact entry_repeatOr (by simp [Exchange.fails, phase, Phase.isSending]) rfl
        (fun _ => phase) exchange.channels (by simp [Phase.Unsent])
    · cases stepped
  | receive elapsed =>
    simp only [Exchange.step] at stepped
    split at stepped
    · rename_i phase
      exact entry_receive phase stepped
    · rename_i phase
      split at stepped
      · cases stepped
        exact .quiet rfl (by simp [Exchange.fails, phase]) (by simp [Exchange.passes, phase])
          (by simp [Phase.Unsent]) rfl rfl rfl rfl
      · cases stepped
    · cases stepped
  | timeout waited =>
    simp only [Exchange.step] at stepped
    split at stepped
    · rename_i phase
      split at stepped
      · cases stepped
        exact entry_repeatOr (by simp [Exchange.fails, phase]) rfl (fun sends => by cases sends)
          exchange.channels (by simp [Phase.Unsent])
      · cases stepped
    · rename_i phase
      split at stepped
      · cases stepped
        exact .quiet rfl (by simp [Exchange.fails, phase]) rfl (by simp [Phase.Unsent]) rfl rfl
          rfl rfl
      · cases stepped
    · cases stepped
  | conclude =>
    simp only [Exchange.step] at stepped
    split at stepped
    · cases stepped
      exact .quiet rfl rfl rfl (by simp [Exchange.conclude, Phase.Unsent]) rfl rfl rfl rfl
    · cases stepped

end Steps

section Runs

variable {call : Call} {ledger next : Ledger} {event : GatewayEvent}

/-- No failure repeats more often than the count allows, and every other repetition is for
a response that passed its policy. -/
theorem Balanced.step (balanced : Balanced ledger) (stepped : Ledger.Step call ledger event next) :
    Balanced next := by
  obtain ⟨exchange, account⟩ := ledger
  obtain ⟨nextExchange, nextAccount⟩ := next
  obtain ⟨taken, charged⟩ := stepped
  obtain ⟨attempts, repeats, bounded, transmissions, unsent⟩ := balanced
  dsimp only at taken charged attempts repeats bounded transmissions unsent
  subst charged
  have sends (sending : event.transmits = true → exchange.phase = .sending) :
      account.transmissions + event.transmits.toNat ≤ exchange.attempt + 1 := by
    cases transmits : event.transmits with
    | true =>
      have before := unsent (.inr (sending transmits))
      simpa using before
    | false => simpa using transmissions
  cases entry_of_step taken with
  | quiet transmits fails passes phase attempt appRetryCount _ parameters =>
    constructor <;>
      simp only [Account.charge, Exchange.passesBusy, transmits, fails, passes, attempt,
        appRetryCount, parameters, Option.any_none, Bool.false_and, Bool.toNat_false, add_zero]
    · exact attempts
    · exact repeats
    · exact bounded
    · exact transmissions
    · exact fun isUnsent => unsent (phase isUnsent)
  | sent isSent sending notUnsent attempt appRetryCount _ parameters =>
    have before := unsent (.inr sending)
    subst isSent
    constructor <;>
      simp only [Account.charge, Exchange.passesBusy, Exchange.passes, Exchange.fails,
        GatewayEvent.transmits, attempt, appRetryCount, parameters, Option.any_none,
        Bool.false_and, Bool.toNat_false, Bool.toNat_true, add_zero]
    · exact attempts
    · exact repeats
    · exact bounded
    · omega
    · exact fun isUnsent => absurd isUnsent notUnsent
  | repeated fails passes sending below phase attempt appRetryCount _ parameters =>
    have isSending : nextExchange.phase.isSending = true := by rw [phase]; rfl
    have sends := sends sending
    constructor <;>
      simp only [Account.charge, Exchange.passesBusy, fails, passes, attempt, appRetryCount,
        parameters, isSending, Option.any_none, Bool.and_self, Bool.toNat_false,
        Bool.toNat_true, add_zero]
    · omega
    · omega
    · omega
    · omega
    · exact fun _ => sends
  | gaveUp fails passes sending reached notUnsent attempt appRetryCount _ parameters =>
    have isSending : nextExchange.phase.isSending = false := by
      cases phase : nextExchange.phase with
      | sending => exact absurd (.inr phase) notUnsent
      | _ => rfl
    constructor <;>
      simp only [Account.charge, Exchange.passesBusy, fails, passes, attempt, appRetryCount,
        parameters, isSending, Option.any_none, Bool.and_false, Bool.toNat_false, add_zero]
    · exact attempts
    · exact repeats
    · exact bounded
    · exact sends sending
    · exact fun isUnsent => absurd isUnsent notUnsent
  | busy transmits fails passes isBusy phase attempt appRetryCount _ parameters =>
    constructor <;>
      simp only [Account.charge, Exchange.passesBusy, transmits, fails, passes, isBusy, attempt,
        appRetryCount, parameters, Option.any_some, Bool.not_false, Bool.false_and,
        Bool.toNat_false, Bool.toNat_true, add_zero]
    · omega
    · exact repeats
    · exact bounded
    · omega
    · exact fun _ => transmissions
  | pending transmits fails passes isPending notUnsent attempt appRetryCount parameters =>
    constructor <;>
      simp only [Account.charge, Exchange.passesBusy, transmits, fails, passes, isPending,
        attempt, appRetryCount, parameters, Option.any_some, Bool.not_true, Bool.false_and,
        Bool.toNat_false, add_zero]
    · exact attempts
    · exact repeats
    · exact bounded
    · exact transmissions
    · exact fun isUnsent => absurd isUnsent notUnsent

/-- No request to repeat passes on a transmission that a response pending has passed on. -/
def Patient (ledger : Ledger) (event : GatewayEvent) : Prop :=
  ledger.exchange.passesBusy event = true → ledger.account.pended = false

/-- A longer timeout that a resent request inherits would have come from a response pending
of the transmission before. -/
theorem Timely.step (timely : Timely ledger) (stepped : Ledger.Step call ledger event next)
    (patient : Patient ledger event) : Timely next := by
  obtain ⟨exchange, account⟩ := ledger
  obtain ⟨nextExchange, nextAccount⟩ := next
  obtain ⟨taken, charged⟩ := stepped
  obtain ⟨pended, unsent⟩ := timely
  dsimp only [Patient] at taken charged pended unsent patient
  subst charged
  cases entry_of_step taken with
  | quiet transmits fails passes phase attempt appRetryCount rxTimeoutNext parameters =>
    constructor <;>
      simp only [Account.charge, Exchange.passesResponsePending, transmits, passes,
        rxTimeoutNext, Option.any_none, Bool.or_false, Bool.not_false, Bool.true_and]
    · exact pended
    · exact fun isUnsent => unsent (phase isUnsent)
  | sent isSent sending notUnsent attempt appRetryCount rxTimeoutNext parameters =>
    have before := unsent (.inr sending)
    constructor <;> dsimp only <;> rw [rxTimeoutNext, before]
    · exact fun some => absurd rfl some
    · exact fun _ => rfl
  | repeated fails passes sending below phase attempt appRetryCount rxTimeoutNext parameters =>
    constructor <;> dsimp only <;> rw [rxTimeoutNext]
    · exact fun some => absurd rfl some
    · exact fun _ => rfl
  | gaveUp fails passes sending reached notUnsent attempt appRetryCount rxTimeoutNext
      parameters =>
      constructor
      · dsimp only
        rw [rxTimeoutNext]
        intro some
        cases transmits : event.transmits with
        | true => exact absurd (unsent (.inr (sending transmits))) some
        | false => simp [Account.charge, transmits, pended some]
      · exact fun isUnsent => absurd isUnsent notUnsent
  | busy transmits fails passes isBusy phase attempt appRetryCount rxTimeoutNext parameters =>
    have unpended : account.pended = false := by
      apply patient
      simp [Exchange.passesBusy, passes, isBusy]
    have before : exchange.rxTimeoutNext = none := by
      by_contra some
      rw [pended some] at unpended
      cases unpended
    constructor <;> dsimp only <;> rw [rxTimeoutNext, before]
    · exact fun some => absurd rfl some
    · exact fun _ => rfl
  | pending transmits fails passes isPending notUnsent attempt appRetryCount parameters =>
    constructor
    · intro _
      simp [Account.charge, Exchange.passesResponsePending, transmits, passes, isPending]
    · exact fun isUnsent => absurd isUnsent notUnsent

theorem Ledger.Step.parameters (stepped : Ledger.Step call ledger event next) :
    next.exchange.parameters = ledger.exchange.parameters := by
  cases entry_of_step stepped.1 <;> assumption

/-- A failure ends the call only once the request has been repeated as often as allowed. -/
theorem Balanced.repeats_of_gaveUp {exchange : Exchange} (balanced : Balanced ledger)
    (taken : ledger.exchange.step call event = some exchange)
    (failed : ledger.exchange.fails event = true) (ended : exchange.phase ≠ .sending) :
    ledger.account.repeats = ledger.exchange.parameters.repeatReqCountApp := by
  have repeats := balanced.repeats
  have bounded := balanced.bounded
  cases entry_of_step taken with
  | quiet _ fails => exact absurd (fails.symm.trans failed) Bool.false_ne_true
  | sent isSent =>
    subst isSent
    cases failed
  | repeated _ _ _ _ phase => exact absurd phase ended
  | gaveUp _ _ _ reached => omega
  | busy _ fails | pending _ fails => exact absurd (fails.symm.trans failed) Bool.false_ne_true

theorem begin_ledger {states : UInt8 → Option String} {exchange : Exchange}
    {parameters : UdsParameters} (ecu : call.ecu = .ok parameters)
    (begun : sendWithRawPayload call states = .ok exchange) :
    exchange.parameters = parameters ∧ Balanced ⟨exchange, .zero⟩ ∧ Timely ⟨exchange, .zero⟩ := by
  simp only [sendWithRawPayload, ecu] at begun
  cases first : call.payload.data.head? with
  | none =>
    simp only [first] at begun
    cases begun
  | some sentSid =>
    simp only [first] at begun
    cases begun
    refine ⟨rfl, ⟨rfl, rfl, Nat.zero_le _, Nat.zero_le _, fun _ => Nat.zero_le _⟩, ?_⟩
    exact ⟨fun some => absurd rfl some, fun _ => rfl⟩

/-- The transmissions are paid for, a failure ends the call only after all its repeats, and
the wait for a first frame is as long as the request allows. -/
structure RetryAccounted (call : Call) (parameters : UdsParameters) (ledger : Ledger) : Prop where
  transmissions : ledger.account.transmissions ≤
    1 + parameters.repeatReqCountApp + ledger.account.passedBusy
  exhausted : ∀ event next, ledger.exchange.step call event = some next →
    ledger.exchange.fails event = true → next.phase ≠ .sending →
      ledger.account.repeats = parameters.repeatReqCountApp
  waits : ledger.exchange.phase = .reading → ledger.account.pended = false →
    ledger.exchange.waitsFor call = ledger.exchange.rxTimeout call

/-- The account of a call, in every run in which no request to repeat follows a response
pending on one transmission. -/
theorem retry_accounting_of_run {states : UInt8 → Option String} {exchange : Exchange}
    {parameters : UdsParameters} {events : List GatewayEvent}
    (ecu : call.ecu = .ok parameters)
    (begun : sendWithRawPayload call states = .ok exchange)
    (run : Run (fun ledger event next => Ledger.Step call ledger event next ∧
      Patient ledger event) ⟨exchange, .zero⟩ events ledger) :
    RetryAccounted call parameters ledger := by
  obtain ⟨initially, startsBalanced, startsTimely⟩ := begin_ledger ecu begun
  obtain ⟨same, balanced, timely⟩ : ledger.exchange.parameters = parameters ∧
      Balanced ledger ∧ Timely ledger := by
    apply run.keeps (fun _ ledger => ledger.exchange.parameters = parameters ∧
      Balanced ledger ∧ Timely ledger) ⟨initially, startsBalanced, startsTimely⟩
    intro _ _ _ _ ⟨same, balanced, timely⟩ ⟨stepped, patient⟩
    exact ⟨stepped.parameters.trans same, balanced.step stepped, timely.step stepped patient⟩
  refine ⟨?_, ?_, ?_⟩
  · have attempts := balanced.attempts
    have bounded := balanced.bounded
    have transmissions := balanced.transmissions
    rw [same] at bounded
    omega
  · intro event next taken failed ended
    rw [← same]
    exact balanced.repeats_of_gaveUp taken failed ended
  · intro _ unpended
    have shorter : ledger.exchange.rxTimeoutNext = none := by
      by_contra some
      rw [timely.pended some] at unpended
      cases unpended
    rw [Exchange.waitsFor, shorter, Option.getD_none]

end Runs

section Calls

def Ledger.step (call : Call) (ledger : Ledger) (event : GatewayEvent) : Option Ledger :=
  (ledger.exchange.step call event).map fun next =>
    ⟨next, ledger.account.charge ledger.exchange event next⟩

theorem Ledger.Step.of_step {call : Call} {ledger next : Ledger} {event : GatewayEvent}
    (stepped : ledger.step call event = some next) : Ledger.Step call ledger event next := by
  obtain ⟨exchange, taken, rfl⟩ := Option.map_eq_some_iff.1 stepped
  exact ⟨taken, rfl⟩

def isPatient (ledger : Ledger) (event : GatewayEvent) : Bool :=
  !ledger.exchange.passesBusy event || !ledger.account.pended

theorem patient_of_isPatient {ledger : Ledger} {event : GatewayEvent}
    (patient : isPatient ledger event = true) : Patient ledger event := by
  intro passes
  simpa [isPatient, passes] using patient

/-- A response may take longer once the ECU has announced it. -/
def announcedParameters : UdsParameters where
  timeoutDefault := 1000
  rc21RetryPolicy := .continueUnlimited
  rc21CompletionTimeout := 0
  rc78RetryPolicy := .continueUnlimited
  rc78CompletionTimeout := 0
  rc78Timeout := 5000
  rc94RetryPolicy := .disabled
  rc94CompletionTimeout := 0
  repeatReqCountApp := 1

def announcedCall : Call where
  ecu := .ok announcedParameters
  payload := ⟨[0x22, 0xF1, 0x90], 0x0E00, 0x1001, none, none⟩
  timeout := none
  expectResponse := true

def busyRepeat : GatewayEvent :=
  .deliver 0 (.ok (some (.pending (.busyRepeatRequest 0x1001))))

def responsePending (attempt : Nat) : GatewayEvent :=
  .deliver attempt (.ok (some (.pending (.responsePending 0x1001))))

/-- The ECU is busy once, its connection fails once, and then it announces its response. -/
def busyThenFailed : List GatewayEvent :=
  [.acquired, .sendReturns (.ok ()), busyRepeat, .receive 10, .sendReturns (.ok ()),
    .timeout 1000, .sendReturns (.ok ()), responsePending 2, .receive 20]

theorem accounting_of_busyThenFailed : ∃ (exchange : Exchange) (ledger : Ledger),
      sendWithRawPayload announcedCall (fun _ => none) = .ok exchange ∧
      ledger.account = ⟨3, 1, 1, true⟩ ∧ ledger.exchange.phase = .reading ∧
      RetryAccounted announcedCall announcedParameters ledger := by
  have run : ∃ (exchange : Exchange) (ledger : Ledger),
      sendWithRawPayload announcedCall (fun _ => none) = .ok exchange ∧
      Run (fun ledger event next => ledger.step announcedCall event = some next ∧
        isPatient ledger event = true) ⟨exchange, .zero⟩ busyThenFailed ledger ∧
      ledger.account = ⟨3, 1, 1, true⟩ ∧ ledger.exchange.phase = .reading :=
    ⟨_, _, rfl, Run.of_guarded_foldlM rfl, rfl, rfl⟩
  obtain ⟨exchange, ledger, begun, run, account, phase⟩ := run
  have patient : Run (fun ledger event next => Ledger.Step announcedCall ledger event next ∧
      Patient ledger event) ⟨exchange, .zero⟩ busyThenFailed ledger := by
    apply run.mono
    intro _ _ _ taken
    exact ⟨.of_step taken.1, patient_of_isPatient taken.2⟩
  exact ⟨exchange, ledger, begun, account, phase, retry_accounting_of_run rfl begun patient⟩

/-- The ECU announces its response, and is then too busy to give it. -/
def pendingThenBusy : List GatewayEvent :=
  [.acquired, .sendReturns (.ok ()), responsePending 0, .receive 10, busyRepeat, .receive 20,
    .sendReturns (.ok ())]

theorem resent_request_waits_for_pending :
    ¬ ∀ (call : Call) (states : UInt8 → Option String) (exchange : Exchange)
        (parameters : UdsParameters) (events : List GatewayEvent) (ledger : Ledger),
      call.ecu = .ok parameters → sendWithRawPayload call states = .ok exchange →
      Run (Ledger.Step call) ⟨exchange, .zero⟩ events ledger →
        RetryAccounted call parameters ledger := by
  intro everyRunAccounted
  have run : ∃ (exchange : Exchange) (ledger : Ledger),
      sendWithRawPayload announcedCall (fun _ => none) = .ok exchange ∧
      Run (fun ledger event next => ledger.step announcedCall event = some next)
        ⟨exchange, .zero⟩ pendingThenBusy ledger ∧
      ledger.exchange.phase = .reading ∧ ledger.account.pended = false ∧
      ledger.exchange.waitsFor announcedCall = 5000 ∧
      ledger.exchange.rxTimeout announcedCall = 1000 :=
    ⟨_, _, rfl, Run.of_foldlM rfl, rfl, rfl, rfl, rfl⟩
  obtain ⟨exchange, ledger, begun, run, phase, unpended, waits, timeout⟩ := run
  have stepped : Run (Ledger.Step announcedCall) ⟨exchange, .zero⟩ pendingThenBusy ledger :=
    run.mono fun _ _ _ taken => .of_step taken
  have same := (everyRunAccounted _ _ _ _ _ _ rfl begun stepped).waits phase unpended
  rw [waits, timeout] at same
  exact absurd same (by decide)

end Calls

end DiagnosticAdapter.Uds
