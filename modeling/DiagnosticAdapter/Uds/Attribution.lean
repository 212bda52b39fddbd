import DiagnosticAdapter.Uds.Transport

/-!
# To which request a response belongs

A call that returns a message has received it on the channel of its last attempt,
the message answers the request's service and carries its identifier, and only a
positive message moves the ECU's states.
-/

namespace DiagnosticAdapter.Uds

open Codec Effects Function

/-- The message a call has accepted, if it has come that far. -/
def Phase.message? : Phase → Option ServicePayload
  | .settled (.ok message) => some message
  | .returned (.ok (some message)) => some message
  | _ => none

namespace Exchange

variable {call : Call} {exchange next : Exchange} {event : GatewayEvent}

/-- A step that accepts nothing and touches no state. -/
structure Quiet (exchange next : Exchange) : Prop where
  sentSid : next.sentSid = exchange.sentSid
  serviceStates : next.serviceStates = exchange.serviceStates
  channels : ∀ attempt delivery, delivery ∈ next.channels attempt →
    delivery ∈ exchange.channels attempt
  phase : (next.phase = exchange.phase ∧ next.attempt = exchange.attempt) ∨
    (exchange.phase.message? = none ∧ next.phase.message? = none)

structure Accepts (call : Call) (exchange next : Exchange) (message : ServicePayload) : Prop where
  sentSid : next.sentSid = exchange.sentSid
  serviceStates : next.serviceStates = exchange.serviceStates
  channels : ∀ attempt delivery, delivery ∈ next.channels attempt →
    delivery ∈ exchange.channels attempt
  before : exchange.phase.message? = none
  phase : next.phase = .settled (.ok message)
  attempt : next.attempt = exchange.attempt
  response : message.isResponseForSid exchange.sentSid = true
  echo : message.hasMatchingEchoBytes call.payload.data = true

theorem Quiet.moved {phase : Phase} (before : exchange.phase.message? = none)
    (unanswered : phase.message? = none) : Quiet exchange { exchange with phase := phase } :=
  ⟨rfl, rfl, fun _ _ mem => mem, .inr ⟨before, unanswered⟩⟩

section

variable (before : exchange.phase.message? = none)

include before

theorem repeatOr_quiet {exhausted : Phase} (unanswered : exhausted.message? = none) :
    Quiet exchange (exchange.repeatOr exhausted) := by
  unfold repeatOr
  split
  · exact ⟨rfl, rfl, fun _ _ mem => mem, .inr ⟨before, rfl⟩⟩
  · exact Quiet.moved before unanswered

theorem busyRepeat_quiet {policy : RetryPolicy} {elapsed completionTimeout : Duration} :
    Quiet exchange (exchange.busyRepeat policy elapsed completionTimeout) := by
  unfold busyRepeat
  split
  · exact Quiet.moved before rfl
  · exact ⟨rfl, rfl, fun _ _ mem => mem, .inr ⟨before, rfl⟩⟩

theorem receivePending_quiet {nrc : PendingNrc} {elapsed : Duration} :
    Quiet exchange (exchange.receivePending elapsed nrc) := by
  cases nrc with
  | busyRepeatRequest source | temporarilyNotAvailable source => exact busyRepeat_quiet before
  | responsePending source =>
    simp only [receivePending]
    split
    · exact Quiet.moved before rfl
    · exact ⟨rfl, rfl, fun _ _ mem => mem, .inl ⟨rfl, rfl⟩⟩

end

theorem receiveMessage_cases (message : ServicePayload) (before : exchange.phase.message? = none) :
    Quiet exchange (exchange.receiveMessage call message) ∨
      Accepts call exchange (exchange.receiveMessage call message) message := by
  unfold receiveMessage
  split
  case isTrue expected =>
    simp only [Bool.and_eq_true] at expected
    split
    case isTrue => exact .inl ⟨rfl, rfl, fun _ _ mem => mem, .inl ⟨rfl, rfl⟩⟩
    case isFalse echo =>
      refine .inr ⟨rfl, rfl, fun _ _ mem => mem, before, rfl, rfl, expected.2, ?_⟩
      simpa using echo
  case isFalse => exact .inl ⟨rfl, rfl, fun _ _ mem => mem, .inl ⟨rfl, rfl⟩⟩

theorem receiveDelivery_cases {elapsed : Duration} (delivery : Delivery)
    (before : exchange.phase.message? = none) :
    Quiet exchange (exchange.receiveDelivery call elapsed delivery) ∨
      ∃ message, delivery = .ok (some (.udsResponse message)) ∧
        Accepts call exchange (exchange.receiveDelivery call elapsed delivery) message := by
  match delivery with
  | .error e => exact .inl (repeatOr_quiet before rfl)
  | .ok none => exact .inl (Quiet.moved before rfl)
  | .ok (some (.pending nrc)) => exact .inl (receivePending_quiet before)
  | .ok (some (.udsResponse message)) =>
    exact (receiveMessage_cases message before).imp id fun accepts => ⟨message, rfl, accepts⟩

theorem mem_channels_of_mem_rest {delivery : Delivery} {rest : List Delivery}
    (channel : exchange.channels exchange.attempt = delivery :: rest) (attempt : Nat)
    (other : Delivery)
    (mem : other ∈ update exchange.channels exchange.attempt rest attempt) :
    other ∈ exchange.channels attempt := by
  by_cases same : attempt = exchange.attempt
  · subst same
    rw [update_self] at mem
    rw [channel]
    exact List.mem_cons_of_mem _ mem
  · rwa [update_of_ne same] at mem

theorem receive_cases {elapsed : Duration} (before : exchange.phase.message? = none)
    (received : exchange.receive call elapsed = some next) :
    Quiet exchange next ∨ ∃ message, Accepts call exchange next message ∧
      .ok (some (.udsResponse message)) ∈ exchange.channels exchange.attempt := by
  unfold receive at received
  split at received
  case h_1 delivery rest channel =>
    simp only [Option.some.injEq] at received
    subst received
    have fewer := mem_channels_of_mem_rest channel
    rcases @receiveDelivery_cases call
        { exchange with
          channels := update exchange.channels exchange.attempt rest }
        elapsed delivery before with quiet | ⟨message, rfl, accepts⟩
    · left
      exact ⟨quiet.sentSid, quiet.serviceStates,
        fun _ _ mem => fewer _ _ (quiet.channels _ _ mem), quiet.phase⟩
    · refine .inr ⟨message, ?_, by rw [channel]; exact List.mem_cons_self⟩
      exact ⟨accepts.sentSid, accepts.serviceStates,
        fun _ _ mem => fewer _ _ (accepts.channels _ _ mem), accepts.before,
        accepts.phase, accepts.attempt, accepts.response, accepts.echo⟩
  case h_2 =>
    split at received
    · simp only [Option.some.injEq] at received
      subst received
      exact .inl (repeatOr_quiet before rfl)
    · cases received

theorem step_cases (stepped : exchange.step call event = some next) :
    (∃ attempt delivery, event = .deliver attempt delivery ∧
      next = { exchange with
        channels := update exchange.channels attempt
          (exchange.channels attempt ++ [delivery]) }) ∨
    Quiet exchange next ∨
    (∃ message, Accepts call exchange next message ∧
      .ok (some (.udsResponse message)) ∈ exchange.channels exchange.attempt) ∨
    (∃ response, exchange.phase = .settled response ∧ next = exchange.conclude call response) := by
  cases event with
  | deliver attempt delivery =>
    simp only [step] at stepped
    split at stepped
    · exact .inl ⟨attempt, delivery, rfl, (Option.some.inj stepped).symm⟩
    · cases stepped
  | close attempt =>
    simp only [step, Option.some.injEq] at stepped
    subst stepped
    exact .inr (.inl ⟨rfl, rfl, fun _ _ mem => mem, .inl ⟨rfl, rfl⟩⟩)
  | acquired | notAcquired =>
    simp only [step] at stepped
    split at stepped
    case h_1 phase =>
      cases stepped
      exact .inr (.inl (Quiet.moved (by rw [phase]; rfl) rfl))
    case h_2 => cases stepped
  | sendReturns result =>
    simp only [step] at stepped
    split at stepped
    case h_1 phase =>
      cases stepped
      refine .inr (.inl (Quiet.moved (by rw [phase]; rfl) ?_))
      cases call.expectResponse <;> rfl
    case h_2 phase =>
      cases stepped
      exact .inr (.inl (repeatOr_quiet (by rw [phase]; rfl) rfl))
    case h_3 => cases stepped
  | receive elapsed =>
    simp only [step] at stepped
    split at stepped
    case h_1 phase =>
      rcases receive_cases (by rw [phase]; rfl) stepped with quiet | accepts
      · exact .inr (.inl quiet)
      · exact .inr (.inr (.inl accepts))
    case h_2 phase =>
      split at stepped
      · cases stepped
        exact .inr (.inl (Quiet.moved (by rw [phase]; rfl) rfl))
      · cases stepped
    case h_3 => cases stepped
  | timeout waited =>
    simp only [step] at stepped
    split at stepped
    case h_1 phase =>
      split at stepped
      · cases stepped
        exact .inr (.inl (repeatOr_quiet (by rw [phase]; rfl) rfl))
      · cases stepped
    case h_2 phase =>
      split at stepped
      · cases stepped
        exact .inr (.inl (Quiet.moved (by rw [phase]; rfl) rfl))
      · cases stepped
    case h_3 => cases stepped
  | conclude =>
    simp only [step] at stepped
    split at stepped
    case h_1 response phase =>
      cases stepped
      exact .inr (.inr (.inr ⟨response, phase, rfl⟩))
    case h_2 => cases stepped

end Exchange

/-- The ECU's states as a call in this phase leaves them. -/
def Phase.statesAfter (payload : ServicePayload) (sentSid : UInt8)
    (states : UInt8 → Option String) : Phase → UInt8 → Option String
  | .returned (.ok (some message)) =>
    if message.isPositiveResponseForSid sentSid then Exchange.updateStates payload states
    else states
  | _ => states

theorem Phase.statesAfter_of_unanswered {payload : ServicePayload} {sentSid : UInt8}
    {states : UInt8 → Option String} {phase : Phase} (unanswered : phase.message? = none) :
    phase.statesAfter payload sentSid states = states := by
  match phase with
  | .returned (.ok (some message)) => cases unanswered
  | .returned (.ok none) | .returned (.error e) | .settled response | .queueing | .sending
  | .acknowledging | .reading => rfl

/-- What is known of a call after some events: `states` were the ECU's when it began. -/
structure Attributed (call : Call) (states : UInt8 → Option String)
    (events : List GatewayEvent) (exchange : Exchange) : Prop where
  sentSid : call.payload.data.head? = some exchange.sentSid
  delivered : ∀ attempt delivery, delivery ∈ exchange.channels attempt →
    .deliver attempt delivery ∈ events
  message : ∀ message, exchange.phase.message? = some message →
    message.isResponseForSid exchange.sentSid = true ∧
      message.hasMatchingEchoBytes call.payload.data = true ∧
      .deliver exchange.attempt (.ok (some (.udsResponse message))) ∈ events
  states : exchange.serviceStates = exchange.phase.statesAfter call.payload exchange.sentSid states

section Attributed

variable {call : Call} {states : UInt8 → Option String} {events : List GatewayEvent}
  {event : GatewayEvent} {exchange next : Exchange}

theorem Attributed.initial (started : sendWithRawPayload call states = .ok exchange) :
    Attributed call states [] exchange := by
  unfold sendWithRawPayload at started
  cases parameters : call.ecu with
  | error e => simp [parameters, bind, Except.bind] at started
  | ok parameters' =>
    simp only [parameters, bind, Except.bind] at started
    split at started
    · cases started
    · rename_i sentSid first
      cases started
      constructor
      · exact first
      · intro attempt delivery mem
        cases mem
      · intro message accepted
        cases accepted
      · rfl

theorem Attributed.deliver {attempt : Nat} {delivery : Delivery}
    (attributed : Attributed call states events exchange) :
    Attributed call states (events ++ [.deliver attempt delivery])
      { exchange with
        channels := update exchange.channels attempt
          (exchange.channels attempt ++ [delivery]) } := by
  constructor
  · exact attributed.sentSid
  · intro other otherDelivery mem
    by_cases same : other = attempt
    · subst same
      simp only [update_self, List.mem_append, List.mem_singleton] at mem
      rcases mem with old | rfl
      · exact List.mem_append_left _ (attributed.delivered _ _ old)
      · exact List.mem_append_right _ List.mem_cons_self
    · simp only [update_of_ne same] at mem
      exact List.mem_append_left _ (attributed.delivered _ _ mem)
  · intro message accepted
    obtain ⟨response, echo, received⟩ := attributed.message message accepted
    exact ⟨response, echo, List.mem_append_left _ received⟩
  · exact attributed.states

theorem Attributed.quiet (attributed : Attributed call states events exchange)
    (quiet : Exchange.Quiet exchange next) :
    Attributed call states (events ++ [event]) next := by
  constructor
  · rw [quiet.sentSid]
    exact attributed.sentSid
  · intro attempt delivery mem
    exact List.mem_append_left _ (attributed.delivered _ _ (quiet.channels _ _ mem))
  · intro message accepted
    rcases quiet.phase with ⟨samePhase, sameAttempt⟩ | ⟨-, unanswered⟩
    · rw [samePhase] at accepted
      obtain ⟨response, echo, received⟩ := attributed.message message accepted
      rw [quiet.sentSid, sameAttempt]
      exact ⟨response, echo, List.mem_append_left _ received⟩
    · rw [unanswered] at accepted
      cases accepted
  · rw [quiet.serviceStates, attributed.states, quiet.sentSid]
    rcases quiet.phase with ⟨samePhase, -⟩ | ⟨before, unanswered⟩
    · rw [samePhase]
    · rw [Phase.statesAfter_of_unanswered before, Phase.statesAfter_of_unanswered unanswered]

theorem Attributed.accepts {message : ServicePayload}
    (attributed : Attributed call states events exchange)
    (accepts : Exchange.Accepts call exchange next message)
    (received : .ok (some (.udsResponse message)) ∈ exchange.channels exchange.attempt) :
    Attributed call states (events ++ [event]) next := by
  constructor
  · rw [accepts.sentSid]
    exact attributed.sentSid
  · intro attempt delivery mem
    exact List.mem_append_left _ (attributed.delivered _ _ (accepts.channels _ _ mem))
  · intro other accepted
    rw [accepts.phase] at accepted
    cases accepted
    rw [accepts.sentSid, accepts.attempt]
    exact ⟨accepts.response, accepts.echo,
      List.mem_append_left _ (attributed.delivered _ _ received)⟩
  · rw [accepts.serviceStates, attributed.states, accepts.phase,
      Phase.statesAfter_of_unanswered accepts.before]
    rfl

theorem Attributed.conclude {response : Except DiagServiceError ServicePayload}
    (attributed : Attributed call states events exchange)
    (settled : exchange.phase = .settled response) :
    Attributed call states (events ++ [event]) (exchange.conclude call response) := by
  have unchanged : exchange.serviceStates = states := by
    rw [attributed.states, settled]
    rfl
  constructor
  · exact attributed.sentSid
  · intro attempt delivery mem
    exact List.mem_append_left _ (attributed.delivered _ _ mem)
  · intro message accepted
    have before : exchange.phase.message? = some message := by
      rw [settled]
      cases response with
      | error e => cases accepted
      | ok message' => exact accepted
    obtain ⟨isResponse, echo, received⟩ := attributed.message message before
    exact ⟨isResponse, echo, List.mem_append_left _ received⟩
  · cases response with
    | error e => exact unchanged
    | ok message =>
      simp only [Exchange.conclude, unchanged]
      rfl

theorem Attributed.step (attributed : Attributed call states events exchange)
    (stepped : exchange.step call event = some next) :
    Attributed call states (events ++ [event]) next := by
  rcases Exchange.step_cases stepped with
    ⟨attempt, delivery, rfl, rfl⟩ | quiet | ⟨message, accepts, received⟩ | ⟨response, settled, rfl⟩
  · exact attributed.deliver
  · exact attributed.quiet quiet
  · exact attributed.accepts accepts received
  · exact attributed.conclude settled

end Attributed

/-- The identifier bytes a positive response has to echo: those after the SID, for
routine control without the suppress bit. -/
def expectedEcho (sid : UInt8) (request : List UInt8) : List UInt8 :=
  let echo := (request.drop 1).take (ServicePayload.echoByteCount sid)
  if sid = ServiceIds.routineControl then
    (echo.take 1).map (· &&& defaultSubfunctionMask) ++ echo.drop 1
  else
    echo

def echoOf (sid : UInt8) (message : ServicePayload) : List UInt8 :=
  (message.data.drop 1).take (ServicePayload.echoByteCount sid)

variable {sid : UInt8}

theorem isPositiveResponseForSid_iff (answerable : sid.toNat < 0xC0) (message : ServicePayload) :
    message.isPositiveResponseForSid sid = true ↔
      message.data.head? = some (sid + udsIdResponseBitmask) := by
  have noOverflow : ¬ sid.toNat + udsIdResponseBitmask.toNat > 0xFF := by
    have : udsIdResponseBitmask.toNat = 0x40 := rfl
    omega
  rw [ServicePayload.isPositiveResponseForSid, saturatingAddU8, if_neg noOverflow, beq_iff_eq]

theorem isNegativeResponseForSid_iff (message : ServicePayload) :
    message.isNegativeResponseForSid sid = true ↔
      message.data.take 2 = [ServiceIds.negativeResponse, sid] := by
  match h : message.data with
  | [] | [first] => simp [ServicePayload.isNegativeResponseForSid, h]
  | first :: second :: rest => simp [ServicePayload.isNegativeResponseForSid, h]

theorem isPositive_iff_not_negative {message : ServicePayload}
    (answerable : sid.toNat < 0xC0) (distinct : sid ≠ 0x3F)
    (response : message.isResponseForSid sid = true) :
    message.isPositiveResponseForSid sid = true ↔
      ¬ message.data.take 2 = [ServiceIds.negativeResponse, sid] := by
  rw [← isNegativeResponseForSid_iff]
  constructor
  · intro positive negative
    have first := (isPositiveResponseForSid_iff answerable message).mp positive
    simp only [ServicePayload.isNegativeResponseForSid, Bool.and_eq_true, beq_iff_eq] at negative
    rw [first, Option.some.injEq] at negative
    apply distinct
    calc sid = sid + udsIdResponseBitmask - udsIdResponseBitmask := by rw [UInt8.add_sub_cancel]
      _ = 0x3F := by rw [negative.1]; decide
  · intro notNegative
    rw [ServicePayload.isResponseForSid, Bool.or_eq_true] at response
    exact response.resolve_left notNegative

theorem bytesAfterFirst_of_le {count : Nat} {bytes : List UInt8}
    (enough : 1 + count ≤ bytes.length) :
    bytesAfterFirst count bytes = some ((bytes.drop 1).take count) := if_pos enough

theorem routine_echo_eq {requestEcho responseEcho : List UInt8} (request : requestEcho ≠ [])
    (response : responseEcho ≠ [])
    (subfunction : requestEcho.head?.getD 0 &&& defaultSubfunctionMask = responseEcho.head?.getD 0)
    (identifier : requestEcho.drop 1 = responseEcho.drop 1) :
    responseEcho =
      (requestEcho.take 1).map (· &&& defaultSubfunctionMask) ++ requestEcho.drop 1 := by
  match requestEcho, responseEcho with
  | [], _ => exact absurd rfl request
  | _ :: _, [] => exact absurd rfl response
  | first :: rest, first' :: rest' =>
    simp only [List.head?_cons, Option.getD_some] at subfunction
    simp only [List.drop_succ_cons, List.drop_zero] at identifier
    simp [subfunction, identifier]

/-- A positive response that passes the echo test carries the expected echo, when the
request is long enough to have one. -/
theorem echoOf_eq_expectedEcho {rest : List UInt8} {message : ServicePayload}
    (positive : message.isPositiveResponseForSid sid = true)
    (long : 1 + ServicePayload.echoByteCount sid ≤ (sid :: rest).length)
    (matching : message.hasMatchingEchoBytes (sid :: rest) = true) :
    echoOf sid message = expectedEcho sid (sid :: rest) := by
  by_cases none : ServicePayload.echoByteCount sid = 0
  · simp [echoOf, expectedEcho, none]
  simp only [ServicePayload.hasMatchingEchoBytes, List.head?_cons, positive, Bool.not_true,
    Bool.false_eq_true, if_false, bytesAfterFirst_of_le long, if_neg none] at matching
  by_cases short : 1 + ServicePayload.echoByteCount sid ≤ message.data.length
  case neg => simp [bytesAfterFirst, short] at matching
  rw [bytesAfterFirst_of_le short] at matching
  by_cases routine : sid = ServiceIds.routineControl
  · simp only [if_pos routine] at matching
    split at matching
    case isTrue => cases matching
    case isFalse subfunction =>
      simp only [bne_iff_ne, ne_eq, not_not] at subfunction
      simp only [echoOf, expectedEcho, if_pos routine]
      refine routine_echo_eq ?_ ?_ subfunction (beq_iff_eq.mp matching)
      · apply List.ne_nil_of_length_pos
        rw [List.length_take, List.length_drop]
        omega
      · apply List.ne_nil_of_length_pos
        rw [List.length_take, List.length_drop]
        omega
  · simp only [if_neg routine] at matching
    simp only [echoOf, expectedEcho, if_neg routine]
    exact (beq_iff_eq.mp matching).symm

theorem updateStates_eq (payload : ServicePayload) (states : UInt8 → Option String) (sid : UInt8) :
    Exchange.updateStates payload states sid =
      if sid = ServiceIds.securityAccess then payload.newSecurity.or (states sid)
      else if sid = ServiceIds.sessionControl then payload.newSession.or (states sid)
      else states sid := by
  have distinct : ServiceIds.securityAccess ≠ ServiceIds.sessionControl := by decide
  cases session : payload.newSession <;> cases security : payload.newSecurity <;>
    simp only [Exchange.updateStates, session, security, update_apply, Option.some_or,
      Option.none_or] <;> split_ifs <;> simp_all

/-- For a service whose positive response id is a byte of its own, a message that the
call returns answers the request, came in on the channel of the last attempt, and
moves the ECU's session and security states only if it is positive. -/
theorem sendWithRawPayload_attributes {call : Call} {states : UInt8 → Option String}
    {rest : List UInt8} {exchange final : Exchange} {events : List GatewayEvent}
    (request : call.payload.data = sid :: rest)
    (answerable : sid.toNat < 0xC0) (distinct : sid ≠ 0x3F)
    (started : sendWithRawPayload call states = .ok exchange)
    (run : Run (fun before event after => before.step call event = some after) exchange events
      final) :
    (∀ message, final.phase = .returned (.ok (some message)) →
      (message.data.take 2 = [ServiceIds.negativeResponse, sid] ∨
        message.data.head? = some (sid + udsIdResponseBitmask) ∧
          (1 + ServicePayload.echoByteCount sid ≤ call.payload.data.length →
            echoOf sid message = expectedEcho sid call.payload.data)) ∧
      .deliver final.attempt (.ok (some (.udsResponse message))) ∈ events) ∧
    ∀ service, final.serviceStates service =
      match final.phase with
      | .returned (.ok (some message)) =>
        if message.data.take 2 = [ServiceIds.negativeResponse, sid] then states service
        else if service = ServiceIds.securityAccess then
          call.payload.newSecurity.or (states service)
        else if service = ServiceIds.sessionControl then
          call.payload.newSession.or (states service)
        else states service
      | _ => states service := by
  have attributed : Attributed call states events final :=
    run.keeps (Attributed call states) (Attributed.initial started)
      fun _ _ _ _ kept stepped => kept.step stepped
  have sentSid : final.sentSid = sid := by
    have same := attributed.sentSid
    rw [request] at same
    exact (Option.some.inj same).symm
  constructor
  · intro message returned
    obtain ⟨response, echo, received⟩ := attributed.message message (by rw [returned]; rfl)
    rw [sentSid, ServicePayload.isResponseForSid, Bool.or_eq_true] at response
    refine ⟨?_, received⟩
    rcases response with negative | positive
    · exact Or.inl ((isNegativeResponseForSid_iff message).mp negative)
    · refine Or.inr ⟨(isPositiveResponseForSid_iff answerable message).mp positive, ?_⟩
      rw [request] at echo ⊢
      intro long
      exact echoOf_eq_expectedEcho positive long echo
  · intro service
    rw [attributed.states, sentSid]
    match phase : final.phase with
    | .returned (.ok (some message)) =>
      obtain ⟨response, -, -⟩ := attributed.message message (by rw [phase]; rfl)
      rw [sentSid] at response
      simp only [Phase.statesAfter, isPositive_iff_not_negative answerable distinct response]
      split_ifs <;> simp_all [updateStates_eq]
    | .returned (.ok none) | .returned (.error e) | .settled response | .queueing | .sending
    | .acknowledging | .reading => rfl

def singleAttempt : UdsParameters where
  timeoutDefault := 1
  rc21RetryPolicy := .disabled
  rc21CompletionTimeout := 0
  rc78RetryPolicy := .disabled
  rc78CompletionTimeout := 0
  rc78Timeout := 0
  rc94RetryPolicy := .disabled
  rc94CompletionTimeout := 0
  repeatReqCountApp := 0

/-- A request with these bytes that leads to the session `session`. -/
def plainCall (data : List UInt8) (session : Option String) : Call where
  ecu := .ok singleAttempt
  payload := ⟨data, 0, 1, session, none⟩
  timeout := none
  expectResponse := true

def answerOf (data : List UInt8) : ServicePayload := ⟨data, 1, 0, none, none⟩

/-- The request is sent, and `data` comes back on its channel. -/
def answeredBy (data : List UInt8) : List GatewayEvent :=
  [.acquired, .sendReturns (.ok ()), .deliver 0 (.ok (some (.udsResponse (answerOf data)))),
    .receive 0, .conclude]

/-- The identifier F190 is read, and the answer carries it. -/
theorem sendWithRawPayload_attributes_identifier : ∃ exchange final : Exchange,
      sendWithRawPayload (plainCall [0x22, 0xF1, 0x90] none) (fun _ => none) = .ok exchange ∧
      final.phase = .returned (.ok (some (answerOf [0x62, 0xF1, 0x90, 0x01]))) ∧
      ((answerOf [0x62, 0xF1, 0x90, 0x01]).data.take 2 = [ServiceIds.negativeResponse, 0x22] ∨
        (answerOf [0x62, 0xF1, 0x90, 0x01]).data.head? = some (0x22 + udsIdResponseBitmask) ∧
          (1 + ServicePayload.echoByteCount 0x22 ≤ 3 →
            echoOf 0x22 (answerOf [0x62, 0xF1, 0x90, 0x01]) =
              expectedEcho 0x22 [0x22, 0xF1, 0x90])) ∧
      GatewayEvent.deliver final.attempt
          (.ok (some (.udsResponse (answerOf [0x62, 0xF1, 0x90, 0x01])))) ∈
        answeredBy [0x62, 0xF1, 0x90, 0x01] := by
  obtain ⟨exchange, final, started, run, returned⟩ : ∃ exchange final : Exchange,
      sendWithRawPayload (plainCall [0x22, 0xF1, 0x90] none) (fun _ => none) = .ok exchange ∧
      Run (fun before event after =>
          before.step (plainCall [0x22, 0xF1, 0x90] none) event = some after)
        exchange (answeredBy [0x62, 0xF1, 0x90, 0x01]) final ∧
      final.phase = .returned (.ok (some (answerOf [0x62, 0xF1, 0x90, 0x01]))) :=
    ⟨_, _, rfl, Run.of_foldlM rfl, rfl⟩
  exact ⟨exchange, final, started, returned,
    (sendWithRawPayload_attributes rfl (by decide) (by decide) started run).1 _ returned⟩

/-- An answer in the narrow sense: a refusal with its code, or the identifier byte for
byte. -/
def AnswersExactly (sid : UInt8) (request : List UInt8) (message : ServicePayload) : Prop :=
  (∃ nrc, message.data = [ServiceIds.negativeResponse, sid, nrc]) ∨
    message.data.head? = some (sid + udsIdResponseBitmask) ∧
      echoOf sid message = expectedEcho sid request

/-- A request too short for its identifier is answered by any identifier, a negative
response needs no code, and for the service 3F a refusal counts as success. -/
theorem sendWithRawPayload_accepts_inexact_answers : (∃ exchange final : Exchange,
      sendWithRawPayload (plainCall [0x22, 0xF1] none) (fun _ => none) = .ok exchange ∧
      Run (fun before event after =>
          before.step (plainCall [0x22, 0xF1] none) event = some after)
        exchange (answeredBy [0x62, 0x00, 0x00]) final ∧
      final.phase = .returned (.ok (some (answerOf [0x62, 0x00, 0x00]))) ∧
      ¬ AnswersExactly 0x22 [0x22, 0xF1] (answerOf [0x62, 0x00, 0x00])) ∧
    (∃ exchange final : Exchange,
      sendWithRawPayload (plainCall [0x22, 0xF1, 0x90] none) (fun _ => none) = .ok exchange ∧
      Run (fun before event after =>
          before.step (plainCall [0x22, 0xF1, 0x90] none) event = some after)
        exchange (answeredBy [0x7F, 0x22]) final ∧
      final.phase = .returned (.ok (some (answerOf [0x7F, 0x22]))) ∧
      ¬ AnswersExactly 0x22 [0x22, 0xF1, 0x90] (answerOf [0x7F, 0x22])) ∧
    (∃ exchange final : Exchange,
      sendWithRawPayload (plainCall [0x3F] (some "extended")) (fun _ => none) = .ok exchange ∧
      Run (fun before event after =>
          before.step (plainCall [0x3F] (some "extended")) event = some after)
        exchange (answeredBy [0x7F, 0x3F, 0x11]) final ∧
      final.phase = .returned (.ok (some (answerOf [0x7F, 0x3F, 0x11]))) ∧
      final.serviceStates ServiceIds.sessionControl = some "extended") := by
  refine ⟨⟨_, _, rfl, Run.of_foldlM rfl, rfl, ?_⟩, ⟨_, _, rfl, Run.of_foldlM rfl, rfl, ?_⟩,
    ⟨_, _, rfl, Run.of_foldlM rfl, rfl, rfl⟩⟩
  · rintro (⟨nrc, negative⟩ | ⟨-, echo⟩)
    · simp [answerOf] at negative
    · exact absurd echo (by decide)
  · rintro (⟨nrc, negative⟩ | ⟨first, -⟩)
    · simp [answerOf] at negative
    · exact absurd first (by decide)

end DiagnosticAdapter.Uds
