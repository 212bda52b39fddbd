import DiagnosticAdapter.Uds.PendingAttribution

/-!
# Pending frames of other services

Whatever a pending negative response does to an exchange, on either transport, the frame
is one that the gateway's task took for an answer; and every such frame has its effect.
So the effects are those of the request's own refusals exactly if no other pending frame
is taken.
-/

namespace DiagnosticAdapter.Uds

open Codec Effects Function

namespace Exchange

variable {call : Call} {exchange next : Exchange} {event : GatewayEvent}

/-- The channels are as before, and the attempt is the same or a new one. -/
structure Advances (exchange next : Exchange) : Prop where
  channels : next.channels = exchange.channels
  attempt : next.attempt = exchange.attempt ∨ next.attempt = exchange.attempt + 1

theorem advances_refl (exchange : Exchange) : Advances exchange exchange :=
  ⟨rfl, .inl rfl⟩

theorem advances_repeatOr (exhausted : Phase) :
    Advances exchange (exchange.repeatOr exhausted) := by
  unfold repeatOr
  split
  · exact ⟨rfl, .inr rfl⟩
  · exact ⟨rfl, .inl rfl⟩

theorem advances_busyRepeat (policy : RetryPolicy) (elapsed completionTimeout : Duration) :
    Advances exchange (exchange.busyRepeat policy elapsed completionTimeout) := by
  unfold busyRepeat
  split
  · exact ⟨rfl, .inl rfl⟩
  · exact ⟨rfl, .inr rfl⟩

theorem advances_receivePending (elapsed : Duration) (nrc : PendingNrc) :
    Advances exchange (exchange.receivePending elapsed nrc) := by
  cases nrc with
  | busyRepeatRequest source | temporarilyNotAvailable source => exact advances_busyRepeat _ _ _
  | responsePending source =>
    simp only [receivePending]
    split <;> exact ⟨rfl, .inl rfl⟩

theorem advances_receiveMessage (message : ServicePayload) :
    Advances exchange (exchange.receiveMessage call message) := by
  unfold receiveMessage
  split
  · split <;> exact ⟨rfl, .inl rfl⟩
  · exact advances_refl exchange

theorem advances_receiveDelivery (elapsed : Duration) (delivery : Delivery) :
    Advances exchange (exchange.receiveDelivery call elapsed delivery) := by
  match delivery with
  | .error e => exact advances_repeatOr _
  | .ok none => exact ⟨rfl, .inl rfl⟩
  | .ok (some (.pending nrc)) => exact advances_receivePending elapsed nrc
  | .ok (some (.udsResponse message)) => exact advances_receiveMessage message

theorem receive_cases_of_channel {elapsed : Duration}
    (received : exchange.receive call elapsed = some next) :
    (∃ delivery rest, exchange.channels exchange.attempt = delivery :: rest ∧
      Advances { exchange with
        channels := update exchange.channels exchange.attempt rest } next) ∨
    (exchange.channels exchange.attempt = [] ∧ Advances exchange next) := by
  unfold receive at received
  split at received
  case h_1 delivery rest channel =>
    cases received
    exact .inl ⟨delivery, rest, channel, advances_receiveDelivery _ _⟩
  case h_2 channel =>
    split at received
    · cases received
      exact .inr ⟨channel, advances_repeatOr _⟩
    · cases received

theorem advances_step (stepped : exchange.step call event = some next)
    (undelivered : ∀ attempt delivery, event ≠ .deliver attempt delivery)
    (unread : ∀ elapsed, event = .receive elapsed → exchange.phase ≠ .reading) :
    Advances exchange next := by
  cases event with
  | deliver attempt delivery => exact absurd rfl (undelivered attempt delivery)
  | close attempt =>
    cases stepped
    exact ⟨rfl, .inl rfl⟩
  | acquired | notAcquired | conclude =>
    simp only [step] at stepped
    split at stepped
    · cases stepped
      exact ⟨rfl, .inl rfl⟩
    · cases stepped
  | sendReturns result =>
    simp only [step] at stepped
    split at stepped
    · cases stepped
      exact ⟨rfl, .inl rfl⟩
    · cases stepped
      exact advances_repeatOr _
    · cases stepped
  | receive elapsed =>
    simp only [step] at stepped
    split at stepped
    case h_1 phase => exact absurd phase (unread elapsed rfl)
    case h_2 =>
      split at stepped
      · cases stepped
        exact ⟨rfl, .inl rfl⟩
      · cases stepped
    case h_3 => cases stepped
  | timeout waited =>
    simp only [step] at stepped
    split at stepped
    · split at stepped
      · cases stepped
        exact advances_repeatOr _
      · cases stepped
    · split at stepped
      · cases stepped
        exact ⟨rfl, .inl rfl⟩
      · cases stepped
    · cases stepped

end Exchange

/-- What one round of a gateway's loop has to do with pending frames. -/
structure Classifies (frame : Option (List UInt8)) (task next : GatewayTask)
    (deliveries : List Delivery) : Prop where
  forwards : deliveries.any Delivery.isPending = true →
    ∃ data, frame = some data ∧ isPendingNrc data = true
  prolongs : next.deadline ≠ task.deadline → ∃ data, frame = some data ∧ isPendingNrc data = true
  forwarded : ∀ data, frame = some data → isPendingNrc data = true →
    deliveries.any Delivery.isPending = true

section

variable {call : Call} {gateway : Gateway} {task next : GatewayTask}

theorem toTransport_isPending (message : Doip.DiagnosticMessage) :
    Delivery.isPending (Except.ok (some message.toTransport)) = isPendingNrc message.data := by
  rw [← pendingNrcFromRaw_isSome message.data message.sourceAddress]
  unfold Doip.DiagnosticMessage.toTransport
  split
  case h_1 nrc pending => rw [pending]; rfl
  case h_2 final => rw [final]; rfl

variable {deliveries : List Delivery}

theorem Classifies.of_quiet (sameDeadline : next.deadline = task.deadline)
    (quiet : deliveries.any Delivery.isPending = false) : Classifies none task next deliveries := by
  refine ⟨?_, ?_, ?_⟩
  · intro pending
    rw [quiet] at pending
    cases pending
  · intro changed
    exact absurd sameDeadline changed
  · intro data isNone
    cases isNone

theorem Classifies.of_final {data : List UInt8}
    (final : isPendingNrc data = false) (sameDeadline : next.deadline = task.deadline)
    (quiet : deliveries.any Delivery.isPending = false) :
    Classifies (some data) task next deliveries := by
  refine ⟨?_, ?_, ?_⟩
  · intro pending
    rw [quiet] at pending
    cases pending
  · intro changed
    exact absurd sameDeadline changed
  · intro other same isPending
    cases same
    rw [final] at isPending
    cases isPending

theorem Classifies.of_message {message : Doip.DiagnosticMessage} {before : List Delivery}
    {phase reached : Doip.SendPhase} (quiet : before.any Delivery.isPending = false) :
    Classifies (some message.data) (.doip phase) (.doip reached)
      (before ++ [.ok (some message.toTransport)]) := by
  have pending : (before ++ [Except.ok (some message.toTransport)]).any Delivery.isPending =
      isPendingNrc message.data := by
    rw [List.any_append, quiet, Bool.false_or, List.any_cons, List.any_nil, Bool.or_false,
      toTransport_isPending]
  refine ⟨?_, ?_, ?_⟩
  · intro forwarded
    exact ⟨message.data, rfl, pending ▸ forwarded⟩
  · intro changed
    exact absurd rfl changed
  · intro data same isPending
    cases same
    exact pending.trans isPending

theorem doip_receive_classifies (request : List UInt8) (expectUdsReply : Bool)
    (phase : Doip.SendPhase) (event : Doip.SendEvent) :
    Classifies (GatewayTask.frame request (.doip phase) (.doip event)) (.doip phase)
      (.doip (Doip.receive request expectUdsReply phase event).1)
      (Doip.receive request expectUdsReply phase event).2 := by
  have acknowledged : (Doip.acknowledged expectUdsReply).any Delivery.isPending = false := by
    cases expectUdsReply <;> rfl
  match phase, event with
  | .finished, _ | .waiting, .timeoutAck | .waiting, .receive (.ecuError _)
  | .waiting, .receive .closed | .waiting, .receive (.response (.nack ..))
  | .waiting, .receive (.response (.genericNack _)) => exact Classifies.of_quiet rfl rfl
  | .waiting, .receive (.response (.ack address previous)) =>
    simp only [Doip.receive]
    split
    · exact Classifies.of_quiet rfl acknowledged
    · exact Classifies.of_quiet rfl rfl
  | .waiting, .receive (.response .aliveCheckResponse)
  | .waiting, .receive (.response (.testerPresentNrc _)) =>
    cases request <;> exact Classifies.of_quiet rfl rfl
  | .waiting, .receive (.response (.msg message)) =>
    simp only [Doip.receive, GatewayTask.frame]
    split
    · exact Classifies.of_message acknowledged
    · exact Classifies.of_quiet rfl rfl
  | .reading, .receive (.response (.msg message)) =>
    exact Classifies.of_message (show ([] : List Delivery).any Delivery.isPending = false from rfl)
  | .reading, .timeoutAck | .reading, .receive (.ecuError _) | .reading, .receive .closed
  | .reading, .receive (.response (.ack ..)) | .reading, .receive (.response (.nack ..))
  | .reading, .receive (.response (.genericNack _))
  | .reading, .receive (.response .aliveCheckResponse)
  | .reading, .receive (.response (.testerPresentNrc _)) => exact Classifies.of_quiet rfl rfl

theorem can_read_classifies (parameters : Can.SendParameters) (request : ServicePayload)
    (now : Duration) (task : Can.SendTask) (result : Can.ReadResult) :
    Classifies (GatewayTask.frame request.data (.can task) (.can now result)) (.can task)
      (.can (task.read parameters request now result).1)
      (task.read parameters request now result).2 := by
  cases result with
  | timeout | error text => exact Classifies.of_quiet rfl rfl
  | frame data =>
    have isSome := pendingNrcFromRaw_isSome data request.sourceAddress
    simp only [GatewayTask.frame, Can.SendTask.read]
    split
    case h_1 nrc pending =>
      rw [pending] at isSome
      have isPending : isPendingNrc data = true := isSome.symm
      exact ⟨fun _ => ⟨data, rfl, isPending⟩, fun _ => ⟨data, rfl, isPending⟩,
        fun _ _ _ => rfl⟩
    case h_2 final =>
      rw [final] at isSome
      split
      · exact Classifies.of_final isSome.symm rfl rfl
      · exact Classifies.of_final isSome.symm rfl rfl

theorem Gateway.read_classifies {input : GatewayInput}
    (taken : gateway.read call task input = some (next, deliveries)) :
    Classifies (task.frame call.payload.data input) task next deliveries := by
  match gateway, task, input with
  | .can parameters, .can task, .can now result =>
    simp only [Gateway.read] at taken
    split at taken
    · cases taken
    · cases taken
      exact can_read_classifies parameters call.payload now task result
  | .doip, .doip phase, .doip event =>
    cases taken
    exact doip_receive_classifies _ _ phase event
  | .can _, .can _, .doip _ => cases taken
  | .can _, .doip _, _ => cases taken
  | .doip, .can _, _ => cases taken
  | .doip, .doip _, .can _ _ => cases taken

theorem Gateway.start_quiet {start : GatewayStart}
    (taken : gateway.start call start = some (task, deliveries)) :
    deliveries.any Delivery.isPending = false := by
  match gateway, start with
  | .can parameters, .can now (.error text) =>
    cases taken
    rfl
  | .can parameters, .can now (.ok ()) =>
    simp only [Gateway.start, Can.SendTask.start] at taken
    split at taken <;> cases taken <;> rfl
  | .doip, .doip (.ok ()) =>
    cases taken
    rfl
  | .doip, .doip (.error e) =>
    cases taken
    rfl
  | .can _, .doip _ => cases taken
  | .doip, .can _ _ => cases taken

end

/-- A Pending item stems from a pending frame that the gateway's task has read. -/
def Stems (read : List (List UInt8)) (delivery : Delivery) (origin : List UInt8) : Prop :=
  delivery.isPending = true → origin ∈ read ∧ isPendingNrc origin = true

structure Traced (state : SteeredExchange) : Prop where
  origins : List.Forall₂ (Stems state.read) (state.exchange.channels state.exchange.attempt)
    state.origins
  fresh : ∀ attempt, state.exchange.attempt < attempt → state.exchange.channels attempt = []
  caused : ∀ effect ∈ state.effects, effect.frame ∈ state.read ∧ isPendingNrc effect.frame = true
  effective : ∀ frame ∈ state.read, isPendingNrc frame = true →
    ∃ effect ∈ state.effects, effect.frame = frame

section

variable {call : Call} {gateway : Gateway} {state next : SteeredExchange} {origin : List UInt8}

theorem Stems.mono {read more : List (List UInt8)} {delivery : Delivery}
    (stems : Stems read delivery origin) : Stems (more ++ read) delivery origin := by
  intro pending
  obtain ⟨mem, isPending⟩ := stems pending
  exact ⟨List.mem_append_right _ mem, isPending⟩

theorem forall₂_stems_map {read : List (List UInt8)} {deliveries : List Delivery}
    (stems : ∀ delivery ∈ deliveries, Stems read delivery origin) :
    List.Forall₂ (Stems read) deliveries (deliveries.map fun _ => origin) := by
  rw [List.forall₂_map_right_iff, List.forall₂_same]
  exact stems

theorem Traced.deliver (traced : Traced state) {deliveries : List Delivery}
    {more : List (List UInt8)}
    (stems : ∀ delivery ∈ deliveries, Stems (more ++ state.read) delivery origin) :
    List.Forall₂ (Stems (more ++ state.read))
      ((state.deliver deliveries origin).exchange.channels state.exchange.attempt)
      (state.deliver deliveries origin).origins := by
  have before : List.Forall₂ (Stems (more ++ state.read))
      (state.exchange.channels state.exchange.attempt) state.origins :=
    traced.origins.imp fun _ _ stems => stems.mono
  simp only [SteeredExchange.deliver, update_self]
  exact List.rel_append before (forall₂_stems_map stems)

theorem SteeredExchange.deliver_fresh (traced : Traced state) (deliveries : List Delivery)
    (origin : List UInt8) {attempt : Nat} (later : state.exchange.attempt < attempt) :
    (state.deliver deliveries origin).exchange.channels attempt = [] := by
  simp only [SteeredExchange.deliver]
  rw [update_of_ne (by omega)]
  exact traced.fresh attempt later

theorem Traced.start (traced : Traced state) {start : GatewayStart} {task : GatewayTask}
    {deliveries : List Delivery}
    (taken : gateway.start call start = some (task, deliveries)) :
    Traced { state.deliver deliveries [] with task := some task } := by
  have quiet := Gateway.start_quiet taken
  have stems : ∀ delivery ∈ deliveries, Stems ([] ++ state.read) delivery [] := by
    intro delivery mem pending
    have isPending : deliveries.any Delivery.isPending = true :=
      List.any_eq_true.mpr ⟨delivery, mem, pending⟩
    rw [quiet] at isPending
    cases isPending
  refine ⟨traced.deliver stems, ?_, traced.caused, traced.effective⟩
  intro attempt later
  exact state.deliver_fresh traced deliveries [] later

theorem Traced.read (traced : Traced state) {task reached : GatewayTask} {input : GatewayInput}
    {deliveries : List Delivery}
    (taken : gateway.read call task input = some (reached, deliveries)) :
    Traced { state.deliver deliveries ((task.frame call.payload.data input).getD []) with
      task := some reached
      read := (task.frame call.payload.data input).toList ++ state.read
      effects := gatewayEffects (task.frame call.payload.data input) task reached deliveries ++
        state.effects } := by
  have classifies := Gateway.read_classifies taken
  generalize task.frame call.payload.data input = frame at classifies ⊢
  have stems : ∀ delivery ∈ deliveries,
      Stems (frame.toList ++ state.read) delivery (frame.getD []) := by
    intro delivery mem pending
    obtain ⟨data, isFrame, isPending⟩ :=
      classifies.forwards (List.any_eq_true.mpr ⟨delivery, mem, pending⟩)
    refine ⟨?_, ?_⟩
    · rw [isFrame]
      exact List.mem_cons_self
    · rw [isFrame]
      exact isPending
  refine ⟨traced.deliver stems, ?_, ?_, ?_⟩
  · intro attempt later
    exact state.deliver_fresh traced deliveries (frame.getD []) later
  · intro effect mem
    have here : (∃ data, frame = some data ∧ isPendingNrc data = true) →
        frame.getD [] ∈ frame.toList ++ state.read ∧ isPendingNrc (frame.getD []) = true := by
      intro ⟨data, isFrame, isPending⟩
      refine ⟨?_, ?_⟩
      · rw [isFrame]
        exact List.mem_cons_self
      · rw [isFrame]
        exact isPending
    rcases List.mem_append.mp mem with new | before
    · rcases List.mem_append.mp new with forwarded | extended
      · split at forwarded
        case isTrue pending =>
          rw [List.mem_singleton.mp forwarded]
          exact here (classifies.forwards pending)
        case isFalse => cases forwarded
      · split at extended
        case isTrue changed =>
          rw [List.mem_singleton.mp extended]
          exact here (classifies.prolongs changed)
        case isFalse => cases extended
    · obtain ⟨inRead, isPending⟩ := traced.caused effect before
      exact ⟨List.mem_append_right _ inRead, isPending⟩
  · intro data mem isPending
    rcases List.mem_append.mp mem with new | before
    · have isFrame : frame = some data := Option.mem_toList.mp new
      refine ⟨⟨data, .forwarded⟩, ?_, rfl⟩
      apply List.mem_append_left
      simp only [gatewayEffects, classifies.forwarded data isFrame isPending, if_true, isFrame,
        Option.getD_some]
      exact List.mem_cons_self
    · obtain ⟨effect, inEffects, same⟩ := traced.effective data before isPending
      exact ⟨effect, List.mem_append_right _ inEffects, same⟩

theorem Traced.goOn (traced : Traced state) {next : Exchange} {origins : List (List UInt8)}
    {effects : List PendingEffect}
    (attempt : next.attempt = state.exchange.attempt ∨ next.attempt = state.exchange.attempt + 1)
    (stems : List.Forall₂ (Stems state.read) (next.channels state.exchange.attempt) origins)
    (fresh : ∀ attempt, state.exchange.attempt < attempt → next.channels attempt = [])
    (caused : ∀ effect ∈ effects, effect.frame ∈ state.read ∧ isPendingNrc effect.frame = true) :
    Traced (state.goOn next origins effects) := by
  refine ⟨?_, ?_, ?_, ?_⟩
  · rcases attempt with same | new
    · simp only [SteeredExchange.goOn, same, if_true]
      exact stems
    · have empty := fresh next.attempt (by omega)
      simp only [SteeredExchange.goOn, empty,
        show ¬ next.attempt = state.exchange.attempt by omega, if_false]
      exact .nil
  · intro later isLater
    apply fresh
    rcases attempt with same | new
    · exact same ▸ isLater
    · have : next.attempt < later := isLater
      omega
  · intro effect mem
    rcases List.mem_append.mp mem with new | before
    · exact caused effect new
    · exact traced.caused effect before
  · intro frame mem isPending
    obtain ⟨effect, inEffects, same⟩ := traced.effective frame mem isPending
    exact ⟨effect, List.mem_append_right _ inEffects, same⟩

theorem Traced.advances (traced : Traced state) {next : Exchange}
    (advances : Exchange.Advances state.exchange next) :
    Traced (state.goOn next state.origins []) := by
  apply traced.goOn advances.attempt
  · rw [advances.channels]
    exact traced.origins
  · intro attempt later
    rw [advances.channels]
    exact traced.fresh attempt later
  · intro effect mem
    cases mem

theorem Traced.receive (traced : Traced state) {elapsed : Duration} {next : Exchange}
    (received : state.exchange.receive call elapsed = some next) :
    Traced (state.goOn next state.origins.tail state.handledEffects) := by
  rcases Exchange.receive_cases_of_channel received with
    ⟨delivery, rest, channel, advances⟩ | ⟨channel, advances⟩
  · have origins := traced.origins
    rw [channel] at origins
    obtain ⟨origin, others, stems, tails, isOrigins⟩ := List.forall₂_cons_left_iff.mp origins
    have channels : next.channels =
        update state.exchange.channels state.exchange.attempt rest := advances.channels
    apply traced.goOn advances.attempt
    · rw [channels, update_self, isOrigins]
      exact tails
    · intro attempt later
      rw [channels, update_of_ne (by omega)]
      exact traced.fresh attempt later
    · intro effect mem
      simp only [SteeredExchange.handledEffects, channel, isOrigins] at mem
      split at mem
      case isTrue pending =>
        rw [List.mem_singleton.mp mem]
        exact stems pending
      case isFalse => cases mem
  · have origins := traced.origins
    rw [channel] at origins
    have isOrigins : state.origins = [] := List.forall₂_nil_left_iff.mp origins
    have quiet : state.handledEffects = [] := by
      simp only [SteeredExchange.handledEffects, channel]
    rw [quiet, isOrigins]
    have advanced := traced.advances advances
    rw [isOrigins] at advanced
    exact advanced

theorem Traced.step (traced : Traced state) {event : SteeredEvent}
    (taken : state.step gateway call event = some next) : Traced next := by
  cases event with
  | start start =>
    simp only [SteeredExchange.step] at taken
    split at taken
    case h_2 => cases taken
    case h_1 =>
      split at taken
      case h_1 task deliveries started =>
        cases taken
        exact traced.start started
      case h_2 => cases taken
  | gateway input =>
    simp only [SteeredExchange.step] at taken
    split at taken
    case h_2 => cases taken
    case h_1 =>
      split at taken
      case isFalse => cases taken
      case isTrue =>
        split at taken
        case h_1 reached deliveries read =>
          cases taken
          exact traced.read read
        case h_2 => cases taken
  | uds event =>
    simp only [SteeredExchange.step] at taken
    split at taken
    case h_1 => cases taken
    case h_2 elapsed =>
      split at taken
      case h_1 phase =>
        split at taken
        case h_1 reached stepped =>
          cases taken
          simp only [Exchange.step, phase] at stepped
          exact traced.receive stepped
        case h_2 => cases taken
      case h_2 notReading =>
        split at taken
        case h_1 reached stepped =>
          cases taken
          apply traced.advances
          apply Exchange.advances_step stepped
          · intro attempt delivery same
            cases same
          · intro other _
            exact notReading
        case h_2 => cases taken
    case h_3 notDeliver notReceive =>
      split at taken
      case h_1 reached stepped =>
        cases taken
        apply traced.advances
        apply Exchange.advances_step stepped
        · intro attempt delivery same
          exact notDeliver attempt delivery same
        · intro elapsed same
          exact (notReceive elapsed same).elim
      case h_2 => cases taken

end

variable {serviceStates : UInt8 → Option String}

theorem traced_begin {call : Call}
    {exchange : Exchange} (begun : sendWithRawPayload call serviceStates = .ok exchange) :
    call.payload.data.head? = some exchange.sentSid ∧ Traced (.begin exchange) := by
  cases ecu : call.ecu with
  | error e =>
    simp only [sendWithRawPayload, ecu] at begun
    cases begun
  | ok parameters =>
    cases first : call.payload.data.head? with
    | none =>
      simp only [sendWithRawPayload, ecu, first] at begun
      cases begun
    | some sentSid =>
      simp only [sendWithRawPayload, ecu, first] at begun
      cases begun
      refine ⟨rfl, .nil, fun _ _ => rfl, ?_, ?_⟩
      · intro effect mem
        cases mem
      · intro frame mem
        cases mem

abbrev SteeredStep (gateway : Gateway) (call : Call) (state : SteeredExchange)
    (event : SteeredEvent) (next : SteeredExchange) : Prop :=
  state.step gateway call event = some next

theorem traced_of_run {gateway : Gateway} {call : Call}
    {exchange : Exchange} (begun : sendWithRawPayload call serviceStates = .ok exchange)
    {events : List SteeredEvent} {state : SteeredExchange}
    (run : Run (SteeredStep gateway call) (.begin exchange) events state) : Traced state := by
  apply Run.keeps (fun _ => Traced) (traced_begin begun).2 _ run
  intro _ event state next traced taken
  exact traced.step taken

/-- Pending frames steer an exchange only on behalf of its own request exactly if the
gateway's tasks have taken no other pending frame for an answer. -/
theorem steered_by_own_iff {gateway : Gateway} {call : Call}
    {exchange : Exchange} (begun : sendWithRawPayload call serviceStates = .ok exchange)
    {events : List SteeredEvent} {state : SteeredExchange}
    (run : Run (SteeredStep gateway call) (.begin exchange) events state) :
    call.payload.data.head? = some exchange.sentSid ∧
    ((∀ effect ∈ state.effects, StartsWithNegativeResponse exchange.sentSid effect.frame) ↔
      ∀ frame ∈ state.read, isPendingNrc frame = true →
        StartsWithNegativeResponse exchange.sentSid frame) := by
  have traced := traced_of_run begun run
  refine ⟨(traced_begin begun).1, ?_, ?_⟩
  · intro own frame mem isPending
    obtain ⟨effect, inEffects, same⟩ := traced.effective frame mem isPending
    exact same ▸ own effect inEffects
  · intro own effect mem
    obtain ⟨inRead, isPending⟩ := traced.caused effect mem
    exact own effect.frame inRead isPending

/-- Reads an identifier, however long the ECU takes. -/
def patientCall : Call where
  ecu := .ok
    { timeoutDefault := 1000
      rc21RetryPolicy := .continueUnlimited
      rc21CompletionTimeout := 0
      rc78RetryPolicy := .continueUnlimited
      rc78CompletionTimeout := 0
      rc78Timeout := 5000
      rc94RetryPolicy := .continueUnlimited
      rc94CompletionTimeout := 0
      repeatReqCountApp := 0 }
  payload := ⟨[0x22, 0xF1, 0x90], 0x0E00, 0x1001, none, none⟩
  timeout := none
  expectResponse := true

def canGateway : Gateway := .can ⟨1000, 100⟩

/-- A pending frame of the request, a refusal of another service, and the answer. -/
def pendingThenAnswered : List SteeredEvent :=
  [.uds .acquired, .start (.can 0 (.ok ())), .uds (.sendReturns (.ok ())),
    .gateway (.can 10 (.frame [0x7F, 0x22, 0x78])), .uds (.receive 10),
    .gateway (.can 20 (.frame [0x7F, 0x31, 0x22])),
    .gateway (.can 30 (.frame [0x62, 0xF1, 0x90, 0x41])), .uds (.receive 30), .uds .conclude]

theorem steered_by_own_pendingThenAnswered : ∃ (exchange : Exchange) (state : SteeredExchange),
      sendWithRawPayload patientCall (fun _ => none) = .ok exchange ∧
      Run (SteeredStep canGateway patientCall) (.begin exchange) pendingThenAnswered state ∧
      state.effects.map (·.kind) = [.handled, .forwarded, .deadlineExtended] ∧
      state.exchange.phase =
        .returned (.ok (some ⟨[0x62, 0xF1, 0x90, 0x41], 0x0E00, 0x1001, none, none⟩)) ∧
      ∀ effect ∈ state.effects, StartsWithNegativeResponse exchange.sentSid effect.frame := by
  have run : ∃ (exchange : Exchange) (state : SteeredExchange),
      sendWithRawPayload patientCall (fun _ => none) = .ok exchange ∧
      Run (SteeredStep canGateway patientCall) (.begin exchange) pendingThenAnswered state ∧
      state.effects.map (·.kind) = [.handled, .forwarded, .deadlineExtended] ∧
      state.exchange.phase =
        .returned (.ok (some ⟨[0x62, 0xF1, 0x90, 0x41], 0x0E00, 0x1001, none, none⟩)) ∧
      exchange.sentSid = 0x22 ∧
      state.read = [[0x62, 0xF1, 0x90, 0x41], [0x7F, 0x31, 0x22], [0x7F, 0x22, 0x78]] :=
    ⟨_, _, rfl, Run.of_foldlM rfl, rfl, rfl, rfl, rfl⟩
  obtain ⟨exchange, state, begun, run, kinds, returned, sentSid, read⟩ := run
  refine ⟨exchange, state, begun, run, kinds, returned, (steered_by_own_iff begun run).2.mpr ?_⟩
  rw [sentSid, read]
  decide

/-- The busy answer of another service's request, late, on CAN. -/
def foreignBusyOnCan : List SteeredEvent :=
  [.uds .acquired, .start (.can 0 (.ok ())), .uds (.sendReturns (.ok ())),
    .gateway (.can 10 (.frame [0x7F, 0x31, 0x21])), .uds (.receive 10)]

def foreignBusyOnDoip : List SteeredEvent :=
  [.uds .acquired, .start (.doip (.ok ())), .uds (.sendReturns (.ok ())),
    .gateway (.doip (.receive (.response (.ack 0x1001 [0x22])))),
    .gateway (.doip (.receive (.response (.msg ⟨0x1001, 0x0E00, [0x7F, 0x31, 0x21]⟩)))),
    .uds (.receive 10)]

/-- It repeats the request, on either transport, and extends the deadline of CAN. -/
theorem foreign_busy_steers : (¬ ∀ call serviceStates exchange events state,
      sendWithRawPayload call serviceStates = .ok exchange →
      Run (SteeredStep canGateway call) (.begin exchange) events state →
      ∀ effect ∈ state.effects, StartsWithNegativeResponse exchange.sentSid effect.frame) ∧
    ¬ ∀ call serviceStates exchange events state,
      sendWithRawPayload call serviceStates = .ok exchange →
      Run (SteeredStep .doip call) (.begin exchange) events state →
      ∀ effect ∈ state.effects, StartsWithNegativeResponse exchange.sentSid effect.frame := by
  constructor
  · intro ownOnCan
    have run : ∃ (exchange : Exchange) (state : SteeredExchange),
        sendWithRawPayload patientCall (fun _ => none) = .ok exchange ∧
        Run (SteeredStep canGateway patientCall) (.begin exchange) foreignBusyOnCan state ∧
        state.effects = [⟨[0x7F, 0x31, 0x21], .handled⟩, ⟨[0x7F, 0x31, 0x21], .forwarded⟩,
          ⟨[0x7F, 0x31, 0x21], .deadlineExtended⟩] ∧
        exchange.sentSid = 0x22 ∧ state.exchange.attempt = 1 :=
      ⟨_, _, rfl, Run.of_foldlM rfl, rfl, rfl, rfl⟩
    obtain ⟨exchange, state, begun, run, effects, sentSid, -⟩ := run
    have own := ownOnCan _ _ exchange _ state begun run
    rw [effects, sentSid] at own
    exact absurd own (by decide)
  · intro ownOnDoip
    have run : ∃ (exchange : Exchange) (state : SteeredExchange),
        sendWithRawPayload patientCall (fun _ => none) = .ok exchange ∧
        Run (SteeredStep .doip patientCall) (.begin exchange) foreignBusyOnDoip state ∧
        state.effects = [⟨[0x7F, 0x31, 0x21], .handled⟩, ⟨[0x7F, 0x31, 0x21], .forwarded⟩] ∧
        exchange.sentSid = 0x22 ∧ state.exchange.attempt = 1 :=
      ⟨_, _, rfl, Run.of_foldlM rfl, rfl, rfl, rfl⟩
    obtain ⟨exchange, state, begun, run, effects, sentSid, -⟩ := run
    have own := ownOnDoip _ _ exchange _ state begun run
    rw [effects, sentSid] at own
    exact absurd own (by decide)

end DiagnosticAdapter.Uds
