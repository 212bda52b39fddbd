import DiagnosticAdapter.Doip.Connection

/-!
# Who gets what is read

The channels hold what the receiver task has read, in order; a message that the sender
task reads reaches no channel.
-/

namespace DiagnosticAdapter.Doip

open Effects Uds

/-- The ECU a message is for, if it is for an ECU at all. -/
def DoipPayload.destination : DoipPayload → Option UInt16
  | .diagnosticMessage message =>
    if isTesterPresentNrc message.data then none else some message.sourceAddress
  | .diagnosticMessageAck sourceAddress _ | .diagnosticMessageNack sourceAddress _ =>
    some sourceAddress
  | .genericNack _ | .aliveCheckResponse | .nonDiagnostic => none

/-- What an ECU's channel gets for a message. -/
def DoipPayload.deliveryTo (address : UInt16) (payload : DoipPayload) :
    Option DiagnosticResponse :=
  if payload.destination = some address then (tryRead (.message payload)).toOption else none

/-- Every message read is with its ECU, once and in order, and with no other. -/
def Connection.Delivered (ecus : List UInt16) (connection : Connection) : Prop :=
  ∀ address, connection.channels address =
    if address ∈ ecus then
      connection.readMessages.filterMap fun entry => entry.2.deliveryTo address
    else
      []

/-- An alive check has read no message for one of the ECUs. -/
def Connection.AliveChecksReadNone (ecus : List UInt16) (connection : Connection) : Prop :=
  ∀ payload, (ConnectionTask.sender, payload) ∈ connection.readMessages →
    ∀ address ∈ ecus, payload.destination ≠ some address

/-- The messages the receiver task has read are with their ECUs. -/
def Connection.Routed (ecus : List UInt16) (connection : Connection) : Prop :=
  ∀ address, connection.channels address =
    if address ∈ ecus then
      (connection.readMessages.filter fun entry => entry.1 = .receiver).filterMap fun entry =>
        entry.2.deliveryTo address
    else
      []

theorem DoipPayload.deliveryTo_isSome {address : UInt16} {payload : DoipPayload}
    (isFor : payload.destination = some address) :
    ∃ response, payload.deliveryTo address = some response := by
  unfold deliveryTo
  rw [if_pos isFor]
  cases payload with
  | diagnosticMessage message =>
    by_cases testerPresent : isTesterPresentNrc message.data
    · rw [destination, if_pos testerPresent] at isFor
      cases isFor
    · exact ⟨.msg message, by simp [tryRead, testerPresent, Except.toOption]⟩
  | diagnosticMessageAck sourceAddress previous | diagnosticMessageNack sourceAddress nackCode =>
    exact ⟨_, rfl⟩
  | genericNack nackCode | aliveCheckResponse | nonDiagnostic => cases isFor

theorem route_apply (ecus : List UInt16) (address other : UInt16)
    (response : DiagnosticResponse) (channels : EcuChannels) :
    route ecus address response channels other = channels other ++
        (if address = other ∧ other ∈ ecus then some response else none).toList := by
  unfold route
  by_cases same : address = other
  · subst same
    by_cases mem : address ∈ ecus
    · simp [mem]
    · simp [mem]
  · have ne : other ≠ address := fun equal => same equal.symm
    split <;> simp [same, ne]

/-- `handle_ok_response` delivers to the destination alone. -/
theorem handleOkResponse_apply (ecus : List UInt16) {payload : DoipPayload}
    {response : DiagnosticResponse} (readable : tryRead (.message payload) = .ok response)
    (channels : EcuChannels) (address : UInt16) :
    handleOkResponse ecus response channels address = channels address ++
        (if address ∈ ecus then payload.deliveryTo address else none).toList := by
  have routed : ∀ source, payload.destination = some source →
      route ecus source response channels address = channels address ++
        (if address ∈ ecus then payload.deliveryTo address else none).toList := by
    intro source isFor
    rw [route_apply]
    unfold DoipPayload.deliveryTo
    rw [readable, isFor]
    by_cases mem : address ∈ ecus <;> by_cases same : source = address <;>
      simp [mem, same, Except.toOption]
  have dropped : payload.destination = none →
      channels address = channels address ++
        (if address ∈ ecus then payload.deliveryTo address else none).toList := by
    intro isNone
    unfold DoipPayload.deliveryTo
    rw [isNone]
    simp
  cases payload with
  | diagnosticMessage message =>
    by_cases testerPresent : isTesterPresentNrc message.data
    · simp only [tryRead, testerPresent, if_true] at readable
      cases readable
      exact dropped (by simp [DoipPayload.destination, testerPresent])
    · simp only [tryRead, testerPresent] at readable
      cases readable
      exact routed message.sourceAddress (by simp [DoipPayload.destination, testerPresent])
  | diagnosticMessageAck sourceAddress previous | diagnosticMessageNack sourceAddress nackCode =>
    cases readable
    exact routed sourceAddress rfl
  | genericNack nackCode | aliveCheckResponse =>
    cases readable
    exact dropped rfl
  | nonDiagnostic => cases readable

section

variable {ecus : List UInt16} {connection next : Connection}

theorem DoipPayload.deliveryTo_of_unreadable {payload : DoipPayload} {e : ConnectionError}
    (unreadable : tryRead (.message payload) = .error e) (address : UInt16) :
    payload.deliveryTo address = none := by
  unfold deliveryTo
  rw [unreadable]
  split <;> rfl

section

variable (routed : connection.Routed ecus)

include routed

theorem Connection.Routed.receive (incoming : Incoming) (rest : List Incoming) :
    (handleResponse ecus (tryRead incoming)
      { connection.note .receiver incoming rest with receiver := .selecting }).Routed ecus := by
  intro address
  cases incoming with
  | undecodable text | ended => exact routed address
  | message payload =>
    have noted : ∀ filtered : List DiagnosticResponse,
        filtered = (connection.readMessages.filter fun entry =>
          entry.1 = ConnectionTask.receiver).filterMap (fun entry =>
            entry.2.deliveryTo address) →
        ((connection.readMessages ++ [(ConnectionTask.receiver, payload)]).filter fun entry =>
          entry.1 = .receiver).filterMap (fun entry => entry.2.deliveryTo address) =
        filtered ++ (payload.deliveryTo address).toList := by
      intro filtered same
      rw [same, List.filter_append, List.filterMap_append]
      cases delivery : payload.deliveryTo address <;> simp [delivery]
    cases result : tryRead (.message payload) with
    | ok response =>
      have handled := handleOkResponse_apply ecus result connection.channels address
      simp only [handleResponse, note]
      rw [handled, routed address, noted _ rfl]
      by_cases mem : address ∈ ecus <;> simp [mem]
    | error e =>
      have unread := noted _ rfl
      rw [DoipPayload.deliveryTo_of_unreadable result, Option.toList_none,
        List.append_nil] at unread
      have unchanged : (handleResponse ecus (.error e)
          { connection.note .receiver (.message payload) rest with
            receiver := .selecting }).channels = connection.channels ∧
          (handleResponse ecus (.error e)
            { connection.note .receiver (.message payload) rest with
              receiver := .selecting }).readMessages =
            connection.readMessages ++ [(ConnectionTask.receiver, payload)] := by
        cases e <;> exact ⟨rfl, rfl⟩
      rw [unchanged.1, unchanged.2, unread]
      exact routed address

theorem Connection.Routed.aliveRead (incoming : Incoming) (rest : List Incoming)
    (sender : SenderPhase) :
    { connection.note .sender incoming rest with sender := sender }.Routed ecus := by
  intro address
  cases incoming with
  | undecodable text | ended => exact routed address
  | message payload =>
    have same : (connection.readMessages ++ [(ConnectionTask.sender, payload)]).filter
        (fun entry => entry.1 = .receiver) =
        connection.readMessages.filter fun entry => entry.1 = .receiver := by
      rw [List.filter_append]
      simp
    simp only [note, same]
    exact routed address

theorem Connection.Routed.step {event : ConnectionEvent}
    (taken : connection.step ecus event = some next) : next.Routed ecus := by
  cases event with
  | receiverReads =>
    simp only [Connection.step] at taken
    split at taken
    case h_1 incoming rest _ _ =>
      cases taken
      exact routed.receive incoming rest
    case h_2 => cases taken
  | aliveReads =>
    simp only [Connection.step] at taken
    split at taken
    case h_1 incoming rest _ _ =>
      cases taken
      exact routed.aliveRead incoming rest _
    case h_2 => cases taken
  | arrive incoming | receiverStops | senderStops =>
    cases taken
    exact routed
  | receiverLocks | receiverYields | receiverResumes | senderTakes | aliveCheck | aliveLocks
  | aliveDone | reconnect =>
    simp only [Connection.step] at taken
    split at taken <;> cases taken
    exact routed
  | senderSent flagged | aliveSent ok =>
    simp only [Connection.step] at taken
    split at taken
    · split at taken <;> cases taken <;> exact routed
    · cases taken
  | aliveTimeout =>
    simp only [Connection.step] at taken
    split at taken <;> cases taken <;> exact routed

end

end

theorem Connection.routed_initial (ecus : List UInt16) : Connection.initial.Routed ecus := by
  intro address
  simp [initial]

theorem Connection.routed_of_run {ecus : List UInt16} {events : List ConnectionEvent}
    {connection : Connection}
    (run : Run (fun connection event next => Connection.step ecus connection event = some next)
      .initial events connection) : connection.Routed ecus := by
  apply Run.keeps (fun _ connection => connection.Routed ecus) (routed_initial ecus) _ run
  intro _ event connection next routed taken
  exact routed.step taken

theorem filterMap_filter_eq_iff {α β : Type} (keep : α → Bool) (read : α → Option β)
    (entries : List α) :
    (entries.filter keep).filterMap read = entries.filterMap read ↔
      ∀ entry ∈ entries, keep entry = false → read entry = none := by
  induction entries with
  | nil => simp
  | cons entry entries ih =>
    have shorter : ((entries.filter keep).filterMap read).length ≤
        (entries.filterMap read).length :=
      ((List.filter_sublist (p := keep)).filterMap read).length_le
    rw [List.forall_mem_cons, ← ih]
    by_cases kept : keep entry
    · cases isRead : read entry <;> simp [kept, isRead]
    · cases isRead : read entry with
      | none => simp [kept, isRead]
      | some value =>
        simp only [List.filter_cons, kept, List.filterMap_cons, isRead]
        constructor
        · intro same
          have lengths := congrArg List.length same
          simp only [List.length_cons] at lengths
          simp only [Bool.false_eq_true, if_false] at lengths
          omega
        · intro ⟨absent, _⟩
          simp at absent

/-- In every reachable state the messages read are with their ECUs exactly if no alive
check has read one of them. -/
theorem Connection.delivered_iff {ecus : List UInt16} {events : List ConnectionEvent}
    {connection : Connection}
    (run : Run (fun connection event next => Connection.step ecus connection event = some next)
      .initial events connection) :
    connection.Delivered ecus ↔ connection.AliveChecksReadNone ecus := by
  have routed := routed_of_run run
  constructor
  · intro delivered payload mem address isEcu isFor
    have same := (routed address).symm.trans (delivered address)
    rw [if_pos isEcu, if_pos isEcu] at same
    obtain ⟨response, isRead⟩ := payload.deliveryTo_isSome isFor
    have lost := (filterMap_filter_eq_iff _ _ _).mp same (.sender, payload) mem (by simp)
    rw [isRead] at lost
    cases lost
  · intro none address
    rw [routed address]
    by_cases isEcu : address ∈ ecus
    · rw [if_pos isEcu, if_pos isEcu, filterMap_filter_eq_iff]
      intro (task, payload) mem notReceiver
      have isSender : task = .sender := by
        cases task with
        | receiver => simp at notReceiver
        | sender => rfl
      subst isSender
      exact if_neg (none payload mem address isEcu)
    · rw [if_neg isEcu, if_neg isEcu]

def gatewayEcus : List UInt16 := [0x1000, 0x1001]

def engineAnswer : DoipPayload :=
  .diagnosticMessage ⟨0x1001, 0x0E00, [0x62, 0xF1, 0x90, 0x41]⟩

/-- A request with its Ack and answer, and an alive check that is answered. -/
def requestThenAliveCheck : List ConnectionEvent :=
  [.receiverLocks, .senderTakes, .receiverYields, .senderSent true,
    .arrive (.message (.diagnosticMessageAck 0x1001 [0x22])), .arrive (.message engineAnswer),
    .receiverResumes, .receiverLocks, .receiverReads, .receiverLocks, .receiverReads,
    .aliveCheck, .receiverYields, .arrive (.message .aliveCheckResponse), .aliveSent true,
    .aliveLocks, .aliveReads, .aliveDone, .receiverResumes]

theorem delivered_requestThenAliveCheck : ∃ connection, Run (fun connection event next =>
        Connection.step gatewayEcus connection event = some next)
        .initial requestThenAliveCheck connection ∧
      connection.channels 0x1001 =
        [.ack 0x1001 [0x22], .msg ⟨0x1001, 0x0E00, [0x62, 0xF1, 0x90, 0x41]⟩] ∧
      connection.Delivered gatewayEcus := by
  have run : ∃ connection : Connection, Run (fun connection event next =>
        Connection.step gatewayEcus connection event = some next)
        .initial requestThenAliveCheck connection ∧
      connection.channels 0x1001 =
        [.ack 0x1001 [0x22], .msg ⟨0x1001, 0x0E00, [0x62, 0xF1, 0x90, 0x41]⟩] ∧
      connection.readMessages =
        [(.receiver, .diagnosticMessageAck 0x1001 [0x22]), (.receiver, engineAnswer),
          (.sender, .aliveCheckResponse)] :=
    ⟨_, Run.of_foldlM rfl, rfl, rfl⟩
  obtain ⟨connection, run, channel, read⟩ := run
  refine ⟨connection, run, channel, (Connection.delivered_iff run).mpr ?_⟩
  intro payload mem address _ isFor
  rw [read] at mem
  have isAlive : payload = .aliveCheckResponse := by simpa using mem
  rw [isAlive] at isFor
  cases isFor

/-- The answer comes while the alive check waits for its own. -/
def answerDuringAliveCheck : List ConnectionEvent :=
  [.aliveCheck, .receiverYields, .arrive (.message engineAnswer), .aliveSent true, .aliveLocks,
    .aliveReads, .aliveDone, .receiverResumes]

/-- The alive check reads the answer and drops it. -/
theorem alive_check_loses_answer : ¬ ∀ ecus events connection, Run (fun connection event next =>
        Connection.step ecus connection event = some next) .initial events connection →
      connection.Delivered ecus := by
  intro everyAnswerDelivered
  have run : ∃ connection : Connection, Run (fun connection event next =>
        Connection.step gatewayEcus connection event = some next)
        .initial answerDuringAliveCheck connection ∧
      connection.channels 0x1001 = [] ∧
      connection.readMessages = [(.sender, engineAnswer)] :=
    ⟨_, Run.of_foldlM rfl, rfl, rfl⟩
  obtain ⟨connection, run, channel, read⟩ := run
  have delivered := everyAnswerDelivered _ _ connection run 0x1001
  rw [channel, read] at delivered
  exact absurd delivered (by decide)

end DiagnosticAdapter.Doip
