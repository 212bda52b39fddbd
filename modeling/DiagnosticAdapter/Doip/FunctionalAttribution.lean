import DiagnosticAdapter.Doip.Functional

/-!
# To which request a functional response belongs

Only the gateway's own channel is cleared, and the first message of a channel is taken for
the response, whatever it is.
-/

namespace DiagnosticAdapter.Doip.Functional

open Uds Function

/-- A positive response of the service, or a negative one: `7F <SID> <NRC>`. -/
def Answers (sid : UInt8) (data : List UInt8) : Prop :=
  (∃ nrc rest, data = ServiceIds.negativeResponse :: sid :: nrc :: rest) ∨
    data.head? = some (sid + udsIdResponseBitmask)

/-- The ECU at the address is waited for under this name. -/
def Listed (toLowercase : String → String) (parameters : TransmissionParameters)
    (expectedEcuLogicalAddrs : List (UInt16 × String)) (address : UInt16) (name : String) : Prop :=
  (address, name) ∈ expectedEcuLogicalAddrs ∨
    address = parameters.gatewayAddress ∧ name = toLowercase parameters.ecuName

/-- The response under the name is that ECU's, to this request, and final. -/
structure Attributed (toLowercase : String → String) (parameters : TransmissionParameters)
    (expectedEcuLogicalAddrs : List (UInt16 × String)) (sid : UInt8) (name : String)
    (response : Response) : Prop where
  sender : Listed toLowercase parameters expectedEcuLogicalAddrs response.address name
  afterSent : response.afterSent = true
  answers : Answers sid response.payload.data
  final : isPendingNrc response.payload.data = false

/-- An item behind which a channel is not read any further. -/
def Item.decides : Item → Bool
  | .response (.msg _) => true
  | .response _ => false
  | .error _ => true
  | .closed => true

/-- If the first of the deciding items is a message, it came after the request was sent, it
answers the request and it is final. -/
def Regular (sid : UInt8) (arrivals : List Arrival) : Prop :=
  ∀ message afterSent,
    arrivals.find? (·.item.decides) = some ⟨.response (.msg message), afterSent⟩ →
      afterSent = true ∧ Answers sid message.data ∧ isPendingNrc message.data = false

/-- What the channels bring once the connection has taken the request. -/
structure RegularChannels (parameters : TransmissionParameters)
    (expectedEcuLogicalAddrs : List (UInt16 × String)) (sid : UInt8)
    (connection : DoipConnection) (gatewayEcu : EcuChannel) : Prop where
  gateway : Regular sid gatewayEcu.clearedArrivals
  expected : ∀ address name, (address, name) ∈ expectedEcuLogicalAddrs →
    address ≠ parameters.gatewayAddress → ∀ ecu, connection address = some ecu →
      Regular sid ecu.arrivals

theorem waitForEcuResponse_ok_iff {address : UInt16} {arrivals : List Arrival}
    {response : Response} :
    waitForEcuResponse address arrivals = some (.ok response) ↔ ∃ message afterSent,
        arrivals.find? (·.item.decides) = some ⟨.response (.msg message), afterSent⟩ ∧
          response = ⟨udsResponseFromRaw message.data message.sourceAddress message.targetAddress,
            address, afterSent⟩ := by
  fun_induction waitForEcuResponse address arrivals with
  | case1 => simp
  | case2 message afterSent arrivals =>
    rw [List.find?_cons_of_pos (by rfl)]
    constructor
    · intro same
      exact ⟨message, afterSent, rfl, (Except.ok.inj (Option.some.inj same)).symm⟩
    · rintro ⟨_, _, same, rfl⟩
      cases same
      rfl
  | case3 other afterSent arrivals notMessage ih =>
    have passes : ¬(Arrival.mk (.response other) afterSent).item.decides = true := by
      unfold Item.decides
      split <;> simp_all
    have find : (⟨.response other, afterSent⟩ :: arrivals).find? (·.item.decides) =
        arrivals.find? (·.item.decides) := List.find?_cons_of_neg passes
    rw [ih, find]
  | case4 ecuError afterSent arrivals => simp [Item.decides]
  | case5 afterSent arrivals => simp [Item.decides]

section

variable {completed : List Waiting} {ecu : Waiting} {name : String} {response : Response}

theorem receivedResponses_append (completed : List Waiting) (ecu : Waiting) :
    receivedResponses (completed ++ [ecu]) =
      match waitForEcuResponse ecu.address ecu.arrivals with
      | some response =>
        update (receivedResponses completed) ecu.name
          (some (response.mapError EcuError.toDiagServiceError))
      | none => receivedResponses completed := by
  rw [receivedResponses, List.foldl_append]
  rfl

theorem exists_waited_of_receivedResponses {result : Except DiagServiceError Response}
    (entry : receivedResponses completed name = some result) :
    ∃ ecu ∈ completed, ecu.name = name ∧
      ∃ response, waitForEcuResponse ecu.address ecu.arrivals = some response ∧
        response.mapError EcuError.toDiagServiceError = result := by
  induction completed using List.reverseRecOn with
  | nil => cases entry
  | append_singleton completed ecu ih =>
    have earlier : receivedResponses completed name = some result →
        ∃ other ∈ completed ++ [ecu], other.name = name ∧
          ∃ response, waitForEcuResponse other.address other.arrivals = some response ∧
            response.mapError EcuError.toDiagServiceError = result := by
      intro entry
      obtain ⟨other, mem, waited⟩ := ih entry
      exact ⟨other, List.mem_append_left _ mem, waited⟩
    rw [receivedResponses_append] at entry
    cases waited : waitForEcuResponse ecu.address ecu.arrivals with
    | none =>
      rw [waited] at entry
      exact earlier entry
    | some response =>
      rw [waited] at entry
      by_cases named : name = ecu.name
      · subst named
        simp only [update_self, Option.some.injEq] at entry
        exact ⟨ecu, by simp, rfl, response, waited, entry⟩
      · simp only [update_of_ne named] at entry
        exact earlier entry

theorem exists_waited_of_ok (entry : receivedResponses completed name = some (.ok response)) :
    ∃ ecu ∈ completed, ecu.name = name ∧
      waitForEcuResponse ecu.address ecu.arrivals = some (.ok response) := by
  obtain ⟨ecu, mem, named, result, waited, same⟩ := exists_waited_of_receivedResponses entry
  cases result with
  | error ecuError => cases same
  | ok message =>
    cases same
    exact ⟨ecu, mem, named, waited⟩

theorem receivedResponses_last
    (waited : waitForEcuResponse ecu.address ecu.arrivals = some (.ok response)) :
    receivedResponses (completed ++ [ecu]) ecu.name = some (.ok response) := by
  rw [receivedResponses_append, waited]
  exact update_self ..

theorem insertTimeouts_apply {expectedEcuLogicalAddrs : List (UInt16 × String)}
    {expectPositiveResponse : Bool} {results : Results} :
    insertTimeouts expectedEcuLogicalAddrs expectPositiveResponse results name = (results name).or
        (if name ∈ expectedEcuLogicalAddrs.map Prod.snd ∧ expectPositiveResponse = true then
          some (.error .timeout)
        else none) := by
  induction expectedEcuLogicalAddrs generalizing results with
  | nil => simp [insertTimeouts]
  | cons ecu others ih =>
    rw [insertTimeouts, List.foldl_cons]
    refine ih.trans ?_
    by_cases same : name = ecu.2
    · subst same
      cases found : results ecu.2 <;> cases expectPositiveResponse <;> simp [found]
    · have kept : ∀ value, update results ecu.2 value name = results name :=
        fun value => update_of_ne same value results
      split
      case isTrue => simp only [kept, List.map_cons, List.mem_cons, same, false_or]
      case isFalse => simp only [List.map_cons, List.mem_cons, same, false_or]

theorem insertTimeouts_ok_iff {expectedEcuLogicalAddrs : List (UInt16 × String)}
    {expectPositiveResponse : Bool} {results : Results} :
    insertTimeouts expectedEcuLogicalAddrs expectPositiveResponse results name =
        some (.ok response) ↔
      results name = some (.ok response) := by
  rw [insertTimeouts_apply]
  cases results name with
  | some result => rfl
  | none => split <;> simp

end

section Attribution

variable {toLowercase : String → String} {state : DoipGatewayState}
  {parameters : TransmissionParameters} {message : ServicePayload}
  {expectedEcuLogicalAddrs : List (UInt16 × String)}
  {sendWithRetries : DiagnosticMessage → Except DiagServiceError Unit}

theorem sendRequest_ok_iff {waiting : List Waiting} :
    sendRequest toLowercase state parameters message expectedEcuLogicalAddrs sendWithRetries =
        .ok waiting ↔
      ∃ connection gatewayEcu, getDoipConnection state parameters.gatewayAddress = .ok connection ∧
        connection parameters.gatewayAddress = some gatewayEcu ∧
        sendWithRetries ⟨message.sourceAddress, message.targetAddress, message.data⟩ = .ok () ∧
        waitingEcus toLowercase parameters expectedEcuLogicalAddrs connection gatewayEcu =
          waiting := by
  unfold sendRequest
  constructor
  · intro sent
    split at sent
    · cases sent
    · rename_i connection connected
      split at sent
      · cases sent
      · rename_i gatewayEcu present
        split at sent
        · cases sent
        · exact ⟨connection, gatewayEcu, connected, present, ‹_›, Except.ok.inj sent⟩
  · rintro ⟨connection, gatewayEcu, connected, present, taken, rfl⟩
    simp only [connected, present, taken]

variable {connection : DoipConnection} {gatewayEcu : EcuChannel}

theorem mem_waitingEcus {ecu : Waiting} :
    ecu ∈ waitingEcus toLowercase parameters expectedEcuLogicalAddrs connection gatewayEcu ↔
      (∃ address name channel, (address, name) ∈ expectedEcuLogicalAddrs ∧
        address ≠ parameters.gatewayAddress ∧ connection address = some channel ∧
        ecu = ⟨address, name, channel.arrivals⟩) ∨
      ecu = ⟨parameters.gatewayAddress, toLowercase parameters.ecuName,
        gatewayEcu.clearedArrivals⟩ := by
  simp only [waitingEcus, List.mem_append, List.mem_singleton, List.mem_filterMap, Prod.exists,
    Option.ite_none_left_eq_some, Option.map_eq_some_iff]
  constructor
  · rintro (⟨address, name, expected, other, channel, known, rfl⟩ | same)
    · exact .inl ⟨address, name, channel, expected, other, known, rfl⟩
    · exact .inr same
  · rintro (⟨address, name, channel, expected, other, known, rfl⟩ | same)
    · exact .inl ⟨address, name, expected, other, channel, known, rfl⟩
    · exact .inr same

theorem listed_of_mem {ecu : Waiting}
    (mem : ecu ∈ waitingEcus toLowercase parameters expectedEcuLogicalAddrs connection
      gatewayEcu) :
    Listed toLowercase parameters expectedEcuLogicalAddrs ecu.address ecu.name := by
  obtain ⟨address, name, channel, expected, _, _, rfl⟩ | rfl := mem_waitingEcus.mp mem
  · exact .inl expected
  · exact .inr ⟨rfl, rfl⟩

theorem regularChannels_iff (toLowercase : String → String) {sid : UInt8} :
    RegularChannels parameters expectedEcuLogicalAddrs sid connection gatewayEcu ↔
      ∀ ecu ∈ waitingEcus toLowercase parameters expectedEcuLogicalAddrs connection gatewayEcu,
        Regular sid ecu.arrivals := by
  constructor
  · intro regular ecu mem
    obtain ⟨address, name, channel, expected, other, known, rfl⟩ | rfl := mem_waitingEcus.mp mem
    · exact regular.expected address name expected other channel known
    · exact regular.gateway
  · intro regular
    constructor
    · exact regular _ (mem_waitingEcus.mpr (.inr rfl))
    · intro address name expected other channel known
      exact regular _ (mem_waitingEcus.mpr
        (.inl ⟨address, name, channel, expected, other, known, rfl⟩))

section

variable {expectPositiveResponse : Bool} {completionOrder : List Waiting → List Waiting}
  {results : Results} {name : String}

theorem sendFunctional_ok_iff :
    sendFunctional toLowercase state parameters message expectedEcuLogicalAddrs sendWithRetries
        expectPositiveResponse completionOrder = .ok results ↔
      ∃ waiting,
        sendRequest toLowercase state parameters message expectedEcuLogicalAddrs sendWithRetries =
          .ok waiting ∧
        insertTimeouts expectedEcuLogicalAddrs expectPositiveResponse
          (receivedResponses (completionOrder waiting)) = results := by
  rw [sendFunctional]
  cases sendRequest toLowercase state parameters message expectedEcuLogicalAddrs
    sendWithRetries with
  | error error => simp [bind, Except.bind]
  | ok waiting => simp [bind, Except.bind, pure, Except.pure]

section

variable (permutes : ∀ waiting, (completionOrder waiting).Perm waiting)
  (returned : sendFunctional toLowercase state parameters message expectedEcuLogicalAddrs
    sendWithRetries expectPositiveResponse completionOrder = .ok results)

include permutes returned

theorem listed_of_sendFunctional {response : Response} (entry : results name = some (.ok response)) :
    Listed toLowercase parameters expectedEcuLogicalAddrs response.address name := by
  obtain ⟨waiting, sent, rfl⟩ := sendFunctional_ok_iff.mp returned
  obtain ⟨connection, gatewayEcu, -, -, -, rfl⟩ := sendRequest_ok_iff.mp sent
  obtain ⟨ecu, mem, rfl, waited⟩ := exists_waited_of_ok (insertTimeouts_ok_iff.mp entry)
  obtain ⟨message, afterSent, _, rfl⟩ := waitForEcuResponse_ok_iff.mp waited
  exact listed_of_mem ((permutes _).mem_iff.mp mem)

theorem entries_of_sendFunctional : (∀ name, results name ≠ none → ∃ address,
      Listed toLowercase parameters expectedEcuLogicalAddrs address name) ∧
      (expectPositiveResponse = true →
        ∀ name ∈ expectedEcuLogicalAddrs.map Prod.snd, results name ≠ none) := by
  obtain ⟨waiting, sent, rfl⟩ := sendFunctional_ok_iff.mp returned
  obtain ⟨connection, gatewayEcu, -, -, -, rfl⟩ := sendRequest_ok_iff.mp sent
  constructor
  · intro name entry
    rw [insertTimeouts_apply] at entry
    by_cases expected : name ∈ expectedEcuLogicalAddrs.map Prod.snd
    · obtain ⟨⟨address, _⟩, mem, rfl⟩ := List.mem_map.mp expected
      exact ⟨address, .inl mem⟩
    · simp only [expected, false_and, if_false, Option.or_none] at entry
      obtain ⟨result, found⟩ := Option.ne_none_iff_exists'.mp entry
      obtain ⟨ecu, mem, rfl, -⟩ := exists_waited_of_receivedResponses found
      exact ⟨ecu.address, listed_of_mem ((permutes _).mem_iff.mp mem)⟩
  · intro expect name expected
    rw [insertTimeouts_apply, if_pos ⟨expected, expect⟩]
    simp

end

end

/-- Whatever the order in which the ECUs respond. -/
theorem attributed_iff (toLowercase : String → String) (expectPositiveResponse : Bool)
    (sid : UInt8) (request : List UInt8) :
    (∀ completionOrder : List Waiting → List Waiting,
      (∀ waiting, (completionOrder waiting).Perm waiting) →
      ∀ results, sendFunctional toLowercase state parameters { message with data := sid :: request }
          expectedEcuLogicalAddrs sendWithRetries expectPositiveResponse completionOrder =
            .ok results →
      ∀ name response, results name = some (.ok response) →
        Attributed toLowercase parameters expectedEcuLogicalAddrs sid name response) ↔
      ∀ connection gatewayEcu, getDoipConnection state parameters.gatewayAddress = .ok connection →
        connection parameters.gatewayAddress = some gatewayEcu →
        sendWithRetries ⟨message.sourceAddress, message.targetAddress, sid :: request⟩ = .ok () →
          RegularChannels parameters expectedEcuLogicalAddrs sid connection gatewayEcu := by
  constructor
  · intro attributed connection gatewayEcu connected present taken
    have sent : sendRequest toLowercase state parameters { message with data := sid :: request }
        expectedEcuLogicalAddrs sendWithRetries =
          .ok (waitingEcus toLowercase parameters expectedEcuLogicalAddrs connection gatewayEcu) :=
      sendRequest_ok_iff.mpr ⟨connection, gatewayEcu, connected, present, taken, rfl⟩
    rw [regularChannels_iff toLowercase]
    generalize waitingEcus toLowercase parameters expectedEcuLogicalAddrs connection gatewayEcu =
      waiting at sent ⊢
    intro ecu mem message afterSent first
    -- the wait for this ECU ends last
    obtain ⟨front, back, split⟩ := List.append_of_mem mem
    have order : (front ++ back ++ [ecu]).Perm waiting := by
      rw [split, List.append_assoc]
      exact (List.perm_append_singleton ecu back).append_left front
    have waited : waitForEcuResponse ecu.address ecu.arrivals = some (.ok _) :=
      waitForEcuResponse_ok_iff.mpr ⟨message, afterSent, first, rfl⟩
    have result := attributed
      (fun others => if others = waiting then front ++ back ++ [ecu] else others)
      (by
        intro others
        split
        case isTrue same => exact same ▸ order
        case isFalse => exact List.Perm.refl others)
      _ (by rw [sendFunctional, sent]; rfl) ecu.name _
      (insertTimeouts_ok_iff.mpr ((congrArg (receivedResponses · ecu.name) (if_pos rfl)).trans
          (receivedResponses_last waited)))
    exact ⟨result.afterSent, result.answers, result.final⟩
  · intro regular completionOrder permutes results returned name response entry
    obtain ⟨waiting, sent, rfl⟩ := sendFunctional_ok_iff.mp returned
    obtain ⟨connection, gatewayEcu, connected, present, taken, rfl⟩ := sendRequest_ok_iff.mp sent
    have channels := (regularChannels_iff toLowercase).mp (regular _ _ connected present taken)
    obtain ⟨ecu, mem, rfl, waited⟩ := exists_waited_of_ok (insertTimeouts_ok_iff.mp entry)
    have waits := (permutes _).mem_iff.mp mem
    obtain ⟨message, afterSent, first, rfl⟩ := waitForEcuResponse_ok_iff.mp waited
    obtain ⟨after, answers, final⟩ := channels ecu waits message afterSent first
    exact ⟨listed_of_mem waits, after, answers, final⟩

end Attribution

/-- Behind the gateway is an ECU that still has the response to an earlier request. -/
def leftOver : DoipGatewayState where
  logicalAddressToConnection := fun address => if address = 0x1000 then some 0 else none
  doipConnections := [fun address =>
    if address = 0x1000 then some ⟨[], [], []⟩
    else if address = 0x1001 then
      some ⟨[.response (.msg ⟨0x1001, 0x0E00, [0x50, 0x03]⟩)], [],
        [.response (.msg ⟨0x1001, 0x0E00, [0x7E, 0x00]⟩)]⟩
    else none]

/-- The request is a tester present, the response that of a session control. -/
theorem leftOver_taken : ¬∀ (toLowercase : String → String) (state : DoipGatewayState)
        (parameters : TransmissionParameters) (message : ServicePayload)
        (expectedEcuLogicalAddrs : List (UInt16 × String))
        (sendWithRetries : DiagnosticMessage → Except DiagServiceError Unit)
        (expectPositiveResponse : Bool) (sid : UInt8) (request : List UInt8)
        (completionOrder : List Waiting → List Waiting),
        (∀ waiting, (completionOrder waiting).Perm waiting) →
        ∀ results, sendFunctional toLowercase state parameters { message with data := sid :: request }
            expectedEcuLogicalAddrs sendWithRetries expectPositiveResponse completionOrder =
              .ok results →
        ∀ name response, results name = some (.ok response) →
          Attributed toLowercase parameters expectedEcuLogicalAddrs sid name response := by
  intro attributed
  have result := (attributed String.toLower leftOver ⟨0x1000, "gateway"⟩
    ⟨[], 0x0E00, 0xE400, none, none⟩ [(0x1001, "engine")] (fun _ => .ok ()) true 0x3E [0x00] id
    (fun _ => List.Perm.refl _) _ rfl "engine"
    ⟨⟨[0x50, 0x03], 0x1001, 0x0E00, none, none⟩, 0x1001, false⟩ rfl).afterSent
  cases result

end DiagnosticAdapter.Doip.Functional
