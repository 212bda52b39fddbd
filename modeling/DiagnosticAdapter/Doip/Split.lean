import DiagnosticAdapter.Bits.Bytes
import DiagnosticAdapter.Framing.FramedRead

/-!
# Splitting a DoIP connection

A connection is read through one framed reader up to the routing activation response and
through another one, made by `into_split`, from then on.
-/

namespace DiagnosticAdapter.Doip.Split

open Framing

inductive ActivationCode where
  | successfullyActivated
  | deniedRequestEncryptedTlsConnection
  | other (code : UInt8)
  deriving DecidableEq, Repr

inductive DoipPayload where
  | routingActivationResponse (sourceAddress logicalAddress : UInt16)
      (activationCode : ActivationCode)
  | diagnosticMessage (sourceAddress targetAddress : UInt16) (message : List UInt8)
  | diagnosticMessageAck (sourceAddress targetAddress : UInt16)
  | other (payloadType : UInt16) (bytes : List UInt8)
  deriving DecidableEq, Repr

structure DoipMessage where
  protocolVersion : UInt8
  payload : DoipPayload
  deriving DecidableEq, Repr

structure DoipSocketConfig where
  protocolVersion : UInt8
  sendDiagnosticMessageAck : Bool
  deriving DecidableEq, Repr

/-- The acknowledgement of a diagnostic message, with the addresses swapped. -/
def DoipPayload.acknowledgement : DoipPayload → Option DoipPayload
  | .diagnosticMessage sourceAddress targetAddress _ =>
    some (.diagnosticMessageAck targetAddress sourceAddress)
  | _ => none

/-- Sending succeeds; what is sent beside the acknowledgements is left out. -/
structure DoIPConnection where
  io : Framed
  config : DoipSocketConfig
  acknowledged : List DoipPayload
  deriving DecidableEq, Repr

structure DoIPConnectionReadHalf where
  io : Framed
  deriving DecidableEq, Repr

inductive RoutingError where
  | unexpectedResponse (message : DoipMessage)
  | readFailed (details : String)
  /-- Closed, or not within the time for the routing activation. -/
  | noResponse
  | notActivated (activationCode : ActivationCode)
  | connectionFailed (details : String)
  deriving DecidableEq, Repr

/-- What is kept of an established connection: the read half, and the acknowledgements that
the connection has sent before. -/
structure EcuConnection where
  readHalf : DoIPConnectionReadHalf
  acknowledged : List DoipPayload
  deriving DecidableEq, Repr

section

variable (codec : Codec DoipMessage)

namespace DoIPConnection

def new (incoming : List (List UInt8)) (config : DoipSocketConfig) : DoIPConnection :=
  ⟨.new incoming, config, []⟩

def read (connection : DoIPConnection) : Option (Except String DoipMessage) × DoIPConnection :=
  let (result, io) := codec.next connection.io
  match result with
  | some (.ok message) =>
    let sent := if connection.config.sendDiagnosticMessageAck then
        message.payload.acknowledgement.toList
      else []
    (result, { connection with io, acknowledged := connection.acknowledged ++ sent })
  | _ => (result, { connection with io })

/-- A new reader on the transport takes over from the old one. -/
def intoSplit (connection : DoIPConnection) : EcuConnection :=
  ⟨⟨.new connection.io.incoming⟩, connection.acknowledged⟩

end DoIPConnection

namespace DoIPConnectionReadHalf

def read (half : DoIPConnectionReadHalf) :
    Option (Except String DoipMessage) × DoIPConnectionReadHalf :=
  let (result, io) := codec.next half.io
  (result, ⟨io⟩)

/-- The results of the first reads. -/
def reads : Nat → DoIPConnectionReadHalf → List (Option (Except String DoipMessage))
  | 0, _ => []
  | count + 1, half =>
    let (result, half) := half.read codec
    result :: reads count half

theorem reads_eq_results (count : Nat) (half : DoIPConnectionReadHalf) :
    half.reads codec count = codec.results count half.io := by
  induction count generalizing half with
  | zero => rfl
  | succ count ih => exact congrArg ((codec.next half.io).1 :: ·) (ih ⟨(codec.next half.io).2⟩)

end DoIPConnectionReadHalf

def tryReadRoutingActivationResponse (connection : DoIPConnection) :
    Except RoutingError (ActivationCode × DoIPConnection) :=
  match connection.read codec with
  | (some (.ok message), connection) =>
    match message.payload with
    | .routingActivationResponse _ _ activationCode => .ok (activationCode, connection)
    | _ => .error (.unexpectedResponse message)
  | (some (.error e), _) => .error (.readFailed e)
  | (none, _) => .error .noResponse

def establishTlsEcuConnection (config : DoipSocketConfig) (incoming : List (List UInt8)) :
    Except RoutingError EcuConnection := do
  let (activationCode, connection) ←
    tryReadRoutingActivationResponse codec (.new incoming config)
  if activationCode ≠ .successfullyActivated then
    throw (.notActivated activationCode)
  return connection.intoSplit

/-- `tls` is what the gateway sends over a TLS connection, if one can be made. -/
def establishEcuConnection (config : DoipSocketConfig) (incoming : List (List UInt8))
    (tls : Except String (List (List UInt8))) : Except RoutingError EcuConnection := do
  let (activationCode, connection) ←
    tryReadRoutingActivationResponse codec (.new incoming config)
  match activationCode with
  | .successfullyActivated => return connection.intoSplit
  | .deniedRequestEncryptedTlsConnection =>
    match tls with
    | .ok incoming => establishTlsEcuConnection codec config incoming
    | .error e => throw (.connectionFailed e)
  | activationCode => throw (.notActivated activationCode)

/-- The read half returns the messages and nothing else, and every diagnostic message of
the connection has its acknowledgement. -/
structure Transparent (config : DoipSocketConfig) (messages : List DoipMessage)
    (connection : EcuConnection) : Prop where
  returned : connection.readHalf.reads codec (messages.length + 1) =
    messages.map (fun message => some (.ok message)) ++ [none]
  acknowledged : config.sendDiagnosticMessageAck = true →
    connection.acknowledged = messages.filterMap (·.payload.acknowledgement)

end

namespace ActivationCode

def ofByte (byte : UInt8) : ActivationCode :=
  if byte = 0x10 then .successfullyActivated
  else if byte = 0x07 then .deniedRequestEncryptedTlsConnection
  else .other byte

def toByte : ActivationCode → UInt8
  | .successfullyActivated => 0x10
  | .deniedRequestEncryptedTlsConnection => 0x07
  | .other code => code

end ActivationCode

def be16 (number : UInt16) : List UInt8 := Bits.toBeBytes 2 number.toNat

def fromBe16 (high low : UInt8) : UInt16 := UInt16.ofNat (Bits.value [high, low])

namespace DoipPayload

def payloadType : DoipPayload → UInt16
  | .routingActivationResponse .. => 0x0006
  | .diagnosticMessage .. => 0x8001
  | .diagnosticMessageAck .. => 0x8002
  | .other payloadType _ => payloadType

def toBytes : DoipPayload → List UInt8
  | .routingActivationResponse sourceAddress logicalAddress activationCode =>
    be16 sourceAddress ++ be16 logicalAddress ++ [activationCode.toByte, 0, 0, 0, 0]
  | .diagnosticMessage sourceAddress targetAddress message =>
    be16 sourceAddress ++ be16 targetAddress ++ message
  | .diagnosticMessageAck sourceAddress targetAddress =>
    be16 sourceAddress ++ be16 targetAddress ++ [0]
  | .other _ bytes => bytes

def ofBytes (payloadType : UInt16) (bytes : List UInt8) : Except String DoipPayload :=
  if payloadType = 0x0006 then
    match bytes with
    | [s1, s0, l1, l0, code, _, _, _, _] =>
      .ok (.routingActivationResponse (fromBe16 s1 s0) (fromBe16 l1 l0) (.ofByte code))
    | _ => .error "invalid payload length"
  else if payloadType = 0x8001 then
    match bytes with
    | s1 :: s0 :: t1 :: t0 :: message =>
      .ok (.diagnosticMessage (fromBe16 s1 s0) (fromBe16 t1 t0) message)
    | _ => .error "invalid payload length"
  else if payloadType = 0x8002 then
    match bytes with
    | [s1, s0, t1, t0, _] => .ok (.diagnosticMessageAck (fromBe16 s1 s0) (fromBe16 t1 t0))
    | _ => .error "invalid payload length"
  else .ok (.other payloadType bytes)

theorem length_toBytes_of_ofBytes {payloadType : UInt16} {bytes : List UInt8}
    {payload : DoipPayload} (decoded : ofBytes payloadType bytes = .ok payload) :
    payload.toBytes.length = bytes.length := by
  unfold ofBytes at decoded
  split at decoded
  · split at decoded
    · cases decoded
      simp [toBytes, be16]
    · cases decoded
  · split at decoded
    · split at decoded
      · cases decoded
        simp [toBytes, be16]
        omega
      · cases decoded
    · split at decoded
      · split at decoded
        · cases decoded
          simp [toBytes, be16]
        · cases decoded
      · cases decoded
        rfl

end DoipPayload

/-- Version, its inverse, payload type and length, then the payload. -/
def doipCodec : Codec DoipMessage where
  encode message :=
    let bytes := message.payload.toBytes
    [message.protocolVersion, ~~~message.protocolVersion] ++ be16 message.payload.payloadType ++
      Bits.toBeBytes 4 bytes.length ++ bytes
  decode
    | version :: inverse :: type1 :: type0 :: length3 :: length2 :: length1 :: length0 :: tail =>
      let length := Bits.value [length3, length2, length1, length0]
      if inverse ≠ ~~~version then some (.error "invalid header")
      else if tail.length < length then none
      else match DoipPayload.ofBytes (fromBe16 type1 type0) (tail.take length) with
        | .ok payload => some (.ok (⟨version, payload⟩, tail.drop length))
        | .error e => some (.error e)
    | _ => none

theorem length_of_doipCodec {bytes rest : List UInt8} {message : DoipMessage}
    (decoded : doipCodec.decode bytes = some (.ok (message, rest))) :
    (doipCodec.encode message).length + rest.length = bytes.length := by
  simp only [doipCodec] at decoded
  split at decoded
  case h_1 version inverse type1 type0 length3 length2 length1 length0 tail =>
    split at decoded
    · cases decoded
    · split at decoded
      · cases decoded
      · split at decoded
        · rename_i enough _ payload payloadDecoded
          cases decoded
          have payloadLength := DoipPayload.length_toBytes_of_ofBytes payloadDecoded
          simp only [doipCodec, be16, List.length_append, List.length_cons, List.length_nil,
            Bits.length_toBeBytes, List.length_drop, List.length_take] at payloadLength ⊢
          omega
        · cases decoded
  case h_2 => cases decoded

theorem doipCodec_complete {message : DoipMessage} (small : message.payload.toBytes.length < 2 ^ 32)
    (carried : DoipPayload.ofBytes message.payload.payloadType message.payload.toBytes =
      .ok message.payload) (rest : List UInt8) :
    doipCodec.decode (doipCodec.encode message ++ rest) = some (.ok (message, rest)) := by
  obtain ⟨protocolVersion, payload⟩ := message
  have typeRead : fromBe16 (UInt8.ofNat (payload.payloadType.toNat / 2 ^ (8 * 1)))
      (UInt8.ofNat (payload.payloadType.toNat / 2 ^ (8 * 0))) = payload.payloadType := by
    have value := Bits.value_toBeBytes 2 payload.payloadType.toNat
    have bounded : payload.payloadType.toNat < 2 ^ (8 * 2) := payload.payloadType.toNat_lt
    rw [Nat.mod_eq_of_lt bounded] at value
    exact (congrArg UInt16.ofNat value).trans UInt16.ofNat_toNat
  have lengthRead := Bits.value_toBeBytes 4 payload.toBytes.length
  rw [Nat.mod_eq_of_lt small] at lengthRead
  simp only [Bits.toBeBytes] at lengthRead
  simp only [doipCodec, be16, Bits.toBeBytes, List.cons_append, List.nil_append, ne_eq,
    not_true_eq_false, if_false, typeRead, lengthRead, List.length_append]
  rw [if_neg (by omega), List.take_left, List.drop_left, carried]

/-- Addresses of a gateway and of a tester, in the order of the response. -/
def activated : DoipMessage :=
  ⟨0x02, .routingActivationResponse 0x0E00 0x1000 .successfullyActivated⟩

def positiveResponse : DoipMessage := ⟨0x02, .diagnosticMessage 0x1000 0x0E00 [0x50, 0x03]⟩

theorem frames_activated : doipCodec.Frames [activated, positiveResponse] where
  empty := rfl
  complete := by
    intro message mem rest
    simp only [List.mem_cons, List.not_mem_nil, or_false] at mem
    obtain rfl | rfl := mem
    · exact doipCodec_complete (by decide) rfl rest
    · exact doipCodec_complete (by decide) rfl rest
  incomplete := by
    have cut : ∀ message ∈ [activated, positiveResponse],
        ∀ part ∈ (doipCodec.encode message).inits, part ≠ doipCodec.encode message →
          (doipCodec.decode part).isNone = true := by decide
    intro message mem part isPart other
    exact Option.isNone_iff_eq_none.mp
      (cut message mem part ((List.mem_inits _ _).mpr isPart) other)
  length := fun _ _ _ _ decoded => length_of_doipCodec decoded

section Activation

variable {codec : Codec DoipMessage} {activation : DoipMessage} {messages : List DoipMessage}
  {sourceAddress logicalAddress : UInt16} (frames : codec.Frames (activation :: messages))
  (successful : activation.payload =
    .routingActivationResponse sourceAddress logicalAddress .successfullyActivated)
  {incoming : List (List UInt8)}
  (stream : incoming.flatten = codec.encode activation ++ (messages.map codec.encode).flatten)
  (config : DoipSocketConfig) (tls : Except String (List (List UInt8)))

include frames successful stream

theorem exists_established :
    ∃ rest chunks, rest ++ chunks.flatten = (messages.map codec.encode).flatten ∧
      (rest = [] ↔ ∃ count, (incoming.take count).flatten = codec.encode activation) ∧
      establishEcuConnection codec config incoming tls = .ok ⟨⟨.new chunks⟩, []⟩ ∧
      establishTlsEcuConnection codec config incoming = .ok ⟨⟨.new chunks⟩, []⟩ := by
  obtain ⟨rest, chunks, polled, left, atEnd⟩ := Codec.poll_first frames List.mem_cons_self
    (show [] ++ incoming.flatten = _ from stream)
  have next : codec.next (.new incoming) = (some (.ok activation), ⟨rest, chunks, false⟩) := polled
  have read : tryReadRoutingActivationResponse codec (.new incoming config) =
      .ok (.successfullyActivated, ⟨⟨rest, chunks, false⟩, config, []⟩) := by
    simp only [tryReadRoutingActivationResponse, DoIPConnection.read, DoIPConnection.new, next,
      successful, DoipPayload.acknowledgement, Option.toList_none, ite_self, List.append_nil]
  refine ⟨rest, chunks, left, by simpa using atEnd, ?_, ?_⟩
  · unfold establishEcuConnection
    rw [read]
    rfl
  · unfold establishTlsEcuConnection
    rw [read]
    rfl

/-- The split loses what the reader has in its buffer, and the acknowledgements. -/
theorem transparent_iff :
    ∃ connection, establishEcuConnection codec config incoming tls = .ok connection ∧
      establishTlsEcuConnection codec config incoming = .ok connection ∧
      (Transparent codec config messages connection ↔
        (∃ count, (incoming.take count).flatten = codec.encode activation) ∧
          (config.sendDiagnosticMessageAck = true →
            ∀ message ∈ messages, message.payload.acknowledgement = none)) := by
  obtain ⟨rest, chunks, left, atEnd, plain, overTls⟩ := exists_established frames successful
    stream config tls
  refine ⟨_, plain, overTls, ?_⟩
  have known : ∀ message ∈ messages, message ∈ activation :: messages :=
    fun message mem => List.mem_cons_of_mem _ mem
  rw [← atEnd]
  constructor
  · intro transparent
    constructor
    · have returned := transparent.returned
      rw [DoIPConnectionReadHalf.reads_eq_results] at returned
      have enough := Codec.length_le_of_results frames known returned
      have lengths := congrArg List.length left
      simp only [Framed.new, List.nil_append, List.length_append] at enough lengths
      exact List.eq_nil_of_length_eq_zero (by omega)
    · intro sendAck message mem
      have none := transparent.acknowledged sendAck
      exact List.filterMap_eq_nil_iff.mp none.symm message mem
  · rintro ⟨rfl, unacknowledged⟩
    constructor
    · rw [DoIPConnectionReadHalf.reads_eq_results]
      exact Codec.results_of_stream frames known left
    · intro sendAck
      exact (List.filterMap_eq_nil_iff.mpr (unacknowledged sendAck)).symm

end Activation

theorem transparent_separate_reads : ∃ connection, establishEcuConnection doipCodec ⟨0x02, false⟩
          [doipCodec.encode activated, doipCodec.encode positiveResponse]
          (.error "refused") = .ok connection ∧
        establishTlsEcuConnection doipCodec ⟨0x02, false⟩
          [doipCodec.encode activated, doipCodec.encode positiveResponse] = .ok connection ∧
        Transparent doipCodec ⟨0x02, false⟩ [positiveResponse] connection := by
  obtain ⟨connection, plain, overTls, transparent⟩ :=
    @transparent_iff doipCodec activated [positiveResponse] 0x0E00 0x1000 frames_activated rfl
      [doipCodec.encode activated, doipCodec.encode positiveResponse] rfl ⟨0x02, false⟩
      (.error "refused")
  exact ⟨connection, plain, overTls, transparent.mpr ⟨⟨1, rfl⟩, nofun⟩⟩

/-- A message that arrives in one read with the activation response is lost. -/
theorem same_read_lost :
    ¬∀ (codec : Codec DoipMessage) (activation : DoipMessage) (messages : List DoipMessage)
        (sourceAddress logicalAddress : UInt16) (incoming : List (List UInt8))
        (config : DoipSocketConfig) (tls : Except String (List (List UInt8))),
        codec.Frames (activation :: messages) →
        activation.payload =
          .routingActivationResponse sourceAddress logicalAddress .successfullyActivated →
        incoming.flatten = codec.encode activation ++ (messages.map codec.encode).flatten →
        ∃ connection, establishEcuConnection codec config incoming tls = .ok connection ∧
          Transparent codec config messages connection := by
  intro transparent
  obtain ⟨connection, established, transparent⟩ := transparent doipCodec activated
    [positiveResponse] 0x0E00 0x1000
    [doipCodec.encode activated ++ doipCodec.encode positiveResponse] ⟨0x02, false⟩
    (.error "refused") frames_activated rfl rfl
  have nothingLeft : establishEcuConnection doipCodec ⟨0x02, false⟩
      [doipCodec.encode activated ++ doipCodec.encode positiveResponse] (.error "refused") =
        .ok ⟨⟨.new []⟩, []⟩ := by rfl
  cases established.symm.trans nothingLeft
  have returned := transparent.returned
  have read : DoIPConnectionReadHalf.reads doipCodec 2 ⟨.new []⟩ = [none, none] := rfl
  cases read.symm.trans returned

end DiagnosticAdapter.Doip.Split
