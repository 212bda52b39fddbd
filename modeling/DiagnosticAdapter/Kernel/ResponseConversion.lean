import DiagnosticAdapter.Kernel.PayloadDecode
import DiagnosticAdapter.Kernel.StateCharts

/-!
# Converting a response

`convert_from_uds`: the response definition that a payload matches, the states that a
positive one leads to, and the mapped data.  `convert_service_14_response` stands beside it.
-/

namespace DiagnosticAdapter.Kernel

open Codec Uds

variable {conv : Conversions}

inductive ResponseType where
  | positive
  | negative
  | globalNegative
  deriving DecidableEq, Repr

structure Response (conv : Conversions) where
  responseType : Except DiagServiceError ResponseType
  params : Option (List (Parameter conv))

/-- A service as `lookup_diag_service` finds it. -/
structure MappedService (conv : Conversions) where
  service : DiagService conv
  diagComm : Option DiagComm
  posResponses : Option (List (Response conv))
  negResponses : Option (List (Response conv))

inductive DiagServiceResponseType where
  | positive
  | negative
  deriving DecidableEq, Repr

structure DiagServiceResponse (conv : Conversions) where
  data : List UInt8
  mappedData : Option (MappedResponse conv)
  responseType : DiagServiceResponseType

def tryExtractSidFromPayload : List UInt8 → Except DiagServiceError UInt8
  | [] => .error (.badPayload "Missing service id")
  | sid :: rest =>
    if sid = ServiceIds.negativeResponse then
      match rest with
      | sidNrq :: _ => .ok sidNrq
      | [] => .error (.badPayload "NRC without accompanying SID_RQ received")
    else
      .ok sid

def clearFaultMemPosResponseSid : UInt8 := 0x54

def hexDigit (digit : Nat) : Char := if digit < 10 then Char.ofNat (48 + digit)
  else Char.ofNat (87 + digit)

/-- `{:04x}` of a byte. -/
def hexWord (byte : UInt8) : String :=
  String.ofList ['0', '0', hexDigit (byte.toNat / 16), hexDigit (byte.toNat % 16)]

def convertService14Response (response : List UInt8) :
    Except DiagServiceError (DiagServiceResponse conv) := do
  let sid ← tryExtractSidFromPayload response
  if sid = clearFaultMemPosResponseSid then
    return ⟨response, none, .positive⟩
  else if sid = ServiceIds.negativeResponse then
    return ⟨response, none, .negative⟩
  else
    throw (.unexpectedResponse (some s!"received unexpected response with SID {hexWord sid}"))

def Parameter.startsWith (param : Parameter conv) (value : Text) : Bool :=
  param.bytePosition == 0 &&
    match param.specificData with
    | .codedConst codedConst => codedConst.codedValue == some value
    | _ => false

/-- The first definition, the positive ones first, that has a parameter for the first
byte. -/
def MappedService.matchingResponse (mappedService : MappedService conv) (firstByte : UInt8) :
    Option (Response conv × List (Parameter conv)) :=
  (mappedService.posResponses.getD [] ++ mappedService.negResponses.getD []).findSome?
    fun response => response.params.bind fun params =>
      if params.any (·.startsWith (toString firstByte.toNat).toList) then
        some (response, params)
      else
        none

def ResponseType.polarity : ResponseType → DiagServiceResponseType
  | .positive => .positive
  | .negative | .globalNegative => .negative

/-- The payload from the first data parameter on. -/
def rawUdsPayload (semantics : Semantics) (params : List (Parameter conv))
    (udsPayload : Payload) : Except DiagServiceError (List UInt8) := do
  let positions := (params.filter (·.semantic == some semantics.data)).map (·.bytePosition)
  let baseOffset := positions.min?.getD 0
  match dropChecked (← udsPayload.view) baseOffset with
  | some bytes => return bytes
  | none => throw (.badPayload "Payload offset out of bounds")

section Conversion

variable (semantics : Semantics) (depth : Nat) (mappedService : MappedService conv)

def convertMatched (responseType : ResponseType) (params : List (Parameter conv))
    (payload : List UInt8) (mapToJson : Bool) :
    Except DiagServiceError (DiagServiceResponse conv) := do
  let raw ← rawUdsPayload semantics params (.new payload)
  if responseType = .positive ∧ mapToJson = false then
    return ⟨raw, none, .positive⟩
  else
    match convertFromUds mappedService.service depth semantics params (.new payload) with
    | .ok errors state => return ⟨raw, some ⟨state.data, errors⟩, responseType.polarity⟩
    | .error failure _ => throw failure.error

namespace EcuManager

def setServiceState (ecu : EcuManager) (sid : UInt8) (value : String) : EcuManager :=
  { ecu with serviceStates := fun other => if other = sid then some value
      else ecu.serviceStates other }

def setServiceState? (ecu : EcuManager) (sid : UInt8) : Option String → EcuManager
  | some value => ecu.setServiceState sid value
  | none => ecu

/-- The states after the transitions that the service takes. -/
def followTransitions (ecu : EcuManager) (diagComm : DiagComm) : EcuManager :=
  let (newSession, newSecurity) := ecu.lookupStateTransitionByDiagcommForActive diagComm
  (ecu.setServiceState? ServiceIds.sessionControl newSession).setServiceState?
    ServiceIds.securityAccess newSecurity

/-- The states are updated also when the conversion fails later. -/
def convertFromUds (ecu : EcuManager) (payload : List UInt8) (mapToJson : Bool) :
    EcuManager × Except DiagServiceError (DiagServiceResponse conv) :=
  match mappedService.diagComm with
  | none => (ecu, .error (.invalidDatabase "No DiagComm found"))
  | some mappedDiagComm =>
    match tryExtractSidFromPayload payload with
    | .error e => (ecu, .error e)
    | .ok _ =>
      match (Payload.new payload).first with
      | none => (ecu, .error (.badPayload "Payload too short to read first byte"))
      | some firstByte =>
        match mappedService.matchingResponse firstByte with
        | some (response, params) =>
          match response.responseType with
          | .error e => (ecu, .error e)
          | .ok responseType =>
            (if responseType = .positive then ecu.followTransitions mappedDiagComm
              else ecu,
              convertMatched semantics depth mappedService responseType params payload mapToJson)
        | none =>
          (ecu, .ok ⟨payload, none,
            if firstByte = ServiceIds.negativeResponse then .negative else .positive⟩)

end EcuManager

end Conversion

theorem first_new (payload : List UInt8) : (Payload.new payload).first = payload.head? := by
  rw [Payload.first, Payload.pos, Payload.new, List.head?_eq_getElem?]
  rfl

/-- The definition that is applied to the payload, where there is one. -/
structure Applies (mappedService : MappedService conv) (payload : List UInt8)
    (response : Response conv) (params : List (Parameter conv)) : Prop where
  sid : ∃ sid, tryExtractSidFromPayload payload = .ok sid
  matching : ∃ firstByte, payload.head? = some firstByte ∧
    mappedService.matchingResponse firstByte = some (response, params)

section Cases

variable {ecu : EcuManager} {semantics : Semantics} {depth : Nat}
  {mappedService : MappedService conv} {diagComm : DiagComm} {payload : List UInt8}
  {mapToJson : Bool} {response : Response conv} {params : List (Parameter conv)}

theorem convertFromUds_of_applies (service : mappedService.diagComm = some diagComm)
    (applies : Applies mappedService payload response params) :
    ecu.convertFromUds semantics depth mappedService payload mapToJson =
      match response.responseType with
      | .error e => (ecu, .error e)
      | .ok responseType =>
        (if responseType = .positive then ecu.followTransitions diagComm else ecu,
          convertMatched semantics depth mappedService responseType params payload mapToJson) := by
  obtain ⟨⟨sid, extracted⟩, firstByte, first, matching⟩ := applies
  rw [EcuManager.convertFromUds, service]
  simp only [extracted, first_new, first, matching]

theorem convertFromUds_of_not_applies (service : mappedService.diagComm = some diagComm)
    (none : ∀ response params, ¬ Applies mappedService payload response params) :
    (∃ e, tryExtractSidFromPayload payload = .error e ∧
      ecu.convertFromUds semantics depth mappedService payload mapToJson = (ecu, .error e)) ∨
    ∃ firstByte, payload.head? = some firstByte ∧
      ecu.convertFromUds semantics depth mappedService payload mapToJson =
        (ecu, .ok ⟨payload, .none,
          if firstByte = ServiceIds.negativeResponse then .negative else .positive⟩) := by
  cases extracted : tryExtractSidFromPayload payload with
  | error e =>
    refine .inl ⟨e, rfl, ?_⟩
    rw [EcuManager.convertFromUds, service]
    simp only [extracted]
  | ok sid =>
    obtain _ | ⟨firstByte, rest⟩ := payload
    · cases extracted
    · refine .inr ⟨firstByte, rfl, ?_⟩
      have unmatched : mappedService.matchingResponse firstByte = .none := by
        rw [Option.eq_none_iff_forall_ne_some]
        rintro ⟨response, params⟩ matching
        exact none response params ⟨⟨sid, extracted⟩, firstByte, rfl, matching⟩
      rw [EcuManager.convertFromUds, service]
      simp only [extracted, first_new, List.head?_cons, unmatched]

end Cases

end DiagnosticAdapter.Kernel
