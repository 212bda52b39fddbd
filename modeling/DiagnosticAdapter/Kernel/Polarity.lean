import DiagnosticAdapter.Kernel.OrdinaryDecoding
import DiagnosticAdapter.Kernel.ResponseConversion

/-!
# The polarity of a response

The transport tells a refusal from an answer by the first byte.  The conversion of a
response is compared with that: it looks at the service that a refusal names, or at the
type of the definition that applies.
-/

namespace DiagnosticAdapter.Kernel

open Codec Effects Uds

variable {conv : Conversions}

def RefusedByFirstByte (payload : List UInt8) : Prop :=
  payload.head? = some ServiceIds.negativeResponse

section Conversion

variable (semantics : Semantics) (depth : Nat) (mappedService : MappedService conv)

/-- `delete_dtcs` converts the answer to its request without any definition. -/
def convertResponse (ecu : EcuManager) (sentSid : UInt8) (payload : List UInt8)
    (mapToJson : Bool) : Except DiagServiceError (DiagServiceResponse conv) :=
  if sentSid = ServiceIds.clearDiagnosticInformation then convertService14Response payload
  else (ecu.convertFromUds semantics depth mappedService payload mapToJson).2

/-- The definition's parameters can be read as far as its response shows them. -/
def DefinitionReadable (params : List (Parameter conv)) (responseType : ResponseType)
    (payload : List UInt8) (mapToJson : Bool) : Prop :=
  (∃ raw, rawUdsPayload semantics params (.new payload) = .ok raw) ∧
    (responseType = .positive ∧ mapToJson = false ∨
      ∃ errors final, Kernel.convertFromUds mappedService.service depth semantics params
        (.new payload) = .ok errors final)

/-- A definition of the other polarity gives its type to the response. -/
structure Contradicts (payload : List UInt8) (mapToJson : Bool) (response : Response conv)
    (params : List (Parameter conv)) (responseType : ResponseType) : Prop where
  service : mappedService.diagComm.isSome
  applies : Applies mappedService payload response params
  type : response.responseType = .ok responseType
  readable : DefinitionReadable semantics depth mappedService params responseType payload mapToJson
  polarity : ¬(responseType.polarity = .negative ↔ RefusedByFirstByte payload)

end Conversion

/-- The conversion expects the response, and takes it as refused exactly if it starts like
a refusal. -/
structure PolarityKept (outcome : Except DiagServiceError (DiagServiceResponse conv))
    (payload : List UInt8) : Prop where
  expected : ∀ message, outcome ≠ .error (.unexpectedResponse message)
  polarity : ∀ response, outcome = .ok response →
    (response.responseType = .negative ↔ RefusedByFirstByte payload)

/-- The parameters of the definitions and of the request are read with ordinary errors, and
so are the types of the definitions. -/
structure MappedService.ReadsOrdinarily (mappedService : MappedService conv) : Prop where
  request : mappedService.service.ReadsOrdinarily
  responseType : ∀ response ∈ mappedService.posResponses.getD [] ++
    mappedService.negResponses.getD [], Effects.FailsWith Ordinary response.responseType
  params : ∀ response ∈ mappedService.posResponses.getD [] ++
    mappedService.negResponses.getD [], ∀ params, response.params = some params →
      ∀ param ∈ params, param.ReadsOrdinarily

namespace PolarityKept

variable {payload : List UInt8}

theorem of_error {error : DiagServiceError} (ordinary : Ordinary error) :
    PolarityKept (.error error : Except DiagServiceError (DiagServiceResponse conv)) payload := by
  constructor
  · intro message same
    cases same
    exact ordinary
  · intro response same
    cases same

theorem ok_iff {response : DiagServiceResponse conv} : PolarityKept (.ok response) payload ↔
      (response.responseType = .negative ↔ RefusedByFirstByte payload) := by
  constructor
  · intro kept
    exact kept.polarity response rfl
  · intro same
    constructor
    · nofun
    · intro other isOther
      cases isOther
      exact same

end PolarityKept

section Cases

variable {semantics : Semantics} {depth : Nat} {mappedService : MappedService conv}
  {message : ServicePayload} {sentSid : UInt8} {ecu : EcuManager} {mapToJson : Bool}

theorem exists_of_refused (refused : message.isNegativeResponseForSid sentSid = true) :
    ∃ rest, message.data = ServiceIds.negativeResponse :: sentSid :: rest := by
  rw [ServicePayload.isNegativeResponseForSid, Bool.and_eq_true, beq_iff_eq, beq_iff_eq] at refused
  obtain ⟨first, second⟩ := refused
  obtain ⟨tail, data⟩ := List.head?_eq_some_iff.1 first
  rw [data, List.getElem?_cons_succ, ← List.head?_eq_getElem?] at second
  obtain ⟨rest, rfl⟩ := List.head?_eq_some_iff.1 second
  exact ⟨rest, data⟩

theorem convertService14Response_iff
    (response : message.isResponseForSid ServiceIds.clearDiagnosticInformation = true) :
    PolarityKept (convertService14Response message.data :
        Except DiagServiceError (DiagServiceResponse conv)) message.data ↔
      ¬RefusedByFirstByte message.data := by
  rw [ServicePayload.isResponseForSid, Bool.or_eq_true] at response
  obtain refused | answered := response
  · obtain ⟨rest, data⟩ := exists_of_refused refused
    rw [data]
    constructor
    · intro kept
      exact absurd rfl (kept.expected _)
    · intro other
      exact absurd rfl other
  · obtain ⟨rest, data⟩ := List.head?_eq_some_iff.1 (beq_iff_eq.1 answered)
    have other : ¬RefusedByFirstByte (clearFaultMemPosResponseSid :: rest) := by
      rw [RefusedByFirstByte, List.head?_cons, Option.some_inj]
      decide
    have positive : (convertService14Response (clearFaultMemPosResponseSid :: rest) :
        Except DiagServiceError (DiagServiceResponse conv)) =
        .ok ⟨clearFaultMemPosResponseSid :: rest, none, .positive⟩ := rfl
    rw [data]
    change PolarityKept (convertService14Response (clearFaultMemPosResponseSid :: rest)) _ ↔ _
    rw [positive, PolarityKept.ok_iff]
    simp only [reduceCtorEq, false_iff]

theorem ordinary_tryExtractSidFromPayload (payload : List UInt8) :
    Effects.FailsWith Ordinary (tryExtractSidFromPayload payload) := by
  unfold tryExtractSidFromPayload
  split
  · exact .error trivial
  split
  · split
    · exact .ok _
    · exact .error trivial
  · exact .ok _

theorem ordinary_rawUdsPayload (semantics : Semantics) (params : List (Parameter conv))
    (udsPayload : Payload) : Effects.FailsWith Ordinary (rawUdsPayload semantics params udsPayload) := by
  refine .bind (fun error failed => ?_) fun bytes => ?_
  · unfold Payload.view at failed
    dsimp only at failed
    split at failed
    · cases failed
    · cases failed
      trivial
  · split
    · exact .ok _
    · exact .error trivial

theorem convertMatched_iff (ordinary : conv.FailOrdinarily)
    (serviceReads : mappedService.service.ReadsOrdinarily) {params : List (Parameter conv)}
    (reads : ∀ param ∈ params, param.ReadsOrdinarily) (responseType : ResponseType)
    (payload : List UInt8) :
    PolarityKept (convertMatched semantics depth mappedService responseType params payload
        mapToJson) payload ↔
      (DefinitionReadable semantics depth mappedService params responseType payload mapToJson →
        (responseType.polarity = .negative ↔ RefusedByFirstByte payload)) := by
  have kept_of_error : ∀ error, Ordinary error → ¬DefinitionReadable semantics depth mappedService params
      responseType payload mapToJson → (PolarityKept (.error error : Except DiagServiceError
        (DiagServiceResponse conv)) payload ↔ (DefinitionReadable semantics depth mappedService params
          responseType payload mapToJson → (responseType.polarity = .negative ↔
            RefusedByFirstByte payload))) := by
    intro error isOrdinary unreadable
    exact iff_of_true (.of_error isOrdinary) fun readable => absurd readable unreadable
  unfold convertMatched
  cases extracted : rawUdsPayload semantics params (.new payload) with
  | error error =>
    apply kept_of_error error (ordinary_rawUdsPayload _ _ _ error extracted)
    intro readable
    obtain ⟨⟨raw, found⟩, -⟩ := readable
    rw [extracted] at found
    cases found
  | ok raw =>
    change PolarityKept (if responseType = .positive ∧ mapToJson = false then _ else _) _ ↔ _
    by_cases unmapped : responseType = .positive ∧ mapToJson = false
    · rw [if_pos unmapped]
      have readable : DefinitionReadable semantics depth mappedService params responseType payload
          mapToJson := ⟨⟨raw, extracted⟩, .inl unmapped⟩
      rw [unmapped.1]
      exact PolarityKept.ok_iff.trans (by
        simp only [unmapped.1 ▸ readable, forall_const, ResponseType.polarity])
    · rw [if_neg unmapped]
      cases converted : Kernel.convertFromUds mappedService.service depth semantics params
          (.new payload) with
      | ok errors final =>
        have readable : DefinitionReadable semantics depth mappedService params responseType payload
            mapToJson := ⟨⟨raw, extracted⟩, .inr ⟨errors, final, converted⟩⟩
        exact PolarityKept.ok_iff.trans (by simp only [readable, forall_const])
      | error failure final =>
        have decoder := (scoped_convertFromUds (fun _ => ordinary) (fun _ => serviceReads) depth
          semantics fun _ => reads).failsOrdinarily trivial
        apply kept_of_error failure.error (decoder.of_error converted failure rfl)
        intro readable
        obtain ⟨-, other | ⟨errors, other, found⟩⟩ := readable
        · exact unmapped other
        · rw [converted] at found
          cases found

theorem mem_of_matchingResponse {firstByte : UInt8} {response : Response conv}
    {params : List (Parameter conv)}
    (matching : mappedService.matchingResponse firstByte = some (response, params)) :
    response ∈ mappedService.posResponses.getD [] ++ mappedService.negResponses.getD [] ∧
      response.params = some params := by
  obtain ⟨other, mem, found⟩ := List.exists_of_findSome?_eq_some matching
  obtain ⟨otherParams, isParams, chosen⟩ := Option.bind_eq_some_iff.1 found
  split at chosen
  · cases chosen
    exact ⟨mem, isParams⟩
  · cases chosen

theorem convertFromUds_iff (ordinary : conv.FailOrdinarily)
    (reads : mappedService.ReadsOrdinarily) (payload : List UInt8) :
    PolarityKept (ecu.convertFromUds semantics depth mappedService payload mapToJson).2 payload ↔
      ∀ response params responseType,
        ¬Contradicts semantics depth mappedService payload mapToJson response params
          responseType := by
  cases service : mappedService.diagComm with
  | none =>
    rw [EcuManager.convertFromUds, service]
    refine iff_of_true (.of_error trivial) ?_
    intro response params responseType contradicts
    have present := contradicts.service
    rw [service] at present
    cases present
  | some diagComm =>
    by_cases applied : ∃ response params, Applies mappedService payload response params
    · obtain ⟨response, params, applies⟩ := applied
      obtain ⟨firstByte, first, matching⟩ := applies.matching
      obtain ⟨mem, isParams⟩ := mem_of_matchingResponse matching
      have only : ∀ other otherParams, Applies mappedService payload other otherParams →
          other = response ∧ otherParams = params := by
        intro other otherParams otherApplies
        obtain ⟨otherByte, otherFirst, otherMatching⟩ := otherApplies.matching
        cases first.symm.trans otherFirst
        cases matching.symm.trans otherMatching
        exact ⟨rfl, rfl⟩
      rw [convertFromUds_of_applies service applies]
      cases isType : response.responseType with
      | error error =>
        refine iff_of_true (.of_error (reads.responseType response mem error isType)) ?_
        intro other otherParams responseType contradicts
        obtain ⟨rfl, rfl⟩ := only other otherParams contradicts.applies
        cases isType.symm.trans contradicts.type
      | ok responseType =>
        refine (convertMatched_iff ordinary reads.request
          (reads.params response mem params isParams) responseType payload).trans ?_
        constructor
        · intro agrees other otherParams otherType contradicts
          obtain ⟨rfl, rfl⟩ := only other otherParams contradicts.applies
          cases isType.symm.trans contradicts.type
          exact contradicts.polarity (agrees contradicts.readable)
        · intro none readable
          by_contra polarity
          exact none response params responseType
            ⟨Option.isSome_of_mem service, applies, isType, readable, polarity⟩
    · have unmatched : ∀ response params, ¬Applies mappedService payload response params :=
        fun response params applies => applied ⟨response, params, applies⟩
      refine iff_of_true ?_ fun response params responseType contradicts =>
        unmatched response params contradicts.applies
      obtain ⟨error, extracted, converted⟩ | ⟨firstByte, first, converted⟩ :=
        @convertFromUds_of_not_applies conv ecu semantics depth mappedService diagComm payload
          mapToJson service unmatched
      · rw [converted]
        exact .of_error (ordinary_tryExtractSidFromPayload payload error extracted)
      · rw [converted, PolarityKept.ok_iff, RefusedByFirstByte, first, Option.some_inj]
        by_cases refused : firstByte = ServiceIds.negativeResponse
        · simp only [refused, if_true]
        · simp only [refused, if_false, reduceCtorEq]

/-- The conversions agree with the transport exactly on the payloads that are no refusal of
the clear request, and on those of the other requests to which no readable definition of
the other polarity applies. -/
theorem polarity_kept_iff (ordinary : conv.FailOrdinarily) (reads : mappedService.ReadsOrdinarily)
    (response : message.isResponseForSid sentSid = true) :
    PolarityKept (convertResponse semantics depth mappedService ecu sentSid message.data mapToJson)
        message.data ↔
      if sentSid = ServiceIds.clearDiagnosticInformation then ¬RefusedByFirstByte message.data
      else ∀ response params responseType,
        ¬Contradicts semantics depth mappedService message.data mapToJson response params
          responseType := by
  rw [convertResponse]
  split
  · rename_i cleared
    rw [cleared] at response
    exact convertService14Response_iff response
  · exact convertFromUds_iff ordinary reads message.data

end Cases

section Refusals

open IntegerDatabase

def stateless : EcuManager := ⟨[], ⟨"SESSION", "SECURITY"⟩, fun _ => none⟩

def dataSemantics : Semantics := ⟨"DATA".toList, "SERVICEID-RQ".toList⟩

def sidParam (sid : String) : Parameter integerConversions :=
  ⟨.ok .codedConst, some "SID".toList, none, some 0, none,
    .codedConst ⟨some (.ok (number 8)), some sid.toList⟩⟩

/-- A service with a positive and a negative response of one parameter. -/
def readData : MappedService integerConversions where
  service := ⟨none⟩
  diagComm := some ⟨some "Read_Data", none, none⟩
  posResponses := some [⟨.ok .positive, some [sidParam "98"]⟩]
  negResponses := some [⟨.ok .negative, some [sidParam "127"]⟩]

def refusal (sid : UInt8) : ServicePayload :=
  ⟨[ServiceIds.negativeResponse, sid, 0x22], 0, 0, none, none⟩

theorem integerConversions_failOrdinarily : integerConversions.FailOrdinarily where
  convert _ _ _ _ := .error trivial
  lookup _ _ _ := .error trivial

theorem sidParam_readsOrdinarily (sid : String) : (sidParam sid).ReadsOrdinarily := by
  intro error carries
  cases carries with
  | paramType failed => cases failed
  | codedConst specific failed =>
    cases specific
    cases failed
  | refers refers carries =>
    cases refers with
    | value specific | lengthKey specific | physConst specific | tableKey specific isDop
    | tableRow specific isRows mem isDop => cases specific
  | tableStruct specific carries => cases specific

theorem readData_readsOrdinarily : readData.ReadsOrdinarily where
  request := nofun
  responseType response mem := by
    obtain rfl | rfl := by simpa [readData] using mem
    · exact .ok _
    · exact .ok _
  params response mem params isParams param isParam := by
    obtain rfl | rfl := by simpa [readData] using mem
    all_goals
      cases isParams
      cases List.mem_singleton.1 isParam
      exact sidParam_readsOrdinarily _

theorem refused_read_kept : PolarityKept (convertResponse dataSemantics 8 readData stateless
      ServiceIds.readDataByIdentifier (refusal ServiceIds.readDataByIdentifier).data true)
      (refusal ServiceIds.readDataByIdentifier).data := by
  refine (polarity_kept_iff integerConversions_failOrdinarily readData_readsOrdinarily rfl).2 ?_
  rw [if_neg (by decide)]
  intro response params responseType contradicts
  obtain ⟨firstByte, first, matching⟩ := contradicts.applies.matching
  cases first
  have found : readData.matchingResponse ServiceIds.negativeResponse =
      some (⟨.ok .negative, some [sidParam "127"]⟩, [sidParam "127"]) := rfl
  cases found.symm.trans matching
  cases contradicts.type
  exact contradicts.polarity (iff_of_true rfl rfl)

/-- A refused clear request is an unexpected response. -/
theorem refused_clear_unexpected : (refusal ServiceIds.clearDiagnosticInformation).isResponseForSid
        ServiceIds.clearDiagnosticInformation = true ∧
      ¬PolarityKept (convertResponse dataSemantics 8 readData stateless
        ServiceIds.clearDiagnosticInformation
        (refusal ServiceIds.clearDiagnosticInformation).data true)
        (refusal ServiceIds.clearDiagnosticInformation).data := by
  refine ⟨rfl, ?_⟩
  intro kept
  exact kept.expected _ rfl

end Refusals

end DiagnosticAdapter.Kernel
