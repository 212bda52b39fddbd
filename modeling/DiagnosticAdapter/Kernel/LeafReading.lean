import DiagnosticAdapter.Kernel.Balance
import DiagnosticAdapter.Kernel.NumberDop

/-!
# What is read of a payload

A parameter without nested ones is read from one position of the bytes in view: a
container is stored, and the read position may move behind it.
-/

namespace DiagnosticAdapter.Kernel

open Bits Codec Effects

variable {conv : Conversions}

/-- What a parameter without nested ones is read as. -/
inductive Content (conv : Conversions) where
  | constant (diagType : DiagCodedType) (codedValue : Option Text)
  | reserved (bitLength : Nat)
  | extracted (diagType : DiagCodedType) (compuMethod : Option conv.CompuMethod)
  | keyed (dataType : DataType) (compuMethod : Option conv.CompuMethod)
      (lengthKeyName shortName : Text)
  | dtc (dtcDop : DtcDop)

/-- The container of a coded type at a position, and where the reading ends. -/
def extractAt (diagType : DiagCodedType) (compuMethod : Option conv.CompuMethod)
    (bytes : List UInt8) (bytePos bitPos : Nat) :
    Except DiagServiceError (RawContainer conv × Nat) := do
  let (data, bitLen) ← decodeIfPresent diagType bytes bytePos bitPos
  if data.isEmpty ∧ !isOptional diagType then
    .error (.notEnoughData (bytePos + 1) bytes.length)
  else return (⟨data, bitLen, diagType.baseDatatype, compuMethod⟩, bytePos + data.length)

def dtcAt (conv : Conversions) (dtcDop : DtcDop) (bytes : List UInt8) (bytePos bitPos : Nat) :
    Except DiagServiceError DtcContainer := do
  let codedType ← dtcDop.diagCodedType
  let (dtcValue, _) ← codedType.decode bytes bytePos bitPos
  let dtcValue ← DiagDataValue.new codedType.baseDatatype dtcValue
  let code ← dtcValue.toU32 conv
  let codeText := String.ofList ((Nat.toDigits 16 code).map Char.toUpper)
  match dtcDop.dtcs.bind fun dtcs => dtcs.find? fun dtc => dtc.troubleCode = code with
  | none => .error (.badPayload s!"No DTC with code {codeText} found in DTC references")
  | some record =>
    if bytePos ≥ 2 ^ 32 then .error (.invalidDatabase "DTC byte position overflows u32")
    else return {
      code
      displayCode := record.displayTroubleCode
      faultName := record.text.getD []
      severity := record.level.getD 0
      bitPos
      bitLen := dtcCodeBitLen
      bytePos }

def Content.read (content : Content conv) (bytes : List UInt8) (data : MappedPayload conv)
    (bytePos bitPos : Nat) : Except DiagServiceError (Container conv × Option Nat) :=
  match content with
  | .constant diagType codedValue => do
    let (raw, stop) ← extractAt diagType none bytes bytePos bitPos
    match codedValue with
    | none => .error (.invalidDatabase "CodedConst has no coded value")
    | some constValue => do
      let expected ← expectedConst conv diagType constValue raw.data.length
      if raw.data ≠ expected then
        .error (.badPayload s!"Expected {expected}, got {raw.data}")
      else return (.raw raw, some stop)
  | .reserved bitLength => do
    let (paramData, bitLen) ← (reservedCodedType bitLength).decode bytes bytePos bitPos
    return (.raw ⟨paramData, bitLen, reservedParamDataType bitLength, none⟩, none)
  | .extracted diagType compuMethod => do
    let (raw, stop) ← extractAt diagType compuMethod bytes bytePos bitPos
    return (.raw raw, some stop)
  | .keyed dataType compuMethod lengthKeyName shortName => do
    let byteCount ← lengthKeyByteCount lengthKeyName shortName data
    if byteCount = 0 then return (.raw ⟨[], 0, dataType, compuMethod⟩, none)
    else
      let (decoded, bitLen) ← decodeWithRuntimeByteLength bytes bytePos byteCount
      return (.raw ⟨decoded, bitLen, dataType, compuMethod⟩, some (bytePos + byteCount))
  | .dtc dtcDop => do
    let dtc ← dtcAt conv dtcDop bytes bytePos bitPos
    return (.dtcStruct dtc, none)

/-- The position of a parameter, or the read position where it has none. -/
def ParamContext.readPos (paramCtx : ParamContext conv) (lastRead : Nat) : Nat :=
  if paramCtx.parameter.hasBytePosition then paramCtx.absBytePos else lastRead

def DecodeState.store (state : DecodeState conv) (name : Text) (container : Container conv)
    (next : Option Nat) : DecodeState conv :=
  { state with
    payload := next.elim state.payload state.payload.setLastReadBytePos
    data := state.data.insert name container }

theorem DecodeState.store_data (state : DecodeState conv) (name : Text) (container : Container conv)
    (next : Option Nat) : (state.store name container next).data name = some container := by
  simp [DecodeState.store, MappedPayload.insert]

/-- The decoder returns exactly where its content can be read, and stores what was read. -/
def Stores (decoder : Decoder conv Unit) (name : Text) (state : DecodeState conv)
    (read : Except DiagServiceError (Container conv × Option Nat)) : Prop :=
  ∀ final, decoder state = .ok () final ↔
    ∃ container next, read = .ok (container, next) ∧ final = state.store name container next

section Outcomes

open Decoder

variable {α : Type} {state final : DecodeState conv} {value : α}

theorem ofExcept_eq_ok_iff {outcome : Except DiagServiceError α} :
    (Decoder.ofExcept outcome : Decoder conv α) state = .ok value final ↔
      outcome = .ok value ∧ final = state := by
  cases outcome with
  | ok result =>
    constructor
    · intro ran
      cases ran
      exact ⟨rfl, rfl⟩
    · intro ran
      obtain ⟨same, rfl⟩ := ran
      cases same
      rfl
  | error failure =>
    constructor
    · intro ran
      cases ran
    · intro ran
      cases ran.1

theorem fail_eq_ok_iff {error : DiagServiceError} :
    (fail error : Decoder conv α) state = .ok value final ↔ False := by
  constructor
  · intro ran
    cases ran
  · exact False.elim

theorem orFail_eq_ok_iff {given : Option α} {error : DiagServiceError} :
    (orFail given error : Decoder conv α) state = .ok value final ↔
      given = some value ∧ final = state := by
  cases given with
  | some result =>
    rw [orFail, pure_eq_ok_iff, Option.some.injEq, eq_comm]
  | none =>
    rw [orFail, fail_eq_ok_iff]
    simp

theorem insertMapped_eq_ok_iff {name : Text} {container : Container conv} {value : Unit} :
    insertMapped name container state = .ok value final ↔
      final = { state with data := state.data.insert name container } := by
  constructor
  · intro ran
    cases ran
    rfl
  · intro same
    rw [same]
    rfl

theorem mapped_eq_ok_iff {data : MappedPayload conv} :
    mapped state = .ok data final ↔ data = state.data ∧ final = state := by
  constructor
  · intro ran
    cases ran
    exact ⟨rfl, rfl⟩
  · intro same
    obtain ⟨rfl, rfl⟩ := same
    rfl

theorem bytePosOrLastRead_eq_ok_iff {paramCtx : ParamContext conv} {bytePos : Nat} :
    bytePosOrLastRead paramCtx state = .ok bytePos final ↔
      bytePos = paramCtx.readPos state.payload.lastReadBytePos ∧ final = state := by
  rw [bytePosOrLastRead, ParamContext.readPos]
  split
  · exact pure_eq_ok_iff
  · constructor
    · intro ran
      cases ran
      exact ⟨rfl, rfl⟩
    · intro same
      obtain ⟨rfl, rfl⟩ := same
      rfl

end Outcomes

theorem shows_new (payload : List UInt8) :
    (DecodeState.new payload : DecodeState conv).payload.Shows payload := by
  constructor
  · simp [DecodeState.new, Payload.new, Payload.view, Payload.pos, slice?]
  · rfl

section Decoders

open Decoder

variable {bytes : List UInt8} {state : DecodeState conv} (shows : state.payload.Shows bytes)

include shows

theorem view_of_payload_shows : view state = .ok bytes state := by
  rw [view, shows.view]
  rfl

theorem view_eq_ok_iff (value : List UInt8) (final : DecodeState conv) :
    view state = .ok value final ↔ value = bytes ∧ final = state := by
  rw [view_of_payload_shows shows]
  constructor
  · intro viewed
    cases viewed
    exact ⟨rfl, rfl⟩
  · intro viewed
    obtain ⟨rfl, rfl⟩ := viewed
    rfl

theorem extract_eq_ok_iff (bytePos bitPos : Nat) (diagType : DiagCodedType)
    (compuMethod : Option conv.CompuMethod) (raw : RawContainer conv)
    (final : DecodeState conv) :
    extractDiagDataContainer bytePos bitPos diagType compuMethod state = .ok raw final ↔
      ∃ stop, extractAt diagType compuMethod bytes bytePos bitPos = .ok (raw, stop) ∧
        final = { state with payload := state.payload.setLastReadBytePos stop } := by
  rw [extractDiagDataContainer, bind_of_ok (view_of_payload_shows shows), extractAt]
  simp only [bind_eq_ok_iff, except_bind_eq_ok_iff, ofExcept_eq_ok_iff]
  constructor
  · intro ran
    obtain ⟨⟨data, bitLen⟩, middle, ⟨decoded, rfl⟩, ran⟩ := ran
    dsimp only at ran
    split at ran
    · cases ran
    · rename_i given
      cases ran
      refine ⟨_, ⟨_, decoded, ?_⟩, rfl⟩
      rw [if_neg given]
      rfl
  · intro read
    obtain ⟨stop, ⟨⟨data, bitLen⟩, decoded, read⟩, rfl⟩ := read
    refine ⟨_, _, ⟨decoded, rfl⟩, ?_⟩
    dsimp only at read ⊢
    split at read
    · cases read
    · rename_i given
      cases read
      rw [if_neg given]
      rfl

theorem stores_extracted (name : Text) (bytePos bitPos : Nat) (diagType : DiagCodedType)
    (compuMethod : Option conv.CompuMethod) :
    Stores (do
      let raw ← extractDiagDataContainer bytePos bitPos diagType compuMethod
      insertMapped name (.raw raw)) name state
      ((Content.extracted diagType compuMethod).read bytes state.data bytePos bitPos) := by
  intro final
  simp only [Content.read, bind_eq_ok_iff, except_bind_eq_ok_iff, extract_eq_ok_iff shows,
    insertMapped_eq_ok_iff]
  constructor
  · intro ran
    obtain ⟨raw, _, ⟨stop, read, rfl⟩, rfl⟩ := ran
    exact ⟨_, _, ⟨_, read, rfl⟩, rfl⟩
  · intro stored
    obtain ⟨_, _, ⟨⟨raw, stop⟩, read, result⟩, rfl⟩ := stored
    cases result
    exact ⟨_, _, ⟨_, read, rfl⟩, rfl⟩

theorem stores_codedConst {paramCtx : ParamContext conv} {codedConst : CodedConst}
    {diagType : DiagCodedType} (specific : paramCtx.parameter.specificData = .codedConst codedConst)
    (typed : codedConst.diagCodedType = some (.ok diagType)) (name : Text) :
    Stores (mapParamCodedConstFromUds name paramCtx) name state
      ((Content.constant diagType codedConst.codedValue).read bytes state.data paramCtx.absBytePos
        paramCtx.parameter.bitPosition) := by
  intro final
  rw [mapParamCodedConstFromUds, specific]
  simp only [typed, Option.getD_some, Content.read, bind_eq_ok_iff, except_bind_eq_ok_iff,
    ofExcept_eq_ok_iff, orFail_eq_ok_iff]
  constructor
  · intro ran
    obtain ⟨_, _, ⟨same, rfl⟩, raw, _, extracted, constValue, _, ⟨given, rfl⟩, expected, _,
      ⟨converted, rfl⟩, ran⟩ := ran
    cases same
    obtain ⟨stop, read, rfl⟩ := (extract_eq_ok_iff shows _ _ _ _ _ _).1 extracted
    split at ran
    · cases ran
    · rename_i same
      cases ran
      refine ⟨.raw raw, some stop, ⟨(raw, stop), read, ?_⟩, rfl⟩
      rw [given]
      simp only [except_bind_eq_ok_iff]
      exact ⟨expected, converted, if_neg same⟩
  · intro stored
    obtain ⟨_, _, ⟨⟨raw, stop⟩, read, result⟩, rfl⟩ := stored
    cases given : codedConst.codedValue with
    | none =>
      rw [given] at result
      cases result
    | some constValue =>
      rw [given] at result
      simp only [except_bind_eq_ok_iff] at result
      obtain ⟨expected, converted, result⟩ := result
      split at result
      · cases result
      · rename_i same
        cases result
        refine ⟨_, _, ⟨rfl, rfl⟩, raw, _, (extract_eq_ok_iff shows _ _ _ _ _ _).2
          ⟨stop, read, rfl⟩, constValue, _, ⟨rfl, rfl⟩, expected, _, ⟨converted, rfl⟩, ?_⟩
        rw [if_neg same]
        rfl

theorem stores_reserved {paramCtx : ParamContext conv} {bitLength : Nat}
    (specific : paramCtx.parameter.specificData = .reserved bitLength) (name : Text) :
    Stores (mapParamReservedFromUds name paramCtx) name state
      ((Content.reserved bitLength).read bytes state.data paramCtx.absBytePos
        paramCtx.parameter.bitPosition) := by
  intro final
  rw [mapParamReservedFromUds, specific]
  simp only [Content.read, bind_eq_ok_iff, except_bind_eq_ok_iff, ofExcept_eq_ok_iff,
    view_eq_ok_iff shows, insertMapped_eq_ok_iff]
  constructor
  · intro ran
    obtain ⟨_, _, ⟨rfl, rfl⟩, ⟨data, bitLen⟩, _, ⟨decoded, rfl⟩, rfl⟩ := ran
    exact ⟨_, _, ⟨_, decoded, rfl⟩, rfl⟩
  · intro stored
    obtain ⟨_, _, ⟨⟨data, bitLen⟩, decoded, result⟩, rfl⟩ := stored
    cases result
    exact ⟨_, _, ⟨rfl, rfl⟩, _, _, ⟨decoded, rfl⟩, rfl⟩

theorem stores_dtc (dtcDop : DtcDop) (paramCtx : ParamContext conv) (name : Text) :
    Stores (mapDtcDopFromUds name dtcDop paramCtx) name state
      ((Content.dtc dtcDop).read bytes state.data paramCtx.absBytePos
        paramCtx.parameter.bitPosition) := by
  intro final
  simp only [mapDtcDopFromUds, Content.read, dtcAt, bind_eq_ok_iff, except_bind_eq_ok_iff,
    ofExcept_eq_ok_iff, orFail_eq_ok_iff]
  constructor
  · intro ran
    obtain ⟨codedType, _, ⟨typed, rfl⟩, _, _, viewed, ran⟩ := ran
    obtain ⟨rfl, rfl⟩ := (view_eq_ok_iff shows _ _).1 viewed
    obtain ⟨⟨dtcValue, bitLen⟩, _, ⟨decoded, rfl⟩, value, _, ⟨read, rfl⟩, code, _, ⟨number, rfl⟩,
      record, _, ⟨found, rfl⟩, ran⟩ := ran
    split at ran
    · cases ran
    · rename_i near
      cases ran
      refine ⟨_, _, ⟨_, ⟨codedType, typed, _, decoded, value, read, code, number, ?_⟩, rfl⟩, rfl⟩
      rw [found]
      exact if_neg near
  · intro stored
    obtain ⟨_, _, ⟨dtc, ⟨codedType, typed, ⟨dtcValue, bitLen⟩, decoded, value, read, code, number,
      made⟩, result⟩, rfl⟩ := stored
    cases result
    split at made
    · cases made
    · rename_i record found
      split at made
      · cases made
      · rename_i near
        cases made
        refine ⟨codedType, _, ⟨typed, rfl⟩, _, _, (view_eq_ok_iff shows _ _).2 ⟨rfl, rfl⟩, _, _,
          ⟨decoded, rfl⟩, value, _, ⟨read, rfl⟩, code, _, ⟨number, rfl⟩, record, _, ⟨found, rfl⟩, ?_⟩
        rw [if_neg near]
        rfl

section

variable {normalDop : NormalDop conv} {diagType : DiagCodedType}
  (typed : normalDop.diagCodedType = .ok diagType)

include typed

theorem stores_keyed (shortName lengthKeyName : Text) (paramCtx : ParamContext conv) :
    Stores (mapParamLengthInfoDopFromUds shortName normalDop lengthKeyName paramCtx) shortName state
      ((Content.keyed diagType.baseDatatype normalDop.compuMethod lengthKeyName shortName).read
        bytes state.data (paramCtx.readPos state.payload.lastReadBytePos)
        paramCtx.parameter.bitPosition) := by
  intro final
  simp only [mapParamLengthInfoDopFromUds, Content.read, bind_eq_ok_iff, except_bind_eq_ok_iff,
    ofExcept_eq_ok_iff, mapped_eq_ok_iff, typed, Except.ok.injEq]
  constructor
  · intro ran
    obtain ⟨_, _, ⟨rfl, rfl⟩, byteCount, _, ⟨counted, rfl⟩, _, _, ⟨rfl, rfl⟩, ran⟩ := ran
    by_cases zero : byteCount = 0
    · rw [if_pos zero] at ran
      cases ran
      exact ⟨_, _, ⟨byteCount, counted, if_pos zero⟩, rfl⟩
    · rw [if_neg zero, bind_eq_ok_iff] at ran
      obtain ⟨_, _, positioned, ran⟩ := ran
      obtain ⟨rfl, rfl⟩ := bytePosOrLastRead_eq_ok_iff.1 positioned
      simp only [bind_eq_ok_iff, ofExcept_eq_ok_iff] at ran
      obtain ⟨_, _, viewed, ⟨decoded, bitLen⟩, _, ⟨read, rfl⟩, _, _, moved, stored⟩ := ran
      obtain ⟨rfl, rfl⟩ := (view_eq_ok_iff shows _ _).1 viewed
      cases moved
      cases stored
      refine ⟨_, some _, ⟨byteCount, counted, ?_⟩, rfl⟩
      rw [if_neg zero, read]
      rfl
  · intro stored
    obtain ⟨_, _, ⟨byteCount, counted, read⟩, rfl⟩ := stored
    refine ⟨_, _, ⟨rfl, rfl⟩, byteCount, _, ⟨counted, rfl⟩, _, _, ⟨rfl, rfl⟩, ?_⟩
    by_cases zero : byteCount = 0
    · rw [if_pos zero] at read ⊢
      cases read
      rfl
    · rw [if_neg zero, except_bind_eq_ok_iff] at read
      obtain ⟨⟨decoded, bitLen⟩, read, result⟩ := read
      cases result
      rw [if_neg zero, bind_of_ok (bytePosOrLastRead_eq_ok_iff.2 ⟨rfl, rfl⟩),
        bind_of_ok ((view_eq_ok_iff shows _ _).2 ⟨rfl, rfl⟩), read]
      rfl

theorem stores_normal {compuMethod : conv.CompuMethod}
    (computed : normalDop.compuMethod = some compuMethod) (shortName : Text)
    (paramCtx : ParamContext conv) :
    Stores (mapNormalDopFromUds shortName normalDop paramCtx) shortName state
      ((Content.extracted diagType (some compuMethod)).read bytes state.data
        (paramCtx.readPos state.payload.lastReadBytePos) paramCtx.parameter.bitPosition) := by
  have rest := stores_extracted shows shortName
    (paramCtx.readPos state.payload.lastReadBytePos) paramCtx.parameter.bitPosition diagType
    (some compuMethod)
  intro final
  rw [← rest final, mapNormalDopFromUds, typed, computed]
  rw [bind_of_ok (ofExcept_eq_ok_iff.2 ⟨rfl, rfl⟩), bind_of_ok (orFail_eq_ok_iff.2 ⟨rfl, rfl⟩),
    bind_of_ok (bytePosOrLastRead_eq_ok_iff.2 ⟨rfl, rfl⟩)]

end

end Decoders

namespace Parameter

variable (param : Parameter conv)

/-- What a parameter without nested ones is read as, where the database is sound. -/
def content? : Option (Content conv) :=
  match param.paramType, param.specificData with
  | .ok .codedConst, .codedConst codedConst =>
    match codedConst.diagCodedType with
    | some (.ok diagType) => some (.constant diagType codedConst.codedValue)
    | _ => none
  | .ok .reserved, .reserved bitLength => some (.reserved bitLength)
  | .ok .physConst, .physConst _ (some (.normal normalDop)) =>
    normalDop.diagCodedType.toOption.map fun diagType => .extracted diagType none
  | .ok .value, .value _ (some (.normal normalDop)) => do
    let shortName ← param.shortName
    let diagType ← normalDop.diagCodedType.toOption
    match diagType.lengthKeyName with
    | some lengthKeyName => some (.keyed diagType.baseDatatype normalDop.compuMethod
        lengthKeyName.toList shortName)
    | none => normalDop.compuMethod.map fun compuMethod => .extracted diagType (some compuMethod)
  | .ok .value, .value _ (some (.dtc dtcDop)) => param.shortName.map fun _ => .dtc dtcDop
  | _, _ => none

/-- A value is stored under its own name, any other under the name its caller gives. -/
def storedName (callerName : Text) : Text :=
  match param.paramType with
  | .ok .value => param.shortName.getD []
  | _ => callerName

/-- Whether the parameter is read from the read position on where it has no position. -/
def followsReading : Bool :=
  match param.paramType, param.specificData with
  | .ok .value, .value _ (some (.normal _)) => true
  | _, _ => false

end Parameter

def ParamContext.leafPos (paramCtx : ParamContext conv) (lastRead : Nat) : Nat :=
  if paramCtx.parameter.followsReading then paramCtx.readPos lastRead else paramCtx.absBytePos

theorem mapParamKindFromUds_stores {paramCtx : ParamContext conv} {content : Content conv}
    (isLeaf : paramCtx.parameter.content? = some content) {state : DecodeState conv}
    {bytes : List UInt8} (shows : state.payload.Shows bytes) (service : DiagService conv)
    (mapParam : Text → ParamContext conv → Decoder conv Unit) (callerName : Text) :
    Stores (mapParamKindFromUds service mapParam callerName paramCtx)
      (paramCtx.parameter.storedName callerName) state
      (content.read bytes state.data (paramCtx.leafPos state.payload.lastReadBytePos)
        paramCtx.parameter.bitPosition) := by
  unfold Parameter.content? at isLeaf
  unfold ParamContext.leafPos Parameter.followsReading Parameter.storedName
  rw [mapParamKindFromUds]
  split at isLeaf
  · rename_i codedConst kind specific
    rw [kind]
    split at isLeaf
    · rename_i diagType typed
      cases isLeaf
      exact stores_codedConst shows specific typed callerName
    · cases isLeaf
  · rename_i bitLength kind specific
    cases isLeaf
    rw [kind]
    exact stores_reserved shows specific callerName
  · rename_i constant normalDop kind specific
    rw [kind]
    cases typed : normalDop.diagCodedType with
    | error failure =>
      rw [typed] at isLeaf
      cases isLeaf
    | ok diagType =>
      rw [typed] at isLeaf
      cases isLeaf
      change Stores (mapParamPhysConstFromUds _ _ _) _ _ _
      rw [mapParamPhysConstFromUds, specific]
      change Stores (do
        let diagType ← Decoder.ofExcept normalDop.diagCodedType
        _) _ _ _
      rw [typed]
      exact stores_extracted shows callerName _ _ diagType none
  · rename_i default normalDop kind specific
    have follows : (match paramCtx.parameter.paramType, paramCtx.parameter.specificData with
        | .ok .value, .value _ (some (.normal _)) => true
        | _, _ => false) = true := by
      rw [kind, specific]
    rw [follows, if_pos rfl, kind]
    simp only [Option.bind_eq_bind, Option.bind_eq_some_iff] at isLeaf
    obtain ⟨shortName, named, diagType, typed, isLeaf⟩ := isLeaf
    replace typed : normalDop.diagCodedType = .ok diagType := by
      cases outcome : normalDop.diagCodedType with
      | error failure =>
        rw [outcome] at typed
        cases typed
      | ok found =>
        rw [outcome] at typed
        cases typed
        rfl
    change Stores (mapParamValueFromUds _ _) _ _ _
    rw [mapParamValueFromUds, specific, named]
    change Stores (mapDopFromUds mapParam (.normal normalDop) paramCtx) _ _ _
    rw [mapDopFromUds, named]
    change Stores (do
      let diagType ← Decoder.ofExcept normalDop.diagCodedType
      _) _ _ _
    rw [typed]
    change Stores (match diagType.lengthKeyName with
      | some lengthKeyName =>
        mapParamLengthInfoDopFromUds shortName normalDop lengthKeyName.toList paramCtx
      | none => mapNormalDopFromUds shortName normalDop paramCtx) _ _ _
    cases keyed : diagType.lengthKeyName with
    | some lengthKeyName =>
      rw [keyed] at isLeaf
      cases isLeaf
      exact stores_keyed shows typed shortName lengthKeyName.toList paramCtx
    | none =>
      rw [keyed] at isLeaf
      obtain ⟨compuMethod, computed, same⟩ := Option.map_eq_some_iff.1 isLeaf
      cases same
      exact stores_normal shows typed computed shortName paramCtx
  · rename_i default dtcDop kind specific
    have fixed : (match paramCtx.parameter.paramType, paramCtx.parameter.specificData with
        | .ok .value, .value _ (some (.normal _)) => true
        | _, _ => false) = false := by
      rw [kind, specific]
    rw [fixed, kind]
    obtain ⟨shortName, named, same⟩ := Option.map_eq_some_iff.1 isLeaf
    cases same
    change Stores (mapParamValueFromUds _ _) _ _ _
    rw [mapParamValueFromUds, specific, named]
    change Stores (mapDopFromUds mapParam (.dtc dtcDop) paramCtx) _ _ _
    rw [mapDopFromUds, named]
    exact stores_dtc shows dtcDop paramCtx shortName
  · cases isLeaf

end DiagnosticAdapter.Kernel
