import DiagnosticAdapter.Effects.Failures
import DiagnosticAdapter.Kernel.PayloadDecode

/-!
# The errors of a decoding

No function of the decoder reports that a response was not expected.  The database and
the compu methods are the only ones that could hand it such an error.
-/

namespace DiagnosticAdapter.Kernel

open Bits Codec Effects Decoder

variable {conv : Conversions} {α β : Type}

/-- An error that says nothing about which response was expected. -/
def Ordinary : DiagServiceError → Prop
  | .unexpectedResponse _ => False
  | _ => True

section Bytes

theorem ordinary_setBitChecked (bytes : List UInt8) (index offset : Nat) (bit : UInt8)
    (clear : Bool) : FailsWith Ordinary (setBitChecked bytes index offset bit clear) := by
  unfold setBitChecked
  split
  · exact .ok _
  · exact .error trivial

theorem ordinary_extractBits (bitLen bitPos : Nat) (data : List UInt8) :
    FailsWith Ordinary (extractBits bitLen bitPos data) := by
  unfold extractBits
  split
  · exact .error trivial
  split
  · exact .error trivial
  split
  · exact .error trivial
  refine .bind (.forIn (fun i result => ?_) _ _) fun result => .ok _
  dsimp only
  split
  · exact .error trivial
  · exact .bind (ordinary_setBitChecked _ _ _ _ _) fun next => .ok _

theorem ordinary_applyBitMask (data mask : List UInt8) (bitLen bitPos : Nat) :
    FailsWith Ordinary (applyBitMask data mask bitLen bitPos) := by
  unfold applyBitMask
  refine .bind (.forIn (fun i result => ?_) _ _) fun result => .ok _
  dsimp only
  split
  · exact .ok _
  · exact .bind (ordinary_setBitChecked _ _ _ _ _) fun next => .ok _

theorem ordinary_applyCondensedMaskUnpacking (bitMask bitField : List UInt8) (bitLen : Nat) :
    FailsWith Ordinary (applyCondensedMaskUnpacking bitMask bitField bitLen) := by
  unfold applyCondensedMaskUnpacking
  dsimp only
  split
  · exact .ok _
  refine .bind (.forIn (fun i result => ?_) _ _) fun result => ?_
  · split
    · exact .bind (ordinary_setBitChecked _ _ _ _ _) fun next => .ok _
    · exact .ok _
  · split
    · exact .ok _
    · exact .ok _

theorem ordinary_unpackData (bitLen bitPos : Nat) (mask : Option Mask) (data : List UInt8)
    (byteOrder : ByteOrder) :
    FailsWith Ordinary (unpackData bitLen bitPos mask data byteOrder) := by
  refine .bind (ordinary_extractBits _ _ _) fun bitData => ?_
  cases mask with
  | none => exact .ok _
  | some mask =>
    dsimp only
    split
    · exact ordinary_applyCondensedMaskUnpacking _ _ _
    · exact .bind (ordinary_applyBitMask _ _ _ _) fun masked => .ok _

theorem ordinary_validateBitLen (dataType : DataType) (bitLen : Nat) :
    FailsWith Ordinary (dataType.validateBitLen bitLen) := by
  unfold DataType.validateBitLen
  repeat' split
  all_goals first
    | exact .error trivial
    | exact .ok _

theorem ordinary_posInfoMinMaxLen (diagType : DiagCodedType) (bytes : List UInt8)
    (bytePos : Nat) (mmlt : MinMaxLengthType) :
    FailsWith Ordinary (diagType.posInfoMinMaxLen bytes bytePos mmlt) := by
  have measured : ∀ endPos, FailsWith Ordinary
      (if endPos - bytePos < mmlt.minLength then
        .error (.notEnoughData (bytePos + mmlt.minLength) bytes.length)
      else (.ok ⟨(endPos - bytePos) * 8, bytePos, none⟩ :
        Except DiagServiceError DiagCodedType.PosInfo)) := by
    intro endPos
    split
    · exact .error trivial
    · exact .ok _
  unfold DiagCodedType.posInfoMinMaxLen
  extract_lets maxEnd
  split
  · exact measured _
  · split
    · exact .bind (.error trivial) measured
    · exact measured _
  · exact measured _

section

variable (diagType : DiagCodedType) (bytes : List UInt8) (bytePos bitPos : Nat)

include diagType bytes bytePos bitPos

theorem ordinary_posInfoLeadingLen (byteOrder : ByteOrder) (bits : Nat) :
    FailsWith Ordinary (diagType.posInfoLeadingLen bytes bytePos bitPos byteOrder bits) := by
  refine .bind (ordinary_validateBitLen _ _) fun _ => ?_
  split
  · exact .error trivial
  · refine .bind (ordinary_unpackData _ _ _ _ _) fun (lengthInfoBytes, _) => ?_
    refine .bind ?_ fun len => ?_
    · unfold DiagCodedType.usizeFromBytes
      split
      · exact .ok _
      · exact .error trivial
    · dsimp only
      split
      · exact .error trivial
      · exact .ok _

theorem ordinary_posInfo : FailsWith Ordinary (diagType.posInfo bytes bytePos bitPos) := by
  unfold DiagCodedType.posInfo
  split
  · exact ordinary_posInfoLeadingLen _ _ _ _ _ _
  · exact ordinary_posInfoMinMaxLen _ _ _ _
  · exact .bind (ordinary_validateBitLen _ _) fun _ => .ok _
  · exact .error trivial

theorem ordinary_decode : FailsWith Ordinary (diagType.decode bytes bytePos bitPos) := by
  refine .bind ?_ fun _ => ?_
  · unfold DiagCodedType.validateBitPos
    split
    · exact .error trivial
    · exact .ok _
  · refine .bind (ordinary_posInfo _ _ _ _) fun info => ?_
    split
    · exact .ok _
    · dsimp only
      split
      · exact .error trivial
      split
      · exact .error trivial
      · exact ordinary_unpackData _ _ _ _ _

theorem ordinary_decodeIfPresent :
    FailsWith Ordinary (decodeIfPresent diagType bytes bytePos bitPos) := by
  unfold decodeIfPresent
  split
  · exact .ok _
  · exact ordinary_decode _ _ _ _

end

theorem ordinary_decodeWithRuntimeByteLength (bytes : List UInt8) (bytePos byteCount : Nat) :
    FailsWith Ordinary (decodeWithRuntimeByteLength bytes bytePos byteCount) := by
  unfold decodeWithRuntimeByteLength
  split
  · exact .ok _
  dsimp only
  split
  · exact .error trivial
  · exact .ok _

end Bytes

section Texts

theorem ordinary_decodeHexWithOptionalPrefix (text : Text) :
    FailsWith Ordinary (decodeHexWithOptionalPrefix text) := by
  refine .bind (.mapM (fun word => ?_) _) fun parts => .ok _
  unfold decodeHex
  repeat' split
  all_goals first
    | exact .error trivial
    | exact .ok _

theorem ordinary_validateBitLenUnsigned (typeBits value bitLen : Nat) :
    FailsWith Ordinary (validateBitLenUnsigned typeBits value bitLen) := by
  unfold validateBitLenUnsigned
  split
  · exact .error trivial
  dsimp only
  repeat' split
  all_goals first
    | exact .error trivial
    | exact .ok _

theorem ordinary_validateBitLenSigned (typeBits : Nat) (value : Int) (bitLen : Nat) :
    FailsWith Ordinary (validateBitLenSigned typeBits value bitLen) := by
  unfold validateBitLenSigned
  split
  · exact .error trivial
  dsimp only
  repeat' split
  all_goals first
    | exact .error trivial
    | exact .ok _

theorem ordinary_decodeU32WithOptionalPrefix (marker : Char) (radix : Nat)
    (nonDigit invalid : String) (text : Text) :
    FailsWith Ordinary (decodeU32WithOptionalPrefix marker radix nonDigit invalid text) := by
  unfold decodeU32WithOptionalPrefix
  extract_lets stripped
  split
  · exact .error trivial
  · split
    · exact .error trivial
    · exact .ok _

theorem ordinary_decodeUInt32FromStr (value : Text) (diagType : DiagCodedType) :
    FailsWith Ordinary (decodeUInt32FromStr value diagType) := by
  have checked : ∀ decoded, FailsWith Ordinary
      (if decoded.length ≠ 4 then .error (.panicked "padded to u32 length")
      else do
        validateBitLenUnsigned 32 (Bits.value decoded) (diagType.bitLen.getD 32)
        return toBeBytes 4 (Bits.value decoded)) := by
    intro decoded
    split
    · exact .error trivial
    · exact .bind (ordinary_validateBitLenUnsigned _ _ _) fun _ => .ok _
  unfold decodeUInt32FromStr
  dsimp only
  split
  · refine .bind (ordinary_decodeHexWithOptionalPrefix _) fun decoded => ?_
    split
    · exact checked _
    · exact checked _
  split
  · exact ordinary_decodeU32WithOptionalPrefix _ _ _ _ _
  split
  · exact ordinary_decodeU32WithOptionalPrefix _ _ _ _ _
  split
  · exact .error trivial
  · exact .bind (ordinary_validateBitLenUnsigned _ _ _) fun _ => .ok _

theorem ordinary_decodeNumericValFromStr (value : Text) (physicalType : PhysicalType)
    (diagType : DiagCodedType) :
    FailsWith Ordinary (decodeNumericValFromStr conv value physicalType diagType) := by
  unfold decodeNumericValFromStr
  split
  · split
    · exact .error trivial
    · exact .bind (ordinary_validateBitLenSigned _ _ _) fun _ => .ok _
  · exact ordinary_decodeUInt32FromStr _ _
  · split
    · exact .error trivial
    · exact .ok _
  · split
    · exact .error trivial
    · exact .ok _
  · exact .error trivial

theorem ordinary_toNumericBaseType (number : PhysNumber) (baseType : DataType) :
    FailsWith Ordinary (toNumericBaseType conv number baseType) := by
  unfold toNumericBaseType
  repeat' split
  all_goals first
    | exact .error trivial
    | exact .ok _

theorem ordinary_processPhysicalTypeValue (jsonValue : JsonValue) (physicalType : PhysicalType)
    (dataType : DiagCodedType) :
    FailsWith Ordinary (processPhysicalTypeValue conv jsonValue physicalType dataType) := by
  unfold processPhysicalTypeValue
  split
  · exact .error trivial
  · refine .bind (ordinary_decodeNumericValFromStr _ _ _) fun data => ?_
    split
    · exact .ok _
    · split
      · exact ordinary_toNumericBaseType _ _
      · exact ordinary_toNumericBaseType _ _
      · exact ordinary_toNumericBaseType _ _
      · exact ordinary_toNumericBaseType _ _
      · exact .error trivial

theorem ordinary_processNumericJsonValue (number : JsonNumber) (dataType : DiagCodedType) :
    FailsWith Ordinary (processNumericJsonValue conv number dataType) := by
  unfold processNumericJsonValue
  split
  · split
    · exact .error trivial
    · refine .bind (ordinary_validateBitLenSigned _ _ _) fun _ => ?_
      split
      · exact .ok _
      · exact .error trivial
  · split
    · exact .error trivial
    · refine .bind (ordinary_validateBitLenUnsigned _ _ _) fun _ => ?_
      split
      · exact .ok _
      · exact .error trivial
  · exact .ok _
  · exact .ok _
  · exact .error trivial

theorem ordinary_validateDataLength (data : List UInt8) (baseType : DataType) :
    FailsWith Ordinary (validateDataLength data baseType) := by
  unfold validateDataLength
  repeat' split
  all_goals first
    | exact .error trivial
    | exact .ok _

theorem ordinary_numericJsonValueToByteVector (jsonValue : JsonValue) (dataType : DiagCodedType)
    (physicalType : Option PhysicalType) :
    FailsWith Ordinary (numericJsonValueToByteVector conv jsonValue dataType physicalType) := by
  have checked : ∀ data, FailsWith Ordinary (do
      validateDataLength data dataType.baseDatatype
      return data) :=
    fun data => .bind (ordinary_validateDataLength _ _) fun _ => .ok _
  unfold numericJsonValueToByteVector
  dsimp only
  split
  · exact .bind (ordinary_processNumericJsonValue _ _) checked
  · exact .bind (ordinary_processPhysicalTypeValue _ _ _) checked
  · exact .bind (.error trivial) checked

theorem ordinary_strToJsonValue (value : Text) (dataType : DataType) :
    FailsWith Ordinary (strToJsonValue conv value dataType) := by
  unfold strToJsonValue
  dsimp only
  repeat' split
  all_goals first
    | exact .error trivial
    | exact .ok _

theorem ordinary_new (dataType : DataType) (data : List UInt8) :
    FailsWith Ordinary (DiagDataValue.new dataType data) := by
  unfold DiagDataValue.new
  repeat' split
  all_goals first
    | exact .error trivial
    | exact .ok _

theorem ordinary_toU32 (value : DiagDataValue) : FailsWith Ordinary (value.toU32 conv) := by
  unfold DiagDataValue.toU32
  dsimp only
  split
  · split
    · exact .ok _
    · exact .error trivial
  · exact .ok _
  · cases conv.f32ToU32 _ with
    | none => exact .error trivial
    | some number => exact .ok _
  · cases conv.f64ToU32 _ with
    | none => exact .error trivial
    | some number => exact .ok _
  · exact .error trivial

end Texts

structure Conversions.FailOrdinarily (conv : Conversions) : Prop where
  convert : ∀ diagType method physType json,
    FailsWith Ordinary (conv.compuConvert diagType method physType json)
  lookup : ∀ dataType method data, FailsWith Ordinary (conv.compuLookup dataType method data)

section Values

variable (ordinary : conv.FailOrdinarily)

include ordinary

theorem ordinary_jsonValueToUdsData (diagType : DiagCodedType)
    (compuMethod : Option conv.CompuMethod) (physType : Option PhysicalType) (json : JsonValue) :
    FailsWith Ordinary (jsonValueToUdsData conv diagType compuMethod physType json) := by
  unfold jsonValueToUdsData
  split
  · exact ordinary.convert _ _ _ _
  · split
    any_goals exact ordinary_numericJsonValueToByteVector _ _ _
    all_goals split
    any_goals exact .error trivial
    · exact ordinary_decodeHexWithOptionalPrefix _
    all_goals exact .ok _

theorem ordinary_expectedConst (diagType : DiagCodedType) (constValue : Text) (length : Nat) :
    FailsWith Ordinary (expectedConst conv diagType constValue length) := by
  refine .bind (ordinary_strToJsonValue _ _) fun json => ?_
  exact .bind (ordinary_jsonValueToUdsData ordinary _ _ _ _) fun expected => .ok _

theorem ordinary_udsDataToSerializable (dataType : DataType)
    (compuMethod : Option conv.CompuMethod) (data : List UInt8) :
    FailsWith Ordinary (udsDataToSerializable conv dataType compuMethod data) := by
  unfold udsDataToSerializable
  split
  · exact .ok _
  split
  · exact ordinary.lookup _ _ _
  · exact ordinary_new _ _

theorem ordinary_lengthKeyByteCount (lengthKeyName shortName : Text) (data : MappedPayload conv) :
    FailsWith Ordinary (lengthKeyByteCount lengthKeyName shortName data) := by
  unfold lengthKeyByteCount
  split
  · refine .bind (ordinary_udsDataToSerializable ordinary _ _ _) fun value => ?_
    split
    · exact .ok _
    · exact .ok _
    · exact .error trivial
  · exact .error trivial
  · exact .error trivial

theorem ordinary_discriminatorValueFromOuterData (outerData : MappedPayload conv)
    (paramShortName : Text) :
    FailsWith Ordinary (discriminatorValueFromOuterData outerData paramShortName) := by
  unfold discriminatorValueFromOuterData
  dsimp only
  split
  · exact .ok _
  · refine .bind (ordinary_udsDataToSerializable ordinary _ _ _) fun value => ?_
    split
    · exact .ok _
    · split
      · exact .ok _
      · exact .error trivial
    · exact .error trivial
  · exact .error trivial

theorem ordinary_tableKeyText (keyParamName : Text) (container : Container conv) :
    FailsWith Ordinary (tableKeyText keyParamName container) := by
  unfold tableKeyText
  split
  · refine .bind (ordinary_udsDataToSerializable ordinary _ _ _) fun value => ?_
    split
    · exact .ok _
    · exact .ok _
    · exact .ok _
    · exact .error trivial
  · exact .error trivial

end Values

def DopField.Has (field : DopField conv) (inner : DataOperation conv) : Prop :=
  field.basicStructure = some inner ∨ field.envDataDesc = some inner

namespace DataOperation

inductive Refers : DataOperation conv → DataOperation conv → Prop
  | endOfPdu {dop : EndOfPdu conv} {field : DopField conv} {inner : DataOperation conv} :
      dop.field = some field → field.Has inner → Refers (.endOfPdu dop) inner
  | staticField {dop : StaticFieldDop conv} {field : DopField conv}
      {inner : DataOperation conv} :
      dop.field = some field → field.Has inner → Refers (.staticField dop) inner
  | dynamicLengthField {dop : DynamicLengthDop conv} {field : DopField conv}
      {inner : DataOperation conv} :
      dop.field = some field → field.Has inner → Refers (.dynamicLengthField dop) inner
  | numberOfItems {dop : DynamicLengthDop conv} {number : DetermineNumberOfItems conv}
      {inner : DataOperation conv} :
      dop.determineNumberOfItems = some number → number.dop = some inner →
        Refers (.dynamicLengthField dop) inner
  | envDataDesc {dop : EnvDataDescDop conv} {envDatas : List (DataOperation conv)}
      {inner : DataOperation conv} :
      dop.envDatas = some envDatas → inner ∈ envDatas → Refers (.envDataDesc dop) inner
  | switchKey {dop : MuxDop conv} {switchKey : SwitchKey conv} {inner : DataOperation conv} :
      dop.switchKey = some switchKey → switchKey.dop = some inner → Refers (.mux dop) inner
  | case {dop : MuxDop conv} {cases : List (Case conv)} {case : Case conv}
      {inner : DataOperation conv} :
      dop.cases = some cases → case ∈ cases → case.structureDop = some inner →
        Refers (.mux dop) inner
  | defaultCase {dop : MuxDop conv} {default : DefaultCase conv} {inner : DataOperation conv} :
      dop.defaultCase = some default → default.structureDop = some inner → Refers (.mux dop) inner

inductive HasParam : DataOperation conv → Parameter conv → Prop
  | struct {dop : StructureDop conv} {params : List (Parameter conv)}
      {param : Parameter conv} :
      dop.params = some params → param ∈ params → HasParam (.struct dop) param
  | envData {dop : EnvDataDop conv} {params : List (Parameter conv)} {param : Parameter conv} :
      dop.params = some params → param ∈ params → HasParam (.envData dop) param

end DataOperation

/-- The data operations that a parameter names, those of its table among them. -/
inductive Parameter.Refers : Parameter conv → DataOperation conv → Prop
  | value {param : Parameter conv} {default : Option Text} {dop : DataOperation conv} :
      param.specificData = .value default (some dop) → Refers param dop
  | lengthKey {param : Parameter conv} {dop : DataOperation conv} :
      param.specificData = .lengthKeyRef (some dop) → Refers param dop
  | physConst {param : Parameter conv} {constant : Option Text} {dop : DataOperation conv} :
      param.specificData = .physConst constant (some dop) → Refers param dop
  | tableKey {param : Parameter conv} {table : TableDop conv} {dop : DataOperation conv} :
      param.specificData = .tableKey (some table) → table.keyDop = some dop → Refers param dop
  | tableRow {param : Parameter conv} {table : TableDop conv} {rows : List (TableRow conv)}
      {row : TableRow conv} {dop : DataOperation conv} :
      param.specificData = .tableKey (some table) → table.rows = some rows → row ∈ rows →
        row.structureDop = some dop → Refers param dop

mutual

inductive DataOperation.Carries (error : DiagServiceError) : DataOperation conv → Prop
  | invalid : DataOperation.Carries error (.invalid error)
  | normal {dop : NormalDop conv} :
      dop.diagCodedType = .error error → DataOperation.Carries error (.normal dop)
  | dtc {dop : DtcDop} :
      dop.diagCodedType = .error error → DataOperation.Carries error (.dtc dop)
  | refers {dop inner : DataOperation conv} :
      dop.Refers inner → DataOperation.Carries error inner → DataOperation.Carries error dop
  | param {dop : DataOperation conv} {param : Parameter conv} :
      dop.HasParam param → Parameter.Carries error param → DataOperation.Carries error dop

inductive Parameter.Carries (error : DiagServiceError) : Parameter conv → Prop
  | paramType {param : Parameter conv} :
      param.paramType = .error error → Parameter.Carries error param
  | codedConst {param : Parameter conv} {codedConst : CodedConst} :
      param.specificData = .codedConst codedConst →
        codedConst.diagCodedType = some (.error error) → Parameter.Carries error param
  | refers {param : Parameter conv} {dop : DataOperation conv} :
      param.Refers dop → DataOperation.Carries error dop → Parameter.Carries error param
  | tableStruct {param tableKey : Parameter conv} :
      param.specificData = .tableStruct (some tableKey) →
        Parameter.Carries error tableKey → Parameter.Carries error param

end

def DataOperation.ReadsOrdinarily (dop : DataOperation conv) : Prop :=
  ∀ error, dop.Carries error → Ordinary error

def Parameter.ReadsOrdinarily (param : Parameter conv) : Prop :=
  ∀ error, param.Carries error → Ordinary error

section Reading

theorem DataOperation.ReadsOrdinarily.refers {dop inner : DataOperation conv}
    (reads : dop.ReadsOrdinarily) (refers : dop.Refers inner) : inner.ReadsOrdinarily :=
  fun error carries => reads error (.refers refers carries)

theorem DataOperation.ReadsOrdinarily.param {dop : DataOperation conv} {param : Parameter conv}
    (reads : dop.ReadsOrdinarily) (has : dop.HasParam param) : param.ReadsOrdinarily :=
  fun error carries => reads error (.param has carries)

theorem Parameter.ReadsOrdinarily.refers {param : Parameter conv} {dop : DataOperation conv}
    (reads : param.ReadsOrdinarily) (refers : param.Refers dop) : dop.ReadsOrdinarily :=
  fun error carries => reads error (.refers refers carries)

theorem DataOperation.ReadsOrdinarily.codedType {dop : NormalDop conv}
    (reads : (DataOperation.normal dop).ReadsOrdinarily) :
    FailsWith Ordinary dop.diagCodedType :=
  fun error failed => reads error (.normal failed)

end Reading

section Choices

theorem ordinary_extractStructDopFromField (field : Option (DopField conv)) :
    FailsWith Ordinary (extractStructDopFromField field) := by
  unfold extractStructDopFromField
  split
  · exact .ok _
  · exact .error trivial

variable {structDop : StructureDop conv}

theorem asStructure_eq_some {dop : DataOperation conv}
    (isStructure : dop.asStructure = some structDop) : dop = .struct structDop := by
  cases dop with
  | struct other =>
    cases isStructure
    rfl
  | _ => cases isStructure

theorem field_of_extractStructDopFromField {field : Option (DopField conv)}
    (found : extractStructDopFromField field = .ok structDop) :
    ∃ inner, field = some inner ∧ inner.Has (.struct structDop) := by
  unfold extractStructDopFromField at found
  split at found
  · rename_i other isStructure
    cases found
    obtain ⟨inner, isField, dop, basic, isStructure⟩ := by
      simpa only [Option.bind_eq_some_iff] using isStructure
    exact ⟨inner, isField, .inl (by rw [basic, asStructure_eq_some isStructure])⟩
  · cases found

theorem ordinary_matchingRequestParam (service : DiagService conv) (paramCtx : ParamContext conv)
    (requestBytePos : Nat) :
    FailsWith Ordinary (matchingRequestParam service paramCtx requestBytePos) := by
  unfold matchingRequestParam
  split
  · exact .error trivial
  split
  · exact .ok _
  · exact .error trivial

theorem mem_of_matchingRequestParam {service : DiagService conv} {paramCtx : ParamContext conv}
    {requestBytePos : Nat} {param : Parameter conv}
    (found : matchingRequestParam service paramCtx requestBytePos = .ok param) :
    ∃ request params, service.request = some request ∧ request.params = some params ∧
      param ∈ params := by
  unfold matchingRequestParam at found
  split at found
  · cases found
  · rename_i request isRequest
    split at found
    · rename_i other matching
      cases found
      obtain ⟨params, isParams, first⟩ := Option.bind_eq_some_iff.1 matching
      exact ⟨request, params, isRequest, isParams, List.mem_of_find?_eq_some first⟩
    · cases found

theorem ordinary_muxSelector (ordinary : conv.FailOrdinarily) (switchKey : SwitchKey conv)
    {normalDop : NormalDop conv} (reads : (DataOperation.normal normalDop).ReadsOrdinarily)
    (bytes : List UInt8) : FailsWith Ordinary (muxSelector switchKey normalDop bytes) := by
  refine .bind reads.codedType fun diagType => ?_
  split
  · exact .error trivial
  · refine .bind (ordinary_decode _ _ _ _) fun (data, bitLen) => ?_
    exact .bind (ordinary_udsDataToSerializable ordinary _ _ _) fun value => .ok _

theorem ordinary_muxCase (muxDop : MuxDop conv) (switchKeyValue : DiagDataValue)
    (shortName : Text) : FailsWith Ordinary (muxCase muxDop switchKeyValue shortName) := by
  unfold muxCase
  split
  · split
    · exact .ok _
    · exact .error trivial
  · split
    · exact .ok _
    · exact .error trivial

theorem refers_of_muxCase {muxDop : MuxDop conv} {switchKeyValue : DiagDataValue}
    {shortName caseName : Text}
    (chosen : muxCase muxDop switchKeyValue shortName = .ok (caseName, some structDop)) :
    (DataOperation.mux muxDop).Refers (.struct structDop) := by
  unfold muxCase at chosen
  split at chosen
  · rename_i case caseStruct found
    split at chosen
    · cases chosen
      obtain ⟨other, first, same⟩ := Option.map_eq_some_iff.1 found
      obtain ⟨cases', isCases, matching⟩ := Option.bind_eq_some_iff.1 first
      obtain ⟨rfl, structure_⟩ := Prod.mk.inj same
      obtain ⟨dop, isDop, isStructure⟩ := Option.bind_eq_some_iff.1 structure_
      rw [asStructure_eq_some isStructure] at isDop
      exact .case isCases (List.mem_of_find?_eq_some matching) isDop
    · cases chosen
  · split at chosen
    · rename_i found isDefault
      cases chosen
      obtain ⟨default, isCase, named⟩ := Option.bind_eq_some_iff.1 isDefault
      obtain ⟨name, isName, same⟩ := Option.map_eq_some_iff.1 named
      obtain ⟨dop, isDop, isStructure⟩ := Option.bind_eq_some_iff.1 (Prod.mk.inj same).2
      rw [asStructure_eq_some isStructure] at isDop
      exact .defaultCase isCase isDop
    · cases chosen

theorem ordinary_numItemsData {dop : DynamicLengthDop conv}
    {determineNumItems : DetermineNumberOfItems conv}
    (reads : (DataOperation.dynamicLengthField dop).ReadsOrdinarily)
    (isNumber : dop.determineNumberOfItems = some determineNumItems) (paramAbsBytePos : Nat)
    (bytes : List UInt8) :
    FailsWith Ordinary (numItemsData determineNumItems paramAbsBytePos bytes) := by
  unfold numItemsData
  split
  · exact .error trivial
  · rename_i inner isDop
    cases inner with
    | normal numItemsDop =>
      refine .bind (reads.refers (.numberOfItems isNumber isDop)).codedType fun diagType => ?_
      split
      · exact .error trivial
      · exact .bind (ordinary_decode _ _ _ _) fun (data, _) => .ok _
    | _ => exact .error trivial

theorem ordinary_selectedTableRow (ordinary : conv.FailOrdinarily)
    (tableKey : Option (Parameter conv)) (data : MappedPayload conv) :
    FailsWith Ordinary (selectedTableRow tableKey data) := by
  unfold selectedTableRow
  split
  · exact .error trivial
  split
  · exact .error trivial
  split
  · exact .error trivial
  · refine .bind (ordinary_tableKeyText ordinary _ _) fun keyText => ?_
    split
    · exact .error trivial
    · split
      · exact .error trivial
      · split
        · exact .ok _
        · exact .error trivial
    · exact .error trivial

theorem row_of_selectedTableRow {tableKey : Option (Parameter conv)} {data : MappedPayload conv}
    {row : TableRow conv} (selected : selectedTableRow tableKey data = .ok row) :
    ∃ keyParam table rows, tableKey = some keyParam ∧
      keyParam.specificData = .tableKey (some table) ∧ table.rows = some rows ∧ row ∈ rows := by
  unfold selectedTableRow at selected
  split at selected
  · cases selected
  rename_i keyParam
  split at selected
  · cases selected
  split at selected
  · cases selected
  · obtain ⟨keyText, _, selected⟩ := exists_of_except_bind selected
    split at selected
    · cases selected
    · rename_i table specific
      split at selected
      · cases selected
      · rename_i rows isRows
        split at selected
        · rename_i found matching
          cases selected
          exact ⟨keyParam, table, rows, rfl, specific, isRows, List.mem_of_find?_eq_some matching⟩
        · cases selected
    · cases selected

theorem mem_of_matchingEnvData {envDatas : List (DataOperation conv)} {discriminator : Nat}
    {envData : EnvDataDop conv} (matching : matchingEnvData envDatas discriminator = some envData) :
    .envData envData ∈ envDatas := by
  have isCandidate : envData ∈ envDatas.filterMap DataOperation.asEnvData := by
    unfold matchingEnvData at matching
    dsimp only at matching
    obtain found | ⟨-, found⟩ := Option.or_eq_some_iff.1 matching
    · exact List.mem_of_find?_eq_some found
    · exact List.mem_of_find?_eq_some found
  obtain ⟨dop, mem, isEnvData⟩ := List.mem_filterMap.1 isCandidate
  cases dop with
  | envData other =>
    cases isEnvData
    exact mem
  | _ => cases isEnvData

end Choices

end DiagnosticAdapter.Kernel
