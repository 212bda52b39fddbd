import DiagnosticAdapter.Kernel.Decoder

/-!
# Decoding a payload

`map_param_from_uds` with the decoders of all parameter kinds and data operations, and
the parameter loops of `convert_from_uds` and `convert_request_from_uds`.  The decoders
call each other only through `map_param_from_uds`, which they take as `mapParam`.
-/

namespace DiagnosticAdapter.Kernel

open Bits Codec Decoder

variable {conv : Conversions}

structure ParamContext (conv : Conversions) where
  parameter : Parameter conv
  baseOffset : Nat
  outerContext : Option (MappedPayload conv)

namespace ParamContext

def new (parameter : Parameter conv) (baseOffset : Nat) : ParamContext conv :=
  ⟨parameter, baseOffset, none⟩

def withOuterContext (self : ParamContext conv) (outerContext : Option (MappedPayload conv)) :
    ParamContext conv :=
  { self with outerContext }

def absBytePos (self : ParamContext conv) : Nat :=
  self.baseOffset + self.parameter.bytePosition

end ParamContext

def dropChecked (bytes : List UInt8) (start : Nat) : Option (List UInt8) :=
  slice? bytes start bytes.length

def saturatingMulU32 (a b : Nat) : Nat := min (a * b) (2 ^ 32 - 1)

def decodeWithRuntimeByteLength (udsPayload : List UInt8) (bytePos byteCount : Nat) :
    Except DiagServiceError (List UInt8 × Nat) :=
  if byteCount = 0 then .ok ([], 0)
  else
    let endPos := bytePos + byteCount
    if udsPayload.length < endPos then .error (.notEnoughData endPos udsPayload.length)
    else .ok ((slice? udsPayload bytePos endPos).getD [], byteCount * 8)

/-- Only a field with a minimum length of zero may contain no data. -/
def isOptional (diagType : DiagCodedType) : Bool :=
  match diagType.type_ with
  | .minMaxLength mmlt => mmlt.minLength = 0
  | _ => false

/-- An optional parameter that starts at or beyond the end of the payload is absent. -/
def decodeIfPresent (diagType : DiagCodedType) (udsPayload : List UInt8)
    (paramBytePos paramBitPos : Nat) : Except DiagServiceError (List UInt8 × Nat) :=
  if isOptional diagType ∧ paramBytePos ≥ udsPayload.length then .ok ([], 0)
  else diagType.decode udsPayload paramBytePos paramBitPos

def extractDiagDataContainer (paramBytePos paramBitPos : Nat) (diagType : DiagCodedType)
    (compuMethod : Option conv.CompuMethod) : Decoder conv (RawContainer conv) := do
  let udsPayload ← view
  let (data, bitLen) ← ofExcept (decodeIfPresent diagType udsPayload paramBytePos paramBitPos)
  if data.isEmpty ∧ !isOptional diagType then
    fail (.notEnoughData (paramBytePos + 1) udsPayload.length)
  else
    setLastReadBytePos (paramBytePos + data.length)
    return ⟨data, bitLen, diagType.baseDatatype, compuMethod⟩

/-- What a constant must read as, cut to the length read. -/
def expectedConst (conv : Conversions) (diagType : DiagCodedType) (constValue : Text)
    (length : Nat) : Except DiagServiceError (List UInt8) := do
  let json ← strToJsonValue conv constValue diagType.baseDatatype
  let expected ← jsonValueToUdsData conv diagType none none json
  return expected.drop (expected.length - length)

def mapParamCodedConstFromUds (paramName : Text) (paramCtx : ParamContext conv) :
    Decoder conv Unit :=
  match paramCtx.parameter.specificData with
  | .codedConst codedConst => do
    let diagType ← ofExcept (codedConst.diagCodedType.getD
      (.error (.invalidDatabase "Expected DiagCodedType in CodedConst specific data")))
    let raw ← extractDiagDataContainer paramCtx.absBytePos paramCtx.parameter.bitPosition
      diagType none
    let constValue ← orFail codedConst.codedValue
      (.invalidDatabase "CodedConst has no coded value")
    let expected ← ofExcept (expectedConst conv diagType constValue raw.data.length)
    if raw.data ≠ expected then
      fail (.badPayload s!"{paramCtx.parameter.nameOrDefault}: Expected {expected}, got {raw.data}")
    else insertMapped paramName (.raw raw)
  | _ => fail (.invalidDatabase "Expected CodedConst specific data")

def reservedParamDataType (bitLength : Nat) : DataType :=
  if bitLength > 32 then .byteField else .uint32

def reservedCodedType (bitLength : Nat) : DiagCodedType :=
  ⟨reservedParamDataType bitLength, .standardLength ⟨bitLength, none, false⟩, true⟩

/-- The read position stays where it is. -/
def mapParamReservedFromUds (paramName : Text) (paramCtx : ParamContext conv) : Decoder conv Unit :=
  match paramCtx.parameter.specificData with
  | .reserved bitLength => do
    let (paramData, bitLen) ← ofExcept ((reservedCodedType bitLength).decode (← view)
      paramCtx.absBytePos paramCtx.parameter.bitPosition)
    insertMapped paramName (.raw ⟨paramData, bitLen, reservedParamDataType bitLength, none⟩)
  | _ => fail (.invalidDatabase "Expected Reserved specific data")

def mapTableKeyFromUds (paramName : Text) (paramCtx : ParamContext conv) : Decoder conv Unit :=
  match paramCtx.parameter.specificData with
  | .tableKey table => do
    let table ← orFail table (.invalidDatabase "TABLE-KEY has no TableDop reference")
    let keyDop ← orFail table.keyDop (.invalidDatabase "TableDop missing key_dop")
    match keyDop with
    | .normal normalDop => do
      let diagType ← ofExcept normalDop.diagCodedType
      let raw ← extractDiagDataContainer paramCtx.absBytePos
        paramCtx.parameter.bitPosition diagType normalDop.compuMethod
      insertMapped paramName (.raw raw)
    | .invalid error => fail error
    | _ => fail (.invalidDatabase "TABLE-KEY key_dop must be a NormalDOP")
  | _ => fail (.invalidDatabase "TABLE-KEY param missing TableKey specific data")

/-- The byte count that a length key gives to a field of `ParamLengthInfo`. -/
def lengthKeyByteCount (lengthKeyName shortName : Text) (data : MappedPayload conv) :
    Except DiagServiceError Nat :=
  match data lengthKeyName with
  | some (.raw raw) => do
    match ← raw.serializable with
    | .uint32 number => return number
    | .int32 number => return number.toNat
    | value => .error (.parameterConversionError
        (s!"LENGTH-KEY '{String.ofList lengthKeyName}' resolved to unsupported type: " ++
          conv.valueDebug value))
  | none =>
    .error (.invalidDatabase (s!"LENGTH-KEY '{String.ofList lengthKeyName}' not yet decoded " ++
      s!"when processing '{String.ofList shortName}'"))
  | _ => .error (.invalidDatabase
      s!"LENGTH-KEY '{String.ofList lengthKeyName}' has unexpected container type")

/-- The position of a parameter, or the read position where it has none. -/
def bytePosOrLastRead (paramCtx : ParamContext conv) : Decoder conv Nat := do
  if paramCtx.parameter.hasBytePosition then return paramCtx.absBytePos
  else lastReadBytePos

def mapParamLengthInfoDopFromUds (shortName : Text) (normalDop : NormalDop conv)
    (lengthKeyName : Text) (paramCtx : ParamContext conv) : Decoder conv Unit := do
  let byteCount ← ofExcept (lengthKeyByteCount lengthKeyName shortName (← mapped))
  let diagCodedType ← ofExcept normalDop.diagCodedType
  if byteCount = 0 then
    insertMapped shortName (.raw ⟨[], 0, diagCodedType.baseDatatype, normalDop.compuMethod⟩)
  else
    let bytePos ← bytePosOrLastRead paramCtx
    let (decodedBytes, bitLen) ←
      ofExcept (decodeWithRuntimeByteLength (← view) bytePos byteCount)
    setLastReadBytePos (bytePos + byteCount)
    insertMapped shortName
      (.raw ⟨decodedBytes, bitLen, diagCodedType.baseDatatype, normalDop.compuMethod⟩)

def mapNormalDopFromUds (shortName : Text) (normalDop : NormalDop conv)
    (paramCtx : ParamContext conv) : Decoder conv Unit := do
  let diagCodedType ← ofExcept normalDop.diagCodedType
  let compuMethod ← orFail normalDop.compuMethod
    (.invalidDatabase s!"param {String.ofList shortName} has no compu method")
  let bytePos ← bytePosOrLastRead paramCtx
  let raw ← extractDiagDataContainer bytePos paramCtx.parameter.bitPosition diagCodedType
    (some compuMethod)
  insertMapped shortName (.raw raw)

def mapDtcDopFromUds (paramName : Text) (dtcDop : DtcDop) (paramCtx : ParamContext conv) :
    Decoder conv Unit := do
  let codedType ← ofExcept dtcDop.diagCodedType
  let (dtcValue, _) ← ofExcept (codedType.decode (← view) paramCtx.absBytePos
    paramCtx.parameter.bitPosition)
  let dtcValue ← ofExcept (DiagDataValue.new codedType.baseDatatype dtcValue)
  let code ← ofExcept (dtcValue.toU32 conv)
  let codeText := String.ofList ((Nat.toDigits 16 code).map Char.toUpper)
  let record ← orFail (dtcDop.dtcs.bind fun dtcs => dtcs.find? fun dtc => dtc.troubleCode = code)
    (.badPayload s!"No DTC with code {codeText} found in DTC references")
  if paramCtx.absBytePos ≥ 2 ^ 32 then
    fail (.invalidDatabase "DTC byte position overflows u32")
  else
    insertMapped paramName (.dtcStruct
      { code
        displayCode := record.displayTroubleCode
        faultName := record.text.getD []
        severity := record.level.getD 0
        bitPos := paramCtx.parameter.bitPosition
        bitLen := dtcCodeBitLen
        bytePos := paramCtx.absBytePos })

def discriminatorValueFromOuterData (outerData : MappedPayload conv) (paramShortName : Text) :
    Except DiagServiceError Nat :=
  let name := String.ofList paramShortName
  match outerData paramShortName with
  | some (.dtcStruct dtc) => .ok dtc.code
  | some (.raw raw) => do
    match ← raw.serializable with
    | .uint32 number => return number
    | .int32 number =>
      if 0 ≤ number then return number.toNat
      else .error (.parameterConversionError
        s!"EnvDataDesc discriminator '{name}' is negative: {number}")
    | value => .error (.parameterConversionError
        (s!"EnvDataDesc discriminator '{name}' resolved to unexpected type: " ++
          conv.valueDebug value))
  | _ => .error (.invalidDatabase
      s!"EnvDataDesc selector param '{name}' not found in decoded data")

/-- The environment data for a discriminator: those that name it, else those that name
none. -/
def matchingEnvData (envDatas : List (DataOperation conv)) (discriminator : Nat) :
    Option (EnvDataDop conv) :=
  let candidates := envDatas.filterMap DataOperation.asEnvData
  (candidates.find? fun envData => envData.dtcValues.any fun values =>
      values.contains discriminator).or
    (candidates.find? fun envData => envData.dtcValues.all fun values => values.isEmpty)

def muxCaseStructFromSelectorValue (muxDop : MuxDop conv) (switchKeyValue : DiagDataValue) :
    Option (Case conv × Option (StructureDop conv)) :=
  (muxDop.cases.bind fun cases => cases.find? fun case =>
      switchKeyValue.withinLimits conv case.upperLimit case.lowerLimit).map fun case =>
    (case, case.structureDop.bind DataOperation.asStructure)

def tableKeyText (keyParamName : Text) : Container conv → Except DiagServiceError Text
  | .raw raw => do
    match ← raw.serializable with
    | .string text => return text
    | .uint32 number => return (toString number).toList
    | .int32 number => return (toString number).toList
    | value => .error (.parameterConversionError
        (s!"TABLE-KEY '{String.ofList keyParamName}' decoded to unexpected type: " ++
          conv.valueDebug value))
  | _ => .error (.parameterConversionError
      s!"TABLE-KEY '{String.ofList keyParamName}' expected RawContainer, got complex type")

def extractStructDopFromField (field : Option (DopField conv)) :
    Except DiagServiceError (StructureDop conv) :=
  match field.bind fun field => field.basicStructure.bind DataOperation.asStructure with
  | some structDop => .ok structDop
  | none => .error (.invalidDatabase "Field none or does not contain a struct")

section Nested

variable (service : DiagService conv)
  (mapParam : Text → ParamContext conv → Decoder conv Unit)

def mapStructFromUds (structDop : StructureDop conv) (outerContext : MappedPayload conv) :
    Decoder conv (MappedPayload conv) :=
  match structDop.params with
  | none => pure .empty
  | some params => onFreshData (forEach (fun param => do
    let shortName ← orFail param.shortName
      (.invalidDatabase "Unable to find short name for param")
    mapParam shortName ((ParamContext.new param 0).withOuterContext (some outerContext)))
    params)

def mapEndOfPduDopFromUds (shortName : Text) (endOfPduDop : EndOfPdu conv) : Decoder conv Unit := do
  let structDop ← ofExcept (extractStructDopFromField endOfPduDop.field)
  let data ← mapped
  match ← repeatToEnd (mapStructFromUds mapParam structDop data) with
  | none => return ()
  | some nestedStructs => insertMapped shortName (.repeatingStruct nestedStructs)

def mapStructureDopFromUds (shortName : Text) (structureDop : StructureDop conv)
    (structureParamCtx : ParamContext conv) : Decoder conv Unit := do
  let structureStart := structureParamCtx.absBytePos
  let length ← len
  if structureDop.byteSize.any fun byteSize => length < structureStart + byteSize then
    fail (.notEnoughData (structureStart + structureDop.byteSize.getD 0) length)
  else
    forEach (fun param => mapParam shortName (.new param structureStart))
      (structureDop.params.getD [])

def mapEnvDataDescItemFromUds (outerData : MappedPayload conv)
    (envDataDesc : EnvDataDescDop conv) (baseOffset : Nat) :
    Decoder conv (MappedPayload conv) := do
  let paramShortName ← orFail envDataDesc.paramShortName
    (.invalidDatabase "EnvDataDesc missing param_short_name")
  let discriminator ← ofExcept (discriminatorValueFromOuterData outerData paramShortName)
  let envDatas ← orFail envDataDesc.envDatas (.invalidDatabase "EnvDataDesc has no env_datas")
  match matchingEnvData envDatas discriminator with
  | none => return .empty
  | some envData => onFreshData (forEach (fun param => do
    let name ← orFail param.shortName (.invalidDatabase "EnvData param missing short_name")
    mapParam name ((ParamContext.new param baseOffset).withOuterContext (some outerData)))
    (envData.params.getD []))

def mapEnvDataDopFromUds (envDataDop : EnvDataDop conv) (paramCtx : ParamContext conv) :
    Decoder conv Unit :=
  forEach (fun param => do
    let name ← orFail param.shortName (.invalidDatabase "EnvData param missing short_name")
    mapParam name ((ParamContext.new param paramCtx.baseOffset).withOuterContext
      paramCtx.outerContext)) (envDataDop.params.getD [])

def mapStaticFieldDopFromUds (shortName : Text) (staticFieldDop : StaticFieldDop conv)
    (paramCtx : ParamContext conv) : Decoder conv Unit := do
  let itemByteSize := staticFieldDop.itemByteSize
  let staticFieldSize := saturatingMulU32 itemByteSize staticFieldDop.fixedNumberOfItems
  let length ← len
  if length < staticFieldSize then
    fail (.badPayload s!"Not enough data for static field: {length} < {staticFieldSize}")
  else
    let basicStructure ← ofExcept (extractStructDopFromField staticFieldDop.field)
    let data ← mapped
    let nestedStructs ← mapEach (fun i =>
      let start := paramCtx.absBytePos + saturatingMulU32 i itemByteSize
      inView start (start + itemByteSize) (mapStructFromUds mapParam basicStructure data))
      (List.range staticFieldDop.fixedNumberOfItems)
    insertMapped shortName (.repeatingStruct nestedStructs)

def muxSelector (switchKey : SwitchKey conv) (normalDop : NormalDop conv) (bytes : List UInt8) :
    Except DiagServiceError (DiagDataValue × RawContainer conv) := do
  let switchKeyDiagType ← normalDop.diagCodedType
  match dropChecked bytes switchKey.bytePosition with
  | none => .error (.badPayload "Not enough bytes to get switch key")
  | some keyBytes => do
    let (switchKeyData, bitLen) ← switchKeyDiagType.decode keyBytes switchKey.bytePosition
      (switchKey.bitPosition.getD 0)
    let switchKeyValue ← udsDataToSerializable conv switchKeyDiagType.baseDatatype
      normalDop.compuMethod switchKeyData
    return (switchKeyValue, ⟨switchKeyData, bitLen, switchKeyDiagType.baseDatatype, none⟩)

/-- The case of a selector value, or the default case, with its name. -/
def muxCase (muxDop : MuxDop conv) (switchKeyValue : DiagDataValue) (shortName : Text) :
    Except DiagServiceError (Text × Option (StructureDop conv)) :=
  match muxCaseStructFromSelectorValue muxDop switchKeyValue with
  | some (case, caseStruct) =>
    match case.shortName with
    | some name => .ok (name, caseStruct)
    | none => .error (.invalidDatabase "Mux case short name not found")
  | none =>
    match muxDop.defaultCase.bind fun default => default.shortName.map fun name =>
        (name, default.structureDop.bind DataOperation.asStructure) with
    | some found => .ok found
    | none => .error (.badPayload ("Switch key value not found in mux cases and no default " ++
        s!"case defined for MUX {String.ofList shortName}"))

def selectorName : Text := "Selector".toList

/-- A case structure that does not fit the payload counts as empty. -/
def mapMuxCaseFromUds (muxDop : MuxDop conv) (caseStructure : StructureDop conv) :
    Decoder conv (MappedPayload conv) := do
  let length ← len
  let data ← mapped
  inView muxDop.bytePosition length do
    setLastReadBytePos 0
    match ← swallow isNotEnoughData (mapStructFromUds mapParam caseStructure data) with
    | .ok caseData => return caseData
    | .error _ => return .empty

def mapMuxFromUds (shortName : Text) (muxDop : MuxDop conv) : Decoder conv Unit := do
  let switchKey ← orFail muxDop.switchKey (.invalidDatabase "Mux switch key not defined")
  let dop ← orFail switchKey.dop (.invalidDatabase "Mux switch key DoP is None")
  match dop with
  | .normal normalDop => do
    let (switchKeyValue, selector) ← ofExcept (muxSelector switchKey normalDop (← view))
    setBytesToSkip selector.data.length
    let muxData := MappedPayload.empty.insert selectorName (.raw selector)
    let (caseName, caseStructure) ← ofExcept (muxCase muxDop switchKeyValue shortName)
    match caseStructure with
    | none => insertMapped shortName (.struct muxData)
    | some caseStructure => do
      let caseData ← mapMuxCaseFromUds mapParam muxDop caseStructure
      insertMapped shortName (.struct (muxData.insert caseName (.struct caseData)))
  | .invalid error => fail error
  | _ => fail (.invalidDatabase "Mux switch key DoP is not a NormalDoP")

def mapMuxDopFromUds (shortName : Text) (muxDop : MuxDop conv) (paramCtx : ParamContext conv) :
    Decoder conv Unit := do
  let length ← len
  inView paramCtx.absBytePos length (mapMuxFromUds mapParam shortName muxDop)

def itemSizeSince (bytesToSkipBefore : Nat) : Decoder conv Nat := do
  let skipped ← bytesToSkip
  let lastRead ← lastReadBytePos
  return lastRead + (skipped - bytesToSkipBefore)

def structItemSize (structDop : StructureDop conv) (bytesToSkipBefore : Nat) : Decoder conv Nat :=
  match structDop.byteSize with
  | none => itemSizeSince bytesToSkipBefore
  | some byteSize => pure byteSize

def decodeDynamicLengthFieldItem (data : MappedPayload conv) (repeatedDop : DopField conv)
    (start : Nat) : Decoder conv (MappedPayload conv × Nat) := do
  let bytesToSkipBefore ← bytesToSkip
  let length ← len
  match repeatedDop.basicStructure.bind DataOperation.asStructure, repeatedDop.envDataDesc with
  | some structDop, _ => inView start length do
      setLastReadBytePos 0
      let structData ← mapStructFromUds mapParam structDop data
      let itemSize ← structItemSize structDop bytesToSkipBefore
      return (structData, itemSize)
  | none, some envDataDescDop => inView start length do
      setLastReadBytePos 0
      let envDataDesc ← orFail envDataDescDop.asEnvDataDesc
        (.invalidDatabase "DynamicLengthField env_data_desc DOP is not EnvDataDesc type")
      let itemData ← mapEnvDataDescItemFromUds mapParam data envDataDesc 0
      let itemSize ← itemSizeSince bytesToSkipBefore
      return (itemData, itemSize)
  | none, none => do
    inView start length (setLastReadBytePos 0)
    fail (.invalidDatabase "DynamicLengthField repeated_dop is neither Structure nor EnvDataDesc")

/-- `for _ in 0..num_items`, ended by an item for which the data do not suffice.  With the
items comes the end of the last one. -/
def dynamicLengthFieldItems (data : MappedPayload conv) (repeatedDop : DopField conv) :
    Nat → Nat → Decoder conv (List (MappedPayload conv) × Nat)
  | 0, start => pure ([], start)
  | numItems + 1, start => do
    match ← swallow isNotEnoughData
        (decodeDynamicLengthFieldItem mapParam data repeatedDop start) with
    | .ok (itemData, itemSize) => do
      let (items, stop) ← dynamicLengthFieldItems data repeatedDop numItems (start + itemSize)
      return (itemData :: items, stop)
    | .error _ => return ([], start)

def numItemsData (determineNumItems : DetermineNumberOfItems conv) (paramAbsBytePos : Nat)
    (bytes : List UInt8) : Except DiagServiceError (List UInt8) := do
  match determineNumItems.dop with
  | none => .error (.invalidDatabase "DynamicLengthField determine_number_of_items DoP is None")
  | some dop =>
    match dop.asNormalDop with
    | none => .error (.invalidDatabase "DynamicLengthField num_items DoP is not a NormalDoP")
    | some numItemsDop => do
      let numItemsDiagType ← numItemsDop.diagCodedType
      match dropChecked bytes paramAbsBytePos with
      | none =>
        .error (.badPayload "Not enough bytes to get DynamicLengthField item count")
      | some bytes => do
        let (data, _) ← numItemsDiagType.decode bytes determineNumItems.bytePosition
          determineNumItems.bitPosition
        return data

def mapDynamicLengthFieldFromUds (shortName : Text) (dop : DynamicLengthDop conv)
    (paramCtx : ParamContext conv) : Decoder conv Unit := do
  let determineNumItems ← orFail dop.determineNumberOfItems
    (.invalidDatabase "DynamicLengthField determine_number_of_items_of_items is None")
  let paramAbsBytePos := if paramCtx.parameter.hasBytePosition then paramCtx.absBytePos
    else paramCtx.baseOffset
  let countData ← ofExcept (numItemsData determineNumItems paramAbsBytePos (← view))
  let numItemsDiagVal ← ofExcept (udsDataToSerializable conv .uint32 none countData)
  let repeatedDop ← orFail dop.field (.invalidDatabase "DynamicLengthField field is None")
  let numItems ← ofExcept (numItemsDiagVal.toU32 conv)
  setLastReadBytePos (determineNumItems.bytePosition + countData.length)
  let itemsAbsStart := paramAbsBytePos + dop.offset
  let length ← len
  let data ← mapped
  let (repeatedData, stop) ← inView itemsAbsStart length
    (dynamicLengthFieldItems mapParam data repeatedDop numItems 0)
  setLastReadBytePos (itemsAbsStart + stop)
  insertMapped shortName (.repeatingStruct repeatedData)

def mapDopFromUds (dop : DataOperation conv) (paramCtx : ParamContext conv) :
    Decoder conv Unit := do
  let shortName ← orFail paramCtx.parameter.shortName
    (.invalidDatabase "Unable to find short name for param in Strings")
  match dop with
  | .normal normalDop => do
    let diagCodedType ← ofExcept normalDop.diagCodedType
    match diagCodedType.lengthKeyName with
    | some lengthKeyName =>
      mapParamLengthInfoDopFromUds shortName normalDop lengthKeyName.toList paramCtx
    | none => mapNormalDopFromUds shortName normalDop paramCtx
  | .endOfPdu endOfPduDop => mapEndOfPduDopFromUds mapParam shortName endOfPduDop
  | .struct structureDop => mapStructureDopFromUds mapParam shortName structureDop paramCtx
  | .dtc dtcDop => mapDtcDopFromUds shortName dtcDop paramCtx
  | .envDataDesc envDataDescDop => do
    let data ← mapped
    let item ← mapEnvDataDescItemFromUds mapParam (paramCtx.outerContext.getD data)
      envDataDescDop paramCtx.absBytePos
    extendMapped item
  | .envData envDataDop => mapEnvDataDopFromUds mapParam envDataDop paramCtx
  | .staticField staticFieldDop =>
    mapStaticFieldDopFromUds mapParam shortName staticFieldDop paramCtx
  | .mux muxDop => mapMuxDopFromUds mapParam shortName muxDop paramCtx
  | .dynamicLengthField dop => mapDynamicLengthFieldFromUds mapParam shortName dop paramCtx
  | .invalid error => fail error

def mapParamValueFromUds (paramCtx : ParamContext conv) : Decoder conv Unit :=
  match paramCtx.parameter.specificData with
  | .value _ dop => do
    let dop ← orFail dop (.invalidDatabase "Value DoP is None")
    mapDopFromUds mapParam dop paramCtx
  | _ => fail (.invalidDatabase "Expected Value specific data")

def mapParamLengthKeyFromUds (paramCtx : ParamContext conv) : Decoder conv Unit :=
  match paramCtx.parameter.specificData with
  | .lengthKeyRef dop => do
    let dop ← orFail dop (.invalidDatabase "LengthKey DoP is None")
    mapDopFromUds mapParam dop paramCtx
  | _ => fail (.invalidDatabase "Expected LengthKeyRef specific data")

def matchingRequestParam (paramCtx : ParamContext conv) (requestBytePos : Nat) :
    Except DiagServiceError (Parameter conv) :=
  match service.request with
  | none => .error (.invalidDatabase "Expected request for service")
  | some request =>
    match request.params.bind fun params =>
        params.find? fun param => param.bytePosition = requestBytePos with
    | some param => .ok param
    | none => .error (.udsLookupError
        s!"No matching request parameter found for {paramCtx.parameter.nameOrDefault}")

def mapParamMatchingRequestFromUds (paramName : Text) (paramCtx : ParamContext conv) :
    Decoder conv Unit :=
  match paramCtx.parameter.specificData with
  | .matchingRequestParam requestBytePos => do
    if requestBytePos < 0 then
      -- The request is looked up before its position is converted.
      fail (if service.request.isNone then .invalidDatabase "Expected request for service"
        else .invalidDatabase ("Matching request param byte position conversion error: " ++
          "out of range integral type conversion attempted,"))
    else
      let param ← ofExcept (matchingRequestParam service paramCtx requestBytePos.toNat)
      if requestBytePos.toNat < paramCtx.parameter.bytePosition then
        let length ← len
        inView paramCtx.absBytePos length (mapParam paramName (.new param 0))
      else mapParam paramName (.new param 0)
  | _ => fail (.invalidDatabase "Expected MatchingRequestParam specific data")

def mapParamPhysConstFromUds (paramName : Text) (paramCtx : ParamContext conv) :
    Decoder conv Unit :=
  match paramCtx.parameter.specificData with
  | .physConst _ dop => do
    let dop ← orFail dop (.invalidDatabase "PhysConst has no DOP")
    match dop with
    | .normal normalDop => do
      let diagType ← ofExcept normalDop.diagCodedType
      let raw ← extractDiagDataContainer paramCtx.absBytePos
        paramCtx.parameter.bitPosition diagType none
      insertMapped paramName (.raw raw)
    | .struct _ | .endOfPdu _ | .staticField _ | .mux _ | .dynamicLengthField _ =>
      mapDopFromUds mapParam dop paramCtx
    | .invalid error => fail error
    | _ => fail (.invalidDatabase
        s!"PhysConst has unsupported DOP variant: {dop.variantName.quote}")
  | _ => fail (.invalidDatabase "Expected PhysConst specific data")

def selectedTableRow (tableKey : Option (Parameter conv)) (data : MappedPayload conv) :
    Except DiagServiceError (TableRow conv) := do
  match tableKey with
  | none => .error (.invalidDatabase "TABLE-STRUCT missing table_key back-reference")
  | some tableKeyParam =>
    match tableKeyParam.shortName with
    | none => .error (.invalidDatabase
        "TABLE-KEY param referenced by TABLE-STRUCT has no short_name")
    | some keyParamName =>
      match data keyParamName with
      | none => .error (.invalidRequest ("TABLE-STRUCT references TABLE-KEY " ++
          s!"'{String.ofList keyParamName}' but it was not decoded"))
      | some keyContainer => do
        let keyText ← tableKeyText keyParamName keyContainer
        match tableKeyParam.specificData with
        | .tableKey none =>
          .error (.invalidDatabase "TABLE-KEY has no TableDop reference")
        | .tableKey (some tableDop) =>
          match tableDop.rows with
          | none => .error (.invalidDatabase "TableDop missing rows")
          | some rows =>
            match rows.find? fun row =>
                row.shortName = some keyText ∨ row.key = some keyText with
            | some row => .ok row
            | none => .error (.invalidRequest
                (s!"TABLE-KEY value '{String.ofList keyText}' does not match any " ++ "table row"))
        | _ => .error (.invalidDatabase "TABLE-KEY param missing TableKey specific data")

def mapTableStructFromUds (paramName : Text) (paramCtx : ParamContext conv) : Decoder conv Unit :=
  match paramCtx.parameter.specificData with
  | .tableStruct tableKey => do
    let data ← mapped
    let row ← ofExcept (selectedTableRow tableKey data)
    let rowName := row.shortName.getD []
    match row.structureDop with
    | none => insertMapped paramName (.struct MappedPayload.empty)
    | some (.struct structDop) => do
      let length ← len
      let structData ← inView paramCtx.absBytePos length do
        setLastReadBytePos 0
        mapStructFromUds mapParam structDop data
      insertMapped paramName (.struct (MappedPayload.empty.insert rowName (.struct structData)))
    | some (.invalid error) => fail error
    | some _ => fail (.invalidDatabase (s!"TABLE-STRUCT row '{String.ofList rowName}' " ++
        "structure DOP is not a Structure variant"))
  | _ => fail (.invalidDatabase "TABLE-STRUCT param missing TableStruct specific data")

/-- The kinds without a decoder are only logged. -/
def mapParamKindFromUds (paramName : Text) (paramCtx : ParamContext conv) : Decoder conv Unit := do
  match ← ofExcept paramCtx.parameter.paramType with
  | .codedConst => mapParamCodedConstFromUds paramName paramCtx
  | .matchingRequestParam => mapParamMatchingRequestFromUds service mapParam paramName paramCtx
  | .value => mapParamValueFromUds mapParam paramCtx
  | .reserved => mapParamReservedFromUds paramName paramCtx
  | .lengthKey => mapParamLengthKeyFromUds mapParam paramCtx
  | .physConst => mapParamPhysConstFromUds mapParam paramName paramCtx
  | .tableKey => mapTableKeyFromUds paramName paramCtx
  | .tableStruct => mapTableStructFromUds mapParam paramName paramCtx
  | .tableEntry | .dynamic | .nrcConst | .system => return ()

end Nested

/-- `map_param_from_uds`, nested at most `depth` deep: a deeper nesting exhausts the
stack. -/
def mapParamFromUds (service : DiagService conv) :
    Nat → Text → ParamContext conv → Decoder conv Unit
  | 0, _, _ => fail (.panicked "stack overflow")
  | depth + 1, paramName, paramCtx =>
    mapParamKindFromUds service (mapParamFromUds service depth) paramName paramCtx

structure FieldParseError where
  path : String
  value : String
  details : String
  deriving DecidableEq, Repr

section Message

variable (service : DiagService conv) (depth : Nat)

/-- A `DataError` of a parameter is noted and the next parameter is decoded. -/
def convertParam (shortName : Text) (param : Parameter conv) :
    Decoder conv (Option FieldParseError) := do
  match ← swallow isDataError (mapParamFromUds service depth shortName (.new param 0)) with
  | .error (.dataError value details) =>
    return some ⟨s!"/{String.ofList shortName}", value, details⟩
  | _ => return none

structure Semantics where
  data : Text
  serviceIdRq : Text
  deriving DecidableEq, Repr

def convertResponseParam (semantics : Semantics) (param : Parameter conv) :
    Decoder conv (Option FieldParseError) := do
  if param.semantic.any fun semantic =>
      semantic ≠ semantics.data ∧ semantic ≠ semantics.serviceIdRq then
    return none
  else
    let shortName ← orFail param.shortName
      (.invalidDatabase "Unable to find short name for param")
    if param.hasBytePosition then
      setLastReadBytePos param.bytePosition
    convertParam service depth shortName param

/-- The parameter loop of `convert_from_uds`. -/
def convertFromUds (semantics : Semantics) (params : List (Parameter conv)) :
    Decoder conv (List FieldParseError) := do
  let errors ← mapEach (convertResponseParam service depth semantics)
    (params.insertionSort fun a b => a.positionLe b)
  return errors.reduceOption

def convertRequestParam (param : Parameter conv) : Decoder conv (Option FieldParseError) := do
  let shortName ← orFail param.shortName
    (.invalidDatabase "Unable to find short name for request param")
  let lastRead ← lastReadBytePos
  setLastReadBytePos (if param.hasBytePosition then param.bytePosition else lastRead)
  convertParam service depth shortName param

/-- The parameter loop of `convert_request_from_uds`. -/
def convertRequestParams (params : List (Parameter conv)) :
    Decoder conv (List FieldParseError) := do
  let errors ← mapEach (convertRequestParam service depth) params
  return errors.reduceOption

end Message

/-- `MappedResponseData` -/
structure MappedResponse (conv : Conversions) where
  data : MappedPayload conv
  errors : List FieldParseError

def DecodeState.new (payload : List UInt8) : DecodeState conv := ⟨.new payload, .empty, []⟩

/-- `convert_request_from_uds` with `map_to_json`. -/
def convertRequestFromUds (service : DiagService conv) (depth : Nat) (payload : List UInt8) :
    Except DiagServiceError (MappedResponse conv) :=
  match service.request with
  | none => .error (.requestNotSupported "Service is not supported")
  | some request =>
    match convertRequestParams service depth (request.params.getD []) (.new payload) with
    | .ok errors state => .ok ⟨state.data, errors⟩
    | .error failure _ => .error failure.error

end DiagnosticAdapter.Kernel
