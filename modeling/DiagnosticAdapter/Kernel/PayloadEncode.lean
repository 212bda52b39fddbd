import DiagnosticAdapter.Kernel.PayloadDecode

/-!
# Encoding a request

`create_uds_payload` from the parameters of the request on: the constants are
written first, then the values, in the order of their positions.  An error drops the
payload, so the encoders return the payload they have written.
-/

namespace DiagnosticAdapter.Kernel

open Bits Codec

inductive UdsPayloadData where
  | raw (bytes : List UInt8)
  | parameterMap (values : ParameterMap)

section Values

variable (conv : Conversions)

def tryParseStrAsJsonNumber (value : Text) : Except DiagServiceError JsonValue :=
  let failure := .parameterConversionError
    s!"Failed to parse string '{String.ofList value}' as a number"
  match parseSigned 64 10 value with
  | .ok number => .ok (.number (.ofInt number))
  | .error _ =>
    match parseUnsigned 64 10 value with
    | .ok number => .ok (.number (.posInt number))
    | .error _ =>
      match conv.parseF64 value with
      | none => .error failure
      | some bytes => if conv.isFinite bytes then .ok (.number (.float bytes)) else .error failure

def physValueStrToJson (value : Text) : JsonValue :=
  match tryParseStrAsJsonNumber conv value with
  | .ok number => number
  | .error _ => .string value

end Values

variable {conv : Conversions}

/-- Only a normal data operation has a default. -/
def resolveRequiredParam (providedValue : Option JsonValue) (dop : DataOperation conv)
    (defaultValue : Option Text) (paramName : String) : Except DiagServiceError JsonValue :=
  match providedValue with
  | some value => .ok value
  | none =>
    match dop with
    | .normal _ =>
      match defaultValue with
      | none => .error (.invalidRequest s!"Required parameter '{paramName}' missing")
      | some text => .ok (physValueStrToJson conv text)
    | .invalid error => .error error
    | _ => .error (.invalidRequest s!"Required parameter '{paramName}' missing")

def constJsonValue (conv : Conversions) (codedConstValue : Text) (dataType : DataType) :
    Except DiagServiceError JsonValue :=
  match tryParseStrAsJsonNumber conv codedConstValue with
  | .ok number => .ok number
  | .error _ => strToJsonValue conv codedConstValue dataType

def encodeCodedConst (param : Parameter conv) (codedConst : CodedConst) (uds : List UInt8) :
    Except DiagServiceError (List UInt8) :=
  match codedConst.diagCodedType with
  | some (.ok diagType) =>
    match codedConst.codedValue with
    | none =>
      .error (.invalidDatabase s!"Param '{param.nameOrDefault}' is missing coded value")
    | some codedConstValue => do
      let json ← constJsonValue conv codedConstValue diagType.baseDatatype
      let udsVal ← jsonValueToUdsData conv diagType none none json
      diagType.encode udsVal uds param.bytePosition param.bitPosition
  | _ => .error (.invalidDatabase s!"Param '{param.nameOrDefault}' is missing DiagCodedType")

def processCodedConstants (mappedParams : List (Parameter conv)) :
    Except DiagServiceError (List UInt8) :=
  mappedParams.foldlM (fun uds param =>
    match param.specificData with
    | .codedConst codedConst => encodeCodedConst param codedConst uds
    | _ => .ok uds) []

def mapNormalDopToUds (normalDop : NormalDop conv) (value : JsonValue) (payload : List UInt8)
    (bytePos bitPos : Nat) : Except DiagServiceError (List UInt8) := do
  let diagType ← normalDop.diagCodedType
  let udsData ← jsonValueToUdsData conv diagType normalDop.compuMethod normalDop.physicalType
    value
  diagType.encode udsData payload bytePos bitPos

/-- The position is that of the parameter alone. -/
def mapReservedParamToUds (param : Parameter conv) (payload : List UInt8) :
    Except DiagServiceError (List UInt8) :=
  match param.specificData with
  | .reserved bitLength =>
    (reservedCodedType bitLength).encode (List.replicate bitLength 0) payload
      param.bytePosition param.bitPosition
  | _ => .error (.invalidDatabase "Expected Reserved specific data")

def mapParamLengthKeyToUds (param : Parameter conv) (value : Option JsonValue)
    (payload : List UInt8) (parentBytePos : Nat) : Except DiagServiceError (List UInt8) :=
  match param.specificData with
  | .lengthKeyRef none => .error (.invalidDatabase "LengthKey DoP is None")
  | .lengthKeyRef (some dop) =>
    match value with
    | none => .error (.invalidRequest
        s!"Required LengthKey parameter '{param.nameOrDefault}' missing")
    | some value =>
      match dop with
      | .normal normalDop => mapNormalDopToUds normalDop value payload
          (parentBytePos + param.bytePosition) param.bitPosition
      | .invalid error => .error error
      | _ => .error (.parameterConversionError
          s!"Unsupported DOP variant for LengthKey parameter '{param.nameOrDefault}'")
  | _ => .error (.invalidDatabase "Expected LengthKeyRef specific data")

def TableRow.isNamed (row : TableRow conv) (keyText : Text) : Bool :=
  row.shortName = some keyText ∨ row.key = some keyText

def mapTableKeyToUds (param : Parameter conv) (value : Option JsonValue)
    (payload : List UInt8) (parentBytePos : Nat) : Except DiagServiceError (List UInt8) :=
  match value with
  | none => .error (.invalidRequest
      s!"Required TABLE-KEY parameter '{param.nameOrDefault}' missing")
  | some value =>
    match value.asStr with
    | none => .error (.invalidRequest (s!"TABLE-KEY parameter '{param.nameOrDefault}' must " ++
        "be a string, got: " ++ conv.jsonDisplay value))
    | some keyText =>
      match param.specificData with
      | .tableKey none => .error (.invalidDatabase "TABLE-KEY has no TableDop reference")
      | .tableKey (some tableDop) =>
        match tableDop.keyDop, tableDop.rows with
        | none, _ => .error (.invalidDatabase "TableDop missing key_dop")
        | some _, none => .error (.invalidDatabase "TableDop missing rows")
        | some keyDop, some rows =>
          let available := (rows.filterMap TableRow.shortName).map fun name =>
            (String.ofList name).quote
          if !rows.any fun row => row.isNamed keyText then
            .error (.invalidRequest
              (s!"TABLE-KEY value '{String.ofList keyText}' does not match any row. " ++
                s!"Available: {available}"))
          else
            match keyDop with
            | .normal normalDop => mapNormalDopToUds normalDop value payload
                (parentBytePos + param.bytePosition) param.bitPosition
            | .invalid error => .error error
            | _ => .error (.invalidDatabase "TABLE-KEY key_dop must be a NormalDOP")
      | _ => .error (.invalidDatabase "TABLE-KEY param missing TableKey specific data")

def rejectUnexpectedKeys (strict : Bool) (expected provided : List Text) :
    Except DiagServiceError Unit :=
  let unexpected := provided.filter fun key => !expected.contains key
  let names := unexpected.map fun key => (String.ofList key).quote
  if strict ∧ unexpected ≠ [] then
    .error (.badPayload s!"Unexpected parameters in request: {names}")
  else .ok ()

section Nested

/- `strict` is `strict_parameter_validation`, `mapParam` is `map_param_to_uds`. -/
variable (strict : Bool)
  (mapParam : Parameter conv → Option JsonValue → List UInt8 → Nat → Option ParameterMap →
    Except DiagServiceError (List UInt8))

def mapStructToUds (structDop : StructureDop conv) (structBytePos : Nat) (value : JsonValue)
    (payload : List UInt8) : Except DiagServiceError (List UInt8) :=
  match value.asObject with
  | none => .error (.invalidRequest
      ("Expected value to be object type, but it was: " ++ conv.jsonDebug value))
  | some members => do
    let params := structDop.params.getD []
    rejectUnexpectedKeys strict (params.filterMap Parameter.shortName) (members.map Prod.fst)
    params.foldlM (fun payload param =>
      match param.shortName with
      | none => .error (.invalidDatabase "Unable to find short name for param")
      | some shortName =>
        mapParam param (members.lookup shortName) payload structBytePos none) payload

/-- Whether the number of items is one the field allows. -/
def EndOfPdu.acceptsCount (dop : EndOfPdu conv) (count : Nat) : Bool :=
  ¬(count < dop.minNumberOfItems.getD 0 ∨
    dop.maxNumberOfItems.any fun max => count > 2 ^ 32 - 1 ∨ count % 2 ^ 32 > max)

/-- Every item is appended to the one before. -/
def mapEndOfPduToUds (endOfPduDop : EndOfPdu conv) (value : JsonValue) (payload : List UInt8)
    (fieldStartPos : Nat) : Except DiagServiceError (List UInt8) :=
  match value.asArray with
  | none => .error (.invalidRequest "Expected array value")
  | some items =>
    if !endOfPduDop.acceptsCount items.length then
      .error (.invalidRequest "EndOfPdu expected different amount of items")
    else
      match endOfPduDop.field.bind DopField.basicStructure with
      | none => .error (.invalidDatabase "EndOfPdu has no basic structure")
      | some dop =>
        match dop.asStructure with
        | none => .error (.invalidDatabase "EndOfPdu basic structure lookup failed")
        | some structDop =>
          items.foldlM (fun payload item =>
            mapStructToUds strict mapParam structDop (max payload.length fieldStartPos)
              item payload) payload

def muxSwitchKeyToUds (muxDop : MuxDop conv) (switchKey : SwitchKey conv)
    (normalDop : NormalDop conv) (selector : JsonValue) :
    Except DiagServiceError (List UInt8 × Option (Text × Option (StructureDop conv))) := do
  let switchKeyDiagType ← normalDop.diagCodedType
  let switchKeyValue ← jsonValueToUdsData conv switchKeyDiagType normalDop.compuMethod
    normalDop.physicalType selector
  let muxPayload ← switchKeyDiagType.encode switchKeyValue [] switchKey.bytePosition
    (switchKey.bitPosition.getD 0)
  let selector ← udsDataToSerializable conv switchKeyDiagType.baseDatatype none muxPayload
  return (muxPayload, (muxCaseStructFromSelectorValue muxDop selector).bind
    fun (case, caseStruct) => case.shortName.map fun name => (name, caseStruct))

/-- The default case counts only with a structure. -/
def MuxDop.defaultCaseToUds (muxDop : MuxDop conv) : Option (Text × Option (StructureDop conv)) :=
  muxDop.defaultCase.bind fun default => default.shortName.bind fun name =>
    (default.structureDop.bind DataOperation.asStructure).map fun structDop =>
      (name, some structDop)

def mapMuxToUds (muxDop : MuxDop conv) (value : JsonValue) (udsPayload : List UInt8) :
    Except DiagServiceError (List UInt8) :=
  match value.asObject with
  | none => .error (.invalidRequest
      ("Expected value to be object type, but it was: " ++ conv.jsonDebug value))
  | some members =>
    match muxDop.switchKey with
    | none => .error (.invalidDatabase "Mux switch key is None")
    | some switchKey =>
      match switchKey.dop with
      | none => .error (.invalidDatabase "Mux switch key DoP is None")
      | some (.normal normalDop) => do
        let (muxPayload, selectedCase) ← muxSwitchKeyToUds muxDop switchKey normalDop
          ((members.lookup selectorName).getD (.number (.posInt 0)))
        match selectedCase.or muxDop.defaultCaseToUds with
        | none => .error (.invalidRequest "Cannot find selector value or default case")
        | some (caseName, struct) => do
          rejectUnexpectedKeys strict [selectorName, caseName] (members.map Prod.fst)
          match struct with
          | none => return udsPayload ++ muxPayload
          | some struct =>
            match members.lookup caseName with
            | none => .error (.badPayload
                s!"Mux case {String.ofList caseName} value not found in json")
            | some structData => do
              let structPayload ← mapStructToUds strict mapParam struct 0 structData []
              return udsPayload ++ (muxPayload ++ structPayload)
      | some (.invalid error) => .error error
      | some _ => .error (.invalidDatabase "Mux switch key DoP is not a NormalDoP")

def mapParamValueToUds (param : Parameter conv) (value : Option JsonValue)
    (payload : List UInt8) (parentBytePos : Nat) : Except DiagServiceError (List UInt8) :=
  match param.specificData with
  | .value _ none => .error (.invalidDatabase "DoP lookup failed")
  | .value physicalDefaultValue (some dop) => do
    let value ← resolveRequiredParam value dop physicalDefaultValue param.nameOrDefault
    match dop with
    | .normal normalDop =>
      mapNormalDopToUds normalDop value payload (parentBytePos + param.bytePosition)
        param.bitPosition
    | .endOfPdu endOfPduDop =>
      mapEndOfPduToUds strict mapParam endOfPduDop value payload
        (param.bytePosition + parentBytePos)
    | .struct structureDop =>
      mapStructToUds strict mapParam structureDop (param.bytePosition + parentBytePos) value payload
    | .staticField _ =>
      .error (.parameterConversionError "Mapping StaticField DoP to UDS payload not implemented")
    | .mux muxDop => mapMuxToUds strict mapParam muxDop value payload
    | .envDataDesc _ | .envData _ | .dtc _ =>
      .error (.invalidDatabase
        ("EnvData(Desc) and DTC DoPs cannot be mapped via parameters to request, but " ++
          "handled via a dedicated 'faults' endpoint"))
    | .dynamicLengthField _ =>
      .error (.parameterConversionError
        "Mapping DynamicLengthField DoP to UDS payload not implemented")
    | .invalid error => .error error
  | _ => .error (.invalidDatabase "Expected Value specific data")

def mapPhysConstParamToUds (param : Parameter conv) (payload : List UInt8)
    (paramData : Option JsonValue) : Except DiagServiceError (List UInt8) :=
  match param.specificData with
  | .physConst _ none => .error (.invalidDatabase "PhysConst has no DOP")
  | .physConst physConstantValue (some dop) => do
    let value ← resolveRequiredParam paramData dop physConstantValue param.nameOrDefault
    match dop with
    | .normal normalDop =>
      mapNormalDopToUds normalDop value payload param.bytePosition param.bitPosition
    | .struct structureDop =>
      mapStructToUds strict mapParam structureDop param.bytePosition value payload
    | .mux muxDop => mapMuxToUds strict mapParam muxDop value payload
    | .invalid error => .error error
    | _ =>
      .error (.invalidDatabase s!"PhysConst has unsupported DOP variant: {dop.variantName.quote}")
  | _ => .error (.invalidDatabase "Expected PhysConst specific data")

def selectedTableRowToUds (tableKey : Option (Parameter conv))
    (siblingValues : Option ParameterMap) : Except DiagServiceError (TableRow conv) :=
  match tableKey with
  | none => .error (.invalidDatabase "TABLE-STRUCT missing table_key back-reference")
  | some tableKeyParam =>
    match tableKeyParam.shortName with
    | none => .error (.invalidDatabase
        "TABLE-KEY param referenced by TABLE-STRUCT has no short_name")
    | some keyParamName =>
      match siblingValues with
      | none => .error (.invalidRequest ("TABLE-STRUCT requires sibling parameter context " ++
          "to resolve the TABLE-KEY value"))
      | some siblingValues =>
        match siblingValues.lookup keyParamName with
        | none => .error (.invalidRequest ("TABLE-STRUCT references TABLE-KEY " ++
            s!"'{String.ofList keyParamName}' but it is not in the request parameters"))
        | some keyValue =>
          match keyValue.asStr with
          | none => .error (.invalidRequest
              (s!"TABLE-KEY '{String.ofList keyParamName}' must be a string, got: " ++
                conv.jsonDisplay keyValue))
          | some keyText =>
            match tableKeyParam.specificData with
            | .tableKey none =>
              .error (.invalidDatabase "TABLE-KEY has no TableDop reference")
            | .tableKey (some tableDop) =>
              match tableDop.rows with
              | none => .error (.invalidDatabase "TableDop missing rows")
              | some rows =>
                match rows.find? fun row => row.isNamed keyText with
                | some row => .ok row
                | none => .error (.invalidRequest
                    (s!"TABLE-KEY value '{String.ofList keyText}' does not match " ++
                      "any table row"))
            | _ => .error (.invalidDatabase
                "TABLE-KEY param missing TableKey specific data")

def mapTableStructToUds (param : Parameter conv) (value : Option JsonValue)
    (payload : List UInt8) (parentBytePos : Nat) (siblingValues : Option ParameterMap) :
    Except DiagServiceError (List UInt8) :=
  match param.specificData with
  | .tableStruct tableKey => do
    let row ← selectedTableRowToUds tableKey siblingValues
    let rowName := row.shortName.getD []
    match row.structureDop with
    | none =>
      match value with
      | some value =>
        if value.asObject.any List.isEmpty then return payload
        else .error (.invalidRequest (s!"TABLE-STRUCT for row '{String.ofList rowName}' " ++
          "has no structure, but non-empty data was provided: " ++ conv.jsonDisplay value))
      | none => return payload
    | some (.struct structDop) =>
      let structValue := (value.bind JsonValue.asObject).bind fun members =>
        members.lookup rowName
      mapStructToUds strict mapParam structDop (parentBytePos + param.bytePosition)
        (structValue.getD (.object [])) payload
    | some (.invalid error) => .error error
    | some _ =>
      .error (.invalidDatabase (s!"TABLE-STRUCT row '{String.ofList rowName}' " ++
        "structure DOP is not a Structure variant"))
  | _ => .error (.invalidDatabase "TABLE-STRUCT param missing TableStruct specific data")

def mapParamKindToUds (param : Parameter conv) (value : Option JsonValue)
    (payload : List UInt8) (parentBytePos : Nat) (siblingValues : Option ParameterMap) :
    Except DiagServiceError (List UInt8) := do
  let notImplemented (kind : String) := DiagServiceError.parameterConversionError
    s!"Mapping {kind} DoP to UDS payload not implemented"
  match ← param.paramType with
  | .codedConst => return payload
  | .matchingRequestParam =>
    .error (.invalidRequest "MatchingRequestParam only supported for responses")
  | .value => mapParamValueToUds strict mapParam param value payload parentBytePos
  | .reserved => mapReservedParamToUds param payload
  | .tableStruct =>
    mapTableStructToUds strict mapParam param value payload parentBytePos siblingValues
  | .dynamic => .error (notImplemented "Dynamic")
  | .lengthKey => mapParamLengthKeyToUds param value payload parentBytePos
  | .nrcConst => .error (notImplemented "NrcConst")
  | .physConst => mapPhysConstParamToUds strict mapParam param payload value
  | .system => .error (notImplemented "System")
  | .tableEntry => .error (notImplemented "TableEntry")
  | .tableKey => mapTableKeyToUds param value payload parentBytePos

end Nested

/-- `map_param_to_uds`, nested at most `depth` deep. -/
def mapParamToUds (strict : Bool) : Nat → Parameter conv → Option JsonValue → List UInt8 → Nat →
    Option ParameterMap → Except DiagServiceError (List UInt8)
  | 0, _, _, _, _, _ => .error (.panicked "stack overflow")
  | depth + 1, param, value, payload, parentBytePos, siblingValues =>
    mapParamKindToUds strict (mapParamToUds strict depth) param value payload parentBytePos
      siblingValues

section Request

variable (strict : Bool) (depth : Nat)

/-- One round of `process_parameter_map`. -/
def processParameter (jsonValues : ParameterMap) (uds : List UInt8) (param : Parameter conv) :
    Except DiagServiceError (List UInt8) :=
  let effectiveBytePos := if param.hasBytePosition then param.bytePosition else uds.length
  let uds := uds ++ List.replicate (effectiveBytePos - uds.length) 0
  match param.shortName with
  | none => .error (.invalidDatabase
      s!"Unable to find short name for param: {param.nameOrDefault}")
  | some shortName =>
    let parentBytePos := if param.hasBytePosition then 0 else effectiveBytePos
    mapParamToUds strict depth param (jsonValues.lookup shortName) uds parentBytePos
      (some jsonValues)

def processParameterMap (mappedParams : List (Parameter conv)) (jsonValues : ParameterMap)
    (uds : List UInt8) : Except DiagServiceError (List UInt8) := do
  rejectUnexpectedKeys strict (mappedParams.filterMap Parameter.shortName) jsonValues.keys
  mappedParams.foldlM (processParameter strict depth jsonValues) uds

def createUdsPayload (params : List (Parameter conv)) (data : Option UdsPayloadData) :
    Except DiagServiceError (List UInt8) := do
  let mappedParams := params.insertionSort fun a b => a.positionLe b
  let uds ← processCodedConstants mappedParams
  match data.getD (.parameterMap ∅) with
  | .raw bytes => return uds ++ bytes
  | .parameterMap jsonValues => processParameterMap strict depth mappedParams jsonValues uds

end Request

end DiagnosticAdapter.Kernel
