import DiagnosticAdapter.Kernel.Text
import DiagnosticAdapter.Codec.DiagCodedType

/-!
# From JSON values to coded bytes

`json_value_to_uds_data` of `operations.rs`.  A floating-point number is given by
its big-endian bytes.  How such numbers are read and converted, the compu
methods other than `Identical`, and how values are printed, are parameters.
-/

namespace DiagnosticAdapter.Kernel

open Bits Codec

/-- `serde_json::Number`; a negative number is never stored as `posInt`. -/
inductive JsonNumber where
  | posInt (number : Nat)
  | negInt (number : Int)
  | float (bytes : List UInt8)
  deriving DecidableEq, Repr

def JsonNumber.asU64 : JsonNumber → Option Nat
  | .posInt number => some number
  | _ => none

def JsonNumber.asI64 : JsonNumber → Option Int
  | .posInt number => if number < 2 ^ 63 then some number else none
  | .negInt number => some number
  | .float _ => none

/-- `Number::from` of a signed integer. -/
def JsonNumber.ofInt (number : Int) : JsonNumber :=
  if 0 ≤ number then .posInt number.toNat else .negInt number

inductive JsonValue where
  | null
  | bool (value : Bool)
  | number (number : JsonNumber)
  | string (text : Text)
  | array (items : List JsonValue)
  | object (members : List (Text × JsonValue))

def JsonValue.asStr : JsonValue → Option Text
  | .string text => some text
  | _ => none

def JsonValue.asArray : JsonValue → Option (List JsonValue)
  | .array items => some items
  | _ => none

def JsonValue.asObject : JsonValue → Option (List (Text × JsonValue))
  | .object members => some members
  | _ => none

structure PhysicalType where
  baseType : DataType
  deriving DecidableEq, Repr

inductive CompuCategory where
  | identical
  | linear
  | scaleLinear
  | textTable
  | compuCode
  | tabIntp
  | ratFunc
  | scaleRatFunc
  deriving DecidableEq, Repr

/-- A number read from text by a physical type. -/
inductive PhysNumber where
  | int (number : Int)
  | float32 (bytes : List UInt8)
  | float64 (bytes : List UInt8)
  deriving DecidableEq, Repr

inductive DiagDataValue where
  | int32 (number : Int)
  | uint32 (number : Nat)
  | float32 (bytes : List UInt8)
  | string (text : Text)
  | byteField (bytes : List UInt8)
  | float64 (bytes : List UInt8)
  deriving DecidableEq, Repr

structure Conversions where
  CompuMethod : Type
  category : CompuMethod → CompuCategory
  compuConvert : DiagCodedType → CompuMethod → Option PhysicalType → JsonValue →
    Except DiagServiceError (List UInt8)
  compuLookup : DataType → CompuMethod → List UInt8 → Except DiagServiceError DiagDataValue
  parseF32 : Text → Option (List UInt8)
  parseF64 : Text → Option (List UInt8)
  /-- Whether `Number::from_f64` accepts the number. -/
  isFinite : List UInt8 → Bool
  jsonToF32 : JsonNumber → List UInt8
  jsonToF64 : JsonNumber → List UInt8
  /-- The number without its fraction, as `to_i32` and `to_u32` take it. -/
  truncateF32 : List UInt8 → Option Int
  truncateF64 : List UInt8 → Option Int
  toF32 : PhysNumber → List UInt8
  toF64 : PhysNumber → List UInt8
  /-- `try_into` of a limit, whose text is read as a floating-point number. -/
  limitToU32 : Text → Option Nat
  limitToI32 : Text → Option Int
  limitToF32 : Text → Option (List UInt8)
  limitToF64 : Text → Option (List UInt8)
  limitToBytes : Text → Option (List UInt8)
  ltF32 : List UInt8 → List UInt8 → Bool
  leF32 : List UInt8 → List UInt8 → Bool
  ltF64 : List UInt8 → List UInt8 → Bool
  leF64 : List UInt8 → List UInt8 → Bool
  f32ToU32 : List UInt8 → Option Nat
  f64ToU32 : List UInt8 → Option Nat
  /-- The texts of `{}` and `{:#?}`, and of `{:?}` for a decoded value. -/
  jsonDisplay : JsonValue → String
  jsonDebug : JsonValue → String
  valueDebug : DiagDataValue → String

def i32ToBeBytes (number : Int) : List UInt8 := toBeBytes 4 (number % 2 ^ 32).toNat

/-- `validate_bit_len_unsigned` for a type of `typeBits` bits. -/
def validateBitLenUnsigned (typeBits value bitLen : Nat) : Except DiagServiceError Unit :=
  if bitLen = 0 then
    .error (.parameterConversionError "Bit length 0 is not allowed for validation")
  else
    let maxValue := if bitLen < typeBits then 2 ^ bitLen - 1 else 2 ^ typeBits - 1
    if value > maxValue then
      .error (.parameterConversionError
        s!"Value {value} exceeds maximum {maxValue} for bit length {bitLen}")
    else .ok ()

/-- `validate_bit_len_signed` for a type of `typeBits` bits. -/
def validateBitLenSigned (typeBits : Nat) (value : Int) (bitLen : Nat) :
    Except DiagServiceError Unit :=
  if bitLen = 0 then
    .error (.parameterConversionError "Bit length 0 is not allowed for validation")
  else
    let bound : Int := if bitLen < typeBits then 2 ^ (bitLen - 1) else 2 ^ (typeBits - 1)
    if value < -bound then
      .error (.parameterConversionError
        s!"Value {value} is below minimum {-bound} for bit length {bitLen}")
    else if value > bound - 1 then
      .error (.parameterConversionError
        s!"Value {value} exceeds maximum {bound - 1} for bit length {bitLen}")
    else .ok ()

def padMsbToLen (bytes : List UInt8) (targetLen : Nat) : List UInt8 :=
  List.replicate (targetLen - bytes.length) 0 ++ bytes

/-- `decode_u32_octal_with_optional_prefix` and its binary sibling. -/
def decodeU32WithOptionalPrefix (marker : Char) (radix : Nat) (nonDigit invalid : String)
    (text : Text) : Except DiagServiceError (List UInt8) :=
  let stripped := match text with
    | '0' :: second :: rest => if second = marker then rest else text
    | _ => text
  if !stripped.all fun c => (toDigit c radix).isSome then
    .error (.parameterConversionError nonDigit)
  else
    match parseUnsigned 32 radix stripped with
    | .error _ => .error (.parameterConversionError (invalid ++ String.ofList text))
    | .ok number => .ok (toBeBytes 4 number)

section Conversions

variable (conv : Conversions)

def decodeUInt32FromStr (value : Text) (diagType : DiagCodedType) :
    Except DiagServiceError (List UInt8) :=
  let lowercase := value.map Char.toLower
  if ['0', 'x'].isPrefixOf lowercase then do
    let decoded ← decodeHexWithOptionalPrefix value
    let decoded := if decoded.length < 4 then padMsbToLen decoded 4 else decoded
    if decoded.length ≠ 4 then .error (.panicked "padded to u32 length")
    else do
      validateBitLenUnsigned 32 (Bits.value decoded) (diagType.bitLen.getD 32)
      return toBeBytes 4 (Bits.value decoded)
  else if ['0', 'o'].isPrefixOf lowercase then
    decodeU32WithOptionalPrefix 'o' 8 "Non-octal character found" "Invalid octal value: " value
  else if ['0', 'b'].isPrefixOf lowercase then
    decodeU32WithOptionalPrefix 'b' 2 "Non-binary character found" "Invalid binary value: " value
  else
    match parseUnsigned 32 10 value with
    | .error _ =>
      .error (.parameterConversionError s!"Invalid value for UInt32: {String.ofList value}")
    | .ok number => do
      validateBitLenUnsigned 32 number (diagType.bitLen.getD 32)
      return toBeBytes 4 number

def decodeNumericValFromStr (value : Text) (physicalType : PhysicalType)
    (diagType : DiagCodedType) : Except DiagServiceError (List UInt8) :=
  match physicalType.baseType with
  | .int32 =>
    match parseSigned 32 10 value with
    | .error _ =>
      .error (.parameterConversionError s!"Invalid value for Int32: {String.ofList value}")
    | .ok number => do
      validateBitLenSigned 32 number (diagType.bitLen.getD 32)
      return i32ToBeBytes number
  | .uint32 => decodeUInt32FromStr value diagType
  | .float32 =>
    match conv.parseF32 value with
    | none => .error (.parameterConversionError s!"Invalid value for Float: {String.ofList value}")
    | some bytes => .ok bytes
  | .float64 =>
    match conv.parseF64 value with
    | none => .error (.parameterConversionError s!"Invalid value for Float: {String.ofList value}")
    | some bytes => .ok bytes
  | base =>
    .error (.parameterConversionError
      s!"Cannot parse string value for non-numeric physical type: {base.debug}")

def truncate : PhysNumber → Option Int
  | .int number => some number
  | .float32 bytes => conv.truncateF32 bytes
  | .float64 bytes => conv.truncateF64 bytes

def toNumericBaseType (number : PhysNumber) (baseType : DataType) :
    Except DiagServiceError (List UInt8) :=
  match baseType with
  | .int32 =>
    match (truncate conv number).filter fun i => -2 ^ 31 ≤ i ∧ i < 2 ^ 31 with
    | none => .error (.parameterConversionError "Failed to convert to Int32")
    | some i => .ok (i32ToBeBytes i)
  | .uint32 =>
    match (truncate conv number).filter fun i => 0 ≤ i ∧ i < 2 ^ 32 with
    | none => .error (.parameterConversionError "Failed to convert to UInt32")
    | some i => .ok (toBeBytes 4 i.toNat)
  | .float32 => .ok (conv.toF32 number)
  | .float64 => .ok (conv.toF64 number)
  | base =>
    .error (.parameterConversionError
      s!"Cannot convert numeric value to non-numeric base type {base.debug}")

def i32FromBeBytes (bytes : List UInt8) : Int :=
  if Bits.value bytes < 2 ^ 31 then Bits.value bytes else Bits.value bytes - 2 ^ 32

def processPhysicalTypeValue (jsonValue : JsonValue) (physicalType : PhysicalType)
    (dataType : DiagCodedType) : Except DiagServiceError (List UInt8) :=
  match jsonValue.asStr with
  | none =>
    .error (.parameterConversionError "Non-numeric JSON value could not be converted to string")
  | some text => do
    let data ← decodeNumericValFromStr conv text physicalType dataType
    if physicalType.baseType = dataType.baseDatatype then return data
    else
      match physicalType.baseType with
      | .int32 =>
        toNumericBaseType conv (.int (i32FromBeBytes (padMsbToLen data 4))) dataType.baseDatatype
      | .uint32 =>
        toNumericBaseType conv (.int (Bits.value (padMsbToLen data 4))) dataType.baseDatatype
      | .float32 => toNumericBaseType conv (.float32 (padMsbToLen data 4)) dataType.baseDatatype
      | .float64 => toNumericBaseType conv (.float64 (padMsbToLen data 8)) dataType.baseDatatype
      | base =>
        .error (.parameterConversionError
          (s!"Cannot convert from non-numeric physical type {base.debug} to numeric base " ++
            s!"type {dataType.baseDatatype.debug}"))

def processNumericJsonValue (number : JsonNumber) (dataType : DiagCodedType) :
    Except DiagServiceError (List UInt8) :=
  match dataType.baseDatatype with
  | .int32 =>
    match number.asI64 with
    | none => .error (.parameterConversionError "Invalid value for DiagCodedType")
    | some value => do
      validateBitLenSigned 64 value (dataType.bitLen.getD 32)
      if -2 ^ 31 ≤ value ∧ value < 2 ^ 31 then return i32ToBeBytes value
      else .error (.parameterConversionError s!"Failed to convert {value} to Int32")
  | .uint32 =>
    match number.asU64 with
    | none => .error (.parameterConversionError "Invalid value for DiagCodedType")
    | some value => do
      validateBitLenUnsigned 64 value (dataType.bitLen.getD 32)
      if value < 2 ^ 32 then return toBeBytes 4 value
      else .error (.parameterConversionError s!"Failed to convert {value} to UInt32")
  | .float32 => .ok (conv.jsonToF32 number)
  | .float64 => .ok (conv.jsonToF64 number)
  | _ => .error (.parameterConversionError "Not support data type for value conversion")

def validateDataLength (data : List UInt8) (baseType : DataType) : Except DiagServiceError Unit :=
  if (baseType = .int32 ∨ baseType = .uint32 ∨ baseType = .float32) ∧ data.length > 4 then
    .error (.parameterConversionError s!"Invalid data length {data.length} for {baseType.debug}")
  else if baseType = .float64 ∧ data.length > 8 then
    .error (.parameterConversionError s!"Invalid data length for {baseType.debug}: {data.length}")
  else .ok ()

def numericJsonValueToByteVector (jsonValue : JsonValue) (dataType : DiagCodedType)
    (physicalType : Option PhysicalType) : Except DiagServiceError (List UInt8) := do
  let data ← match jsonValue, physicalType with
    | .number number, _ => processNumericJsonValue conv number dataType
    | _, some physicalType => processPhysicalTypeValue conv jsonValue physicalType dataType
    | _, none =>
      .error (.parameterConversionError (s!"Cannot decode non-numeric JSON value to " ++
        s!"{dataType.baseDatatype.debug} without physical type information"))
  validateDataLength data dataType.baseDatatype
  return data

def jsonValueToUdsData (diagType : DiagCodedType) (compuMethod : Option conv.CompuMethod)
    (physType : Option PhysicalType) (jsonValue : JsonValue) :
    Except DiagServiceError (List UInt8) :=
  match compuMethod.filter fun method => conv.category method ≠ .identical with
  | some method => conv.compuConvert diagType method physType jsonValue
  | none =>
    match diagType.baseDatatype with
    | .int32 | .uint32 | .float32 | .float64 =>
      numericJsonValueToByteVector conv jsonValue diagType physType
    | .byteField =>
      match jsonValue.asStr with
      | none => .error (.parameterConversionError "Invalid value for ByteField")
      | some text => decodeHexWithOptionalPrefix text
    | .asciiString | .unicode2String | .utf8String =>
      match jsonValue.asStr with
      | none => .error (.parameterConversionError "Invalid value for AsciiString")
      | some text => .ok (String.ofList text).toUTF8.toList

/-- `str_to_json_value`, the text of a constant read by its coded data type. -/
def strToJsonValue (value : Text) (dataType : DataType) : Except DiagServiceError JsonValue :=
  let failure (message : String) := DiagServiceError.invalidDatabase
    s!"CodedConst value ({String.ofList value}) conversion error: {message}"
  match dataType with
  | .int32 =>
    match parseSigned 32 10 value with
    | .error error => .error (failure error.message)
    | .ok number => .ok (.number (.ofInt number))
  | .uint32 =>
    match parseUnsigned 32 10 value with
    | .error error => .error (failure error.message)
    | .ok number => .ok (.number (.posInt number))
  | .float32 | .float64 =>
    match conv.parseF64 value with
    | none => .error (failure "invalid float literal")
    | some bytes => .ok (if conv.isFinite bytes then .number (.float bytes) else .null)
  | .asciiString | .utf8String | .unicode2String | .byteField => .ok (.string value)

end Conversions

end DiagnosticAdapter.Kernel
