import DiagnosticAdapter.Kernel.Parameter

/-!
# Decoded values

`DiagDataValue` with its limits, and the containers in which the decoder hands
over what it has read.
-/

namespace DiagnosticAdapter.Kernel

open Bits Codec

def DiagDataValue.new (diagType : DataType) (data : List UInt8) :
    Except DiagServiceError DiagDataValue :=
  match diagType with
  | .int32 | .uint32 | .float32 =>
    if data.length > 4 then
      .error (.parameterConversionError s!"Invalid data length for I32: {data.length}")
    else
      let bytes := padMsbToLen data 4
      .ok (match diagType with
        | .int32 => .int32 (i32FromBeBytes bytes)
        | .uint32 => .uint32 (value bytes)
        | _ => .float32 bytes)
  | .asciiString => .ok (.string (data.map fun byte => Char.ofNat byte.toNat))
  | .utf8String | .unicode2String =>
    match String.fromUTF8? ⟨data.toArray⟩ with
    | some text => .ok (.string text.toList)
    | none => .error (.parameterConversionError "invalid utf-8 sequence")
  | .byteField => .ok (.byteField data)
  | .float64 =>
    if data.length > 8 then
      .error (.parameterConversionError s!"Invalid data length for F64: {data.length}")
    else .ok (.float64 (padMsbToLen data 8))

/-- A limit that cannot be read as a number is met by no value. -/
def checkNumericLimits {Number : Type} (lt le : Number → Number → Bool)
    (limitTo : Text → Option Number) (number : Number) (upper lower : Option Limit) : Bool :=
  let upperOk := upper.all fun limit => (limitTo limit.value).any fun bound =>
    if limit.intervalType = .open then lt number bound else le number bound
  let lowerOk := lower.all fun limit => (limitTo limit.value).any fun bound =>
    if limit.intervalType = .open then lt bound number else le bound number
  upperOk && lowerOk

section Conversions

variable (conv : Conversions)

/-- Byte fields are compared after padding, and a limit that is none is ignored. -/
def checkByteFieldLimits (bytes : List UInt8) (upper lower : Option Limit) : Bool :=
  let upperBytes := upper.bind fun limit => conv.limitToBytes limit.value
  let lowerBytes := lower.bind fun limit => conv.limitToBytes limit.value
  let maxLen := max bytes.length (max ((upperBytes.map List.length).getD 0)
    ((lowerBytes.map List.length).getD 0))
  let number := value (padMsbToLen bytes maxLen)
  (upperBytes.all fun bound => number ≤ value (padMsbToLen bound maxLen)) &&
    lowerBytes.all fun bound => value (padMsbToLen bound maxLen) ≤ number

def DiagDataValue.withinLimits (self : DiagDataValue) (upper lower : Option Limit) : Bool :=
  match self with
  | .int32 number => checkNumericLimits (· < ·) (· ≤ ·) conv.limitToI32 number upper lower
  | .uint32 number => checkNumericLimits (· < ·) (· ≤ ·) conv.limitToU32 number upper lower
  | .float32 number => checkNumericLimits conv.ltF32 conv.leF32 conv.limitToF32 number upper lower
  | .float64 number => checkNumericLimits conv.ltF64 conv.leF64 conv.limitToF64 number upper lower
  | .byteField bytes => checkByteFieldLimits conv bytes upper lower
  | .string text =>
    (upper.all fun limit => limit.value = text) && lower.all fun limit => limit.value = text

def DiagDataValue.toU32 (self : DiagDataValue) : Except DiagServiceError Nat :=
  let outOfRange (kind : String) := DiagServiceError.parameterConversionError
    s!"{kind} value out of u32 range"
  match self with
  | .int32 number => if 0 ≤ number then .ok number.toNat else .error (outOfRange "Int32")
  | .uint32 number => .ok number
  | .float32 number => (conv.f32ToU32 number).elim (.error (outOfRange "Float32")) .ok
  | .float64 number => (conv.f64ToU32 number).elim (.error (outOfRange "Float64")) .ok
  | _ => .error (.parameterConversionError "Cannot convert DiagDataValue to u32")

/-- `uds_data_to_serializable` outside a negative response. -/
def udsDataToSerializable (dataType : DataType) (compuMethod : Option conv.CompuMethod)
    (data : List UInt8) : Except DiagServiceError DiagDataValue :=
  if data.isEmpty then .ok (.string [])
  else
    match compuMethod.filter fun method => conv.category method ≠ .identical with
    | some method => conv.compuLookup dataType method data
    | none => DiagDataValue.new dataType data

end Conversions

/-- `DiagDataTypeContainerRaw` -/
structure RawContainer (conv : Conversions) where
  data : List UInt8
  bitLen : Nat
  dataType : DataType
  compuMethod : Option conv.CompuMethod

def RawContainer.serializable {conv : Conversions} (raw : RawContainer conv) :
    Except DiagServiceError DiagDataValue :=
  udsDataToSerializable conv raw.dataType raw.compuMethod raw.data

/-- `DiagDataContainerDtc` -/
structure DtcContainer where
  code : Nat
  displayCode : Option Text
  faultName : Text
  severity : Nat
  bitPos : Nat
  bitLen : Nat
  bytePos : Nat
  deriving DecidableEq, Repr

def dtcCodeBitLen : Nat := 24

/-- `DiagDataTypeContainer`; a hash map is the function that looks a key up in it. -/
inductive Container (conv : Conversions) where
  | raw (raw : RawContainer conv)
  | struct (members : Text → Option (Container conv))
  | repeatingStruct (items : List (Text → Option (Container conv)))
  | dtcStruct (dtc : DtcContainer)

/-- `MappedDiagServiceResponsePayload` -/
abbrev MappedPayload (conv : Conversions) := Text → Option (Container conv)

namespace MappedPayload

variable {conv : Conversions}

def empty : MappedPayload conv := fun _ => none

def insert (data : MappedPayload conv) (name : Text) (container : Container conv) :
    MappedPayload conv :=
  Function.update data name (some container)

def extend (data item : MappedPayload conv) : MappedPayload conv :=
  fun name => (item name).or (data name)

end MappedPayload

/-- The conversions of a database in which every compu method is `Identical` and every
number is an integer. -/
def integerConversions : Conversions where
  CompuMethod := Unit
  category _ := .identical
  compuConvert _ _ _ _ := .error (.requestNotSupported "compu method")
  compuLookup _ _ _ := .error (.requestNotSupported "compu method")
  parseF32 _ := none
  parseF64 _ := none
  isFinite _ := true
  jsonToF32 _ := []
  jsonToF64 _ := []
  truncateF32 _ := none
  truncateF64 _ := none
  toF32 _ := []
  toF64 _ := []
  limitToU32 text := (parseUnsigned 32 10 text).toOption
  limitToI32 text := (parseSigned 32 10 text).toOption
  limitToF32 _ := none
  limitToF64 _ := none
  limitToBytes _ := none
  ltF32 _ _ := false
  leF32 _ _ := false
  ltF64 _ _ := false
  leF64 _ _ := false
  f32ToU32 _ := none
  f64ToU32 _ := none
  jsonDisplay _ := ""
  jsonDebug _ := ""
  valueDebug _ := ""

theorem integerConversions_identical : integerConversions.category () = .identical := rfl

namespace IntegerDatabase

/-- An unmasked number of the given length, high byte first. -/
def number (bitLength : Nat) : DiagCodedType :=
  ⟨.uint32, .standardLength ⟨bitLength, none, false⟩, true⟩

def normalDop (diagType : DiagCodedType) : DataOperation integerConversions :=
  .normal ⟨.ok diagType, some (), some ⟨diagType.baseDatatype⟩⟩

def valueParam (name : String) (bytePos : Nat) (dop : DataOperation integerConversions) :
    Parameter integerConversions :=
  ⟨.ok .value, some name.toList, none, some bytePos, none, .value none (some dop)⟩

def structure_ (params : List (Parameter integerConversions)) :
    StructureDop integerConversions :=
  ⟨some params, none⟩

def fieldOf (structureDop : StructureDop integerConversions) : DopField integerConversions :=
  ⟨some (.struct structureDop), none⟩

end IntegerDatabase

end DiagnosticAdapter.Kernel
