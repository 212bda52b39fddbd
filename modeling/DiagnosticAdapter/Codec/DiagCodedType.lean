import DiagnosticAdapter.Codec.Packing

/-!
# Coded types

How a value lies in a payload: its base data type, how its length is found, and
its byte order.  `decode` cuts the value out of a payload, `encode` writes it
into one.
-/

namespace DiagnosticAdapter.Codec

open Bits

inductive DataType where
  | int32
  | uint32
  | float32
  | asciiString
  | utf8String
  | unicode2String
  | byteField
  | float64
  deriving DecidableEq, Repr

/-- The text of `{:?}`. -/
def DataType.debug : DataType → String
  | .int32 => "Int32"
  | .uint32 => "UInt32"
  | .float32 => "Float32"
  | .asciiString => "AsciiString"
  | .utf8String => "Utf8String"
  | .unicode2String => "Unicode2String"
  | .byteField => "ByteField"
  | .float64 => "Float64"

def DataType.validateBitLen (self : DataType) (bitLen : Nat) : Except DiagServiceError Unit :=
  if bitLen = 0 then
    .error (.badPayload "Cannot extract data with length 0")
  else if (self = .int32 ∨ self = .uint32) ∧ bitLen > 64 then
    .error (.badPayload s!"Length must be at most 64 bit for {self.debug}, got {bitLen} bit")
  else if self = .float32 ∧ bitLen ≠ 32 then
    .error (.badPayload s!"Length must be exactly 32 bit for {self.debug}, got {bitLen} bit")
  else if self = .float64 ∧ bitLen ≠ 64 then
    .error (.badPayload s!"Length must be exactly 64 bit for {self.debug}, got {bitLen} bit")
  else if self = .unicode2String ∧ bitLen % 16 ≠ 0 then
    .error (.badPayload s!"Length must be a multiple of 16 bit for {self.debug}, got {bitLen} bit")
  else .ok ()

inductive Termination where
  | endOfPdu
  | zero
  | hexFF
  deriving DecidableEq, Repr

structure MinMaxLengthType where
  minLength : Nat
  maxLength : Option Nat
  termination : Termination
  deriving DecidableEq, Repr

structure StandardLengthType where
  bitLength : Nat
  bitMask : Option (List UInt8)
  condensed : Bool
  deriving DecidableEq, Repr

inductive DiagCodedTypeVariant where
  | leadingLengthInfo (bitLength : Nat)
  | minMaxLength (mmlt : MinMaxLengthType)
  | standardLength (slt : StandardLengthType)
  | paramLengthInfo (keyName : String)
  deriving DecidableEq, Repr

structure DiagCodedType where
  baseDatatype : DataType
  type_ : DiagCodedTypeVariant
  isHighLowByteOrder : Bool
  deriving DecidableEq, Repr

namespace DiagCodedType

def bitLen (self : DiagCodedType) : Option Nat :=
  match self.type_ with
  | .leadingLengthInfo bitLen => some bitLen
  | .minMaxLength _ => none
  | .standardLength standardLength => some standardLength.bitLength
  | .paramLengthInfo _ => none

def lengthKeyName (self : DiagCodedType) : Option String :=
  match self.type_ with
  | .paramLengthInfo name => some name
  | _ => none

def byteOrder (self : DiagCodedType) : ByteOrder :=
  if self.isHighLowByteOrder then .keep
  else
    match self.baseDatatype with
    | .unicode2String => .reorderPairs
    | .byteField | .asciiString | .utf8String => .keep
    | _ => .reverse

def validateBitPos (self : DiagCodedType) (bitPos : Nat) : Except DiagServiceError Unit :=
  if (self.baseDatatype = .unicode2String ∨ self.baseDatatype = .byteField ∨
      self.baseDatatype = .asciiString ∨ self.baseDatatype = .utf8String) ∧ bitPos ≠ 0 then
    .error (.badPayload s!"Bit position must be 0 for {self.baseDatatype.debug}, got {bitPos}")
  else .ok ()

/-- Where the data of a value lies: its length in bits, its first byte, its mask. -/
structure PosInfo where
  bitLen : Nat
  startPos : Nat
  mask : Option Mask
  deriving DecidableEq, Repr

def posInfoStandardLen (self : DiagCodedType) (bytePos : Nat) (slt : StandardLengthType) :
    Except DiagServiceError PosInfo := do
  self.baseDatatype.validateBitLen slt.bitLength
  return ⟨slt.bitLength, bytePos, slt.bitMask.map fun data => ⟨data, slt.condensed⟩⟩

/-- `while end_pos < max_end`, ended early where `found` holds; `max_end - byte_pos` rounds are
enough. -/
def scanEnd (found : Nat → Bool) (width maxEnd : Nat) : Nat → Nat → Nat
  | 0, endPos => endPos
  | rounds + 1, endPos =>
    if endPos < maxEnd then
      if found endPos then endPos else scanEnd found width maxEnd rounds (endPos + width)
    else endPos

/-- The search for a terminator, two bytes wide for `Unicode2String`. -/
def findTermination (self : DiagCodedType) (terminator : UInt8) (udsPayload : List UInt8)
    (bytePos minLength maxEnd : Nat) : Nat :=
  if self.baseDatatype = .unicode2String then
    scanEnd (fun endPos => endPos - bytePos ≥ minLength ∧ endPos + 1 < udsPayload.length ∧
      udsPayload[endPos]? = some terminator ∧ udsPayload[endPos + 1]? = some terminator)
      2 maxEnd (maxEnd - bytePos) bytePos
  else
    scanEnd (fun endPos => endPos - bytePos ≥ minLength ∧ udsPayload[endPos]? = some terminator)
      1 maxEnd (maxEnd - bytePos) bytePos

def posInfoMinMaxLen (self : DiagCodedType) (udsPayload : List UInt8) (bytePos : Nat)
    (mmlt : MinMaxLengthType) : Except DiagServiceError PosInfo := do
  let maxEnd := match mmlt.maxLength with
    | some maxLength => min (bytePos + maxLength) udsPayload.length
    | none => udsPayload.length
  let endPos ← match mmlt.termination with
    | .endOfPdu => pure maxEnd
    | .zero =>
      let endPos := self.findTermination 0 udsPayload bytePos mmlt.minLength maxEnd
      if endPos > udsPayload.length then
        .error (.badPayload (s!"Not enough data in payload, needed {endPos} bytes, got " ++
          s!"{udsPayload.length} bytes"))
      else pure endPos
    | .hexFF => pure (self.findTermination 0xFF udsPayload bytePos mmlt.minLength maxEnd)
  if endPos - bytePos < mmlt.minLength then
    .error (.notEnoughData (bytePos + mmlt.minLength) udsPayload.length)
  else return ⟨(endPos - bytePos) * 8, bytePos, none⟩

def usizeFromBytes (lengthInfoBytes : List UInt8) : Except DiagServiceError Nat :=
  if 1 ≤ lengthInfoBytes.length ∧ lengthInfoBytes.length ≤ 8 then .ok (value lengthInfoBytes)
  else .error (.badPayload "unsupported leading length size")

def posInfoLeadingLen (self : DiagCodedType) (udsPayload : List UInt8) (bytePos bitPos : Nat)
    (byteOrder : ByteOrder) (bits : Nat) : Except DiagServiceError PosInfo := do
  self.baseDatatype.validateBitLen bits
  match slice? udsPayload bytePos (bytePos + byteLen bits) with
  | none => .error (.badPayload "Payload slice for leading length out of bounds")
  | some data =>
    let (lengthInfoBytes, _) ← unpackData bits bitPos none data byteOrder
    let len ← usizeFromBytes lengthInfoBytes
    let startPos := bytePos + lengthInfoBytes.length
    let endPos := startPos + len
    if endPos > udsPayload.length then
      .error (.notEnoughData endPos udsPayload.length)
    else return ⟨(endPos - startPos) * 8, startPos, none⟩

def posInfo (self : DiagCodedType) (udsPayload : List UInt8) (bytePos bitPos : Nat) :
    Except DiagServiceError PosInfo :=
  match self.type_ with
  | .leadingLengthInfo bits =>
    self.posInfoLeadingLen udsPayload bytePos bitPos self.byteOrder bits
  | .minMaxLength mmlt => self.posInfoMinMaxLen udsPayload bytePos mmlt
  | .standardLength slt => self.posInfoStandardLen bytePos slt
  | .paramLengthInfo keyName =>
    .error (.invalidDatabase (s!"ParamLengthInfo '{keyName}' requires a runtime-resolved byte " ++
      "length; call decode_with_runtime_byte_length instead"))

def decode (self : DiagCodedType) (udsPayload : List UInt8) (bytePos bitPos : Nat) :
    Except DiagServiceError (List UInt8 × Nat) := do
  self.validateBitPos bitPos
  let info ← self.posInfo udsPayload bytePos bitPos
  if info.bitLen = 0 then return ([], 0)
  else
    let endPos := info.startPos + byteLen info.bitLen
    if udsPayload.length < endPos then .error (.notEnoughData endPos udsPayload.length)
    else
      match slice? udsPayload info.startPos endPos with
      | none => .error (.badPayload "Payload slice out of bounds")
      | some data => unpackData info.bitLen bitPos info.mask data self.byteOrder

/-- A value ready to be written: its bytes, its length in bits, its mask. -/
structure Packed where
  bytes : List UInt8
  bitLen : Nat
  mask : Option Mask
  deriving DecidableEq, Repr

def packAligned (data : List UInt8) : Except DiagServiceError Packed := do
  let (packed, len) ← packData (data.length * 8) 0 none data .left
  return ⟨packed, len, none⟩

def alignment (self : DiagCodedType) : DataAlignment :=
  match self.baseDatatype with
  | .byteField | .asciiString | .utf8String | .unicode2String => .left
  | _ => .right

def packStandardLen (self : DiagCodedType) (slt : StandardLengthType) (inputData : List UInt8) :
    Except DiagServiceError Packed := do
  self.baseDatatype.validateBitLen slt.bitLength
  let mask := (slt.bitMask.filter fun data => !data.isEmpty).map fun data =>
    (⟨data, slt.condensed⟩ : Mask)
  let (packed, len) ← packData slt.bitLength 0 mask inputData self.alignment
  if len > slt.bitLength then
    .error (.badPayload (s!"StandardLengthType input data length {len} bits exceeds allowed " ++
      s!"length {slt.bitLength} bits"))
  else return ⟨packed, len, mask⟩

/-- The length of the data in front of it, its lowest bytes moved to the front
of a 64 bit word. -/
def packLeadingLen (bitLen : Nat) (inputData : List UInt8) : Except DiagServiceError Packed :=
  let lenByteCount := byteLen bitLen
  let lenBitLen := lenByteCount * 8
  match slice? (toBeBytes 8 (inputData.length <<< (64 - lenBitLen))) 0 lenByteCount with
  | none => .error (.badPayload "Length byte count out of bounds")
  | some data =>
    if data.isEmpty then .error (.badPayload "Failed to create length info for leading length")
    else packAligned (data ++ inputData)

def withTermination (self : DiagCodedType) (termination : Termination) (inputData : List UInt8) :
    List UInt8 :=
  let width := if self.baseDatatype = .unicode2String then 2 else 1
  match termination with
  | .endOfPdu => inputData
  | .zero => inputData ++ List.replicate width 0
  | .hexFF => inputData ++ List.replicate width 0xFF

/-- What is to be written; `none` where an empty `ParamLengthInfo` field leaves
the payload as it is. -/
def packInput (self : DiagCodedType) (inputData : List UInt8) :
    Except DiagServiceError (Option Packed) :=
  match self.type_ with
  | .leadingLengthInfo bitLen => some <$> packLeadingLen bitLen inputData
  | .minMaxLength mmlt => some <$> packAligned (self.withTermination mmlt.termination inputData)
  | .standardLength slt => some <$> self.packStandardLen slt inputData
  | .paramLengthInfo _ =>
    if inputData.length * 8 = 0 then .ok none
    else some <$> packAligned inputData

/-- `resize(len, 0)` of a payload that is too short. -/
def extendTo (udsPayload : List UInt8) (length : Nat) : List UInt8 :=
  udsPayload ++ List.replicate (length - udsPayload.length) 0

/-- Clears the bits that the mask covers; the others are protected. -/
def Packed.applyInvertedMask (packed : Packed) (pduCutOut : List UInt8) (bitPos : Nat) :
    Except DiagServiceError (List UInt8) :=
  match packed.mask with
  | some mask => applyBitMask pduCutOut (mask.data.map (~~~·)) packed.bitLen bitPos
  | none => .ok pduCutOut

def writePacked (self : DiagCodedType) (packed : Packed) (udsPayload : List UInt8)
    (bytePos bitPos : Nat) : Except DiagServiceError (List UInt8) :=
  let byteCount := byteLen (bitPos + packed.bitLen)
  let udsPayload := extendTo udsPayload (bytePos + byteCount)
  match slice? udsPayload bytePos (bytePos + byteCount) with
  | none => .error (.badPayload "PDU cut-out slice out of bounds")
  | some pduCutOut => do
    let pduCutOut := normalizeByteOrder pduCutOut self.byteOrder
    let pduCutOut ← packed.applyInvertedMask pduCutOut bitPos
    let pduCutOut ← injectBits packed.bitLen bitPos pduCutOut packed.bytes
    let pduCutOut := normalizeByteOrder pduCutOut self.byteOrder
    return udsPayload.take bytePos ++ pduCutOut ++ udsPayload.drop (bytePos + byteCount)

def encode (self : DiagCodedType) (inputData udsPayload : List UInt8) (bytePos bitPos : Nat) :
    Except DiagServiceError (List UInt8) := do
  self.validateBitPos bitPos
  match ← self.packInput inputData with
  | none => return udsPayload
  | some packed => self.writePacked packed udsPayload bytePos bitPos

end DiagCodedType

end DiagnosticAdapter.Codec
