import DiagnosticAdapter.Codec.Cells
import DiagnosticAdapter.Kernel.PayloadEncode

/-!
# Numbers in a payload

A normal data operation for an unmasked `UInt32` of standard length with an identical
compu method: what `map_normal_dop_to_uds` writes for it, and what
`extract_diag_data_container` reads.
-/

namespace DiagnosticAdapter.Kernel

open Bits Codec Effects Decoder

variable {conv : Conversions}

structure NumberDop (conv : Conversions) where
  bitLength : Nat
  condensed : Bool
  isHighLowByteOrder : Bool
  physicalType : Option PhysicalType
  compuMethod : conv.CompuMethod
  identical : conv.category compuMethod = .identical

namespace NumberDop

variable (dop : NumberDop conv)

def diagCodedType : DiagCodedType :=
  ⟨.uint32, .standardLength ⟨dop.bitLength, none, dop.condensed⟩, dop.isHighLowByteOrder⟩

def normalDop : NormalDop conv :=
  ⟨.ok dop.diagCodedType, some dop.compuMethod, dop.physicalType⟩

def place (bytePos bitPos : Nat) : Place := dop.diagCodedType.place bytePos bitPos dop.bitLength

def number (json : JsonValue) : Except DiagServiceError Nat :=
  value <$> jsonValueToUdsData conv dop.diagCodedType (some dop.compuMethod) dop.physicalType json

/-- Whether the field holds the number and the encoder does not clear bits of it. -/
def Keeps (number : Nat) : Prop :=
  number < 2 ^ dop.bitLength ∧ (dop.bitLength % 8 = 0 ∨ number % 256 < 2 ^ (dop.bitLength % 8))

variable {dop}

theorem numeric (dop : NumberDop conv) :
    dop.diagCodedType.baseDatatype = .int32 ∨ dop.diagCodedType.baseDatatype = .uint32 :=
  .inr rfl

theorem valid_iff (dop : NumberDop conv) :
    dop.diagCodedType.baseDatatype.validateBitLen dop.bitLength = .ok () ↔
      1 ≤ dop.bitLength ∧ dop.bitLength ≤ 64 :=
  DiagCodedType.validateBitLen_numeric dop.numeric _

theorem lt_of_validateBitLenUnsigned {typeBits number bitLen : Nat}
    (valid : validateBitLenUnsigned typeBits number bitLen = .ok ()) : number < 2 ^ bitLen := by
  unfold validateBitLenUnsigned at valid
  split at valid
  · cases valid
  · have positive := Nat.two_pow_pos bitLen
    have typePositive := Nat.two_pow_pos typeBits
    by_cases narrow : bitLen < typeBits
    · simp only [if_pos narrow] at valid
      split at valid
      · cases valid
      · omega
    · have wide : 2 ^ typeBits ≤ 2 ^ bitLen :=
        Nat.pow_le_pow_right (by decide) (Nat.le_of_not_lt narrow)
      simp only [if_neg narrow] at valid
      split at valid
      · cases valid
      · omega

theorem processNumericJsonValue_lt {json : JsonNumber} {data : List UInt8}
    (processed : processNumericJsonValue conv json dop.diagCodedType = .ok data) :
    value data < 2 ^ dop.bitLength := by
  simp only [processNumericJsonValue, diagCodedType, DiagCodedType.bitLen,
    Option.getD_some] at processed
  cases unsigned : json.asU64 with
  | none =>
    rw [unsigned] at processed
    cases processed
  | some given =>
    rw [unsigned] at processed
    cases valid : validateBitLenUnsigned 64 given dop.bitLength with
    | error error =>
      simp only [valid, bind, Except.bind] at processed
      cases processed
    | ok checked =>
      simp only [valid, bind, Except.bind] at processed
      split at processed
      · obtain rfl := Except.ok.inj processed
        rw [value_toBeBytes]
        exact (Nat.mod_le _ _).trans_lt (lt_of_validateBitLenUnsigned valid)
      · cases processed

/-- A JSON number is checked against the length of the field; the texts `0o..` and `0b..`
are not. -/
theorem number_lt_of_json {json : JsonNumber} {number : Nat}
    (supplied : dop.number (.number json) = .ok number) : number < 2 ^ dop.bitLength := by
  have converted : jsonValueToUdsData conv dop.diagCodedType (some dop.compuMethod)
      dop.physicalType (.number json) =
        numericJsonValueToByteVector conv (.number json) dop.diagCodedType dop.physicalType := by
    simp only [jsonValueToUdsData, Option.filter_some, dop.identical]
    rfl
  rw [NumberDop.number, converted, numericJsonValueToByteVector] at supplied
  cases processed : processNumericJsonValue conv json dop.diagCodedType with
  | error error =>
    simp only [processed, bind, Except.bind] at supplied
    cases supplied
  | ok data =>
    simp only [processed, bind, Except.bind] at supplied
    cases checked : validateDataLength data dop.diagCodedType.baseDatatype with
    | error error =>
      rw [checked] at supplied
      cases supplied
    | ok valid =>
      rw [checked] at supplied
      obtain rfl := Except.ok.inj supplied
      exact processNumericJsonValue_lt processed

theorem valid_of_encode {inputData payload after : List UInt8} {bytePos bitPos : Nat}
    (encoded : dop.diagCodedType.encode inputData payload bytePos bitPos = .ok after) :
    dop.diagCodedType.baseDatatype.validateBitLen dop.bitLength = .ok () := by
  cases valid : dop.diagCodedType.baseDatatype.validateBitLen dop.bitLength with
  | ok unit => rfl
  | error error =>
    have packs : dop.diagCodedType.packStandardLen ⟨dop.bitLength, none, dop.condensed⟩
        inputData = .error error := by
      simp only [DiagCodedType.packStandardLen, valid]
      rfl
    rw [DiagCodedType.encode_of_pack_error rfl
      (DiagCodedType.validateBitPos_numeric dop.numeric bitPos) packs] at encoded
    cases encoded

theorem mapNormalDopToUds_adds {json : JsonValue} {payload after : List UInt8}
    {bytePos bitPos number : Nat}
    (mapped : mapNormalDopToUds dop.normalDop json payload bytePos bitPos = .ok after)
    (supplied : dop.number json = .ok number) (keeps : dop.Keeps number)
    (position : bitPos ≤ 7) :
    (1 ≤ dop.bitLength ∧ dop.bitLength ≤ 64) ∧
      after.length = max payload.length (dop.place bytePos bitPos).stop ∧
      Adds [⟨dop.place bytePos bitPos, number⟩] payload after := by
  simp only [mapNormalDopToUds, normalDop, bind, Except.bind] at mapped
  simp only [NumberDop.number] at supplied
  cases converted : jsonValueToUdsData conv dop.diagCodedType (some dop.compuMethod)
      dop.physicalType json with
  | error error =>
    rw [converted] at mapped
    cases mapped
  | ok data =>
    rw [converted] at mapped supplied
    obtain rfl := Except.ok.inj supplied
    have valid := valid_of_encode mapped
    obtain ⟨written, encoded, length, adds⟩ := @DiagCodedType.encode_number_adds
      dop.diagCodedType _ rfl dop.numeric rfl valid bitPos position data keeps.1 keeps.2 payload
      bytePos
    obtain rfl := Except.ok.inj (encoded.symm.trans mapped)
    exact ⟨dop.valid_iff.mp valid, length, adds⟩

end NumberDop

structure Payload.Shows (payload : Payload) (bytes : List UInt8) : Prop where
  view : payload.view = .ok bytes
  len : payload.len = bytes.length

theorem Payload.Shows.setLastReadBytePos {payload : Payload} {bytes : List UInt8}
    (shows : payload.Shows bytes) (pos : Nat) : (payload.setLastReadBytePos pos).Shows bytes :=
  ⟨shows.view, shows.len⟩

namespace NumberDop

variable {dop : NumberDop conv} {bytes : List UInt8} {bytePos bitPos : Nat}

theorem extract_of_short {state : DecodeState conv} (shows : state.payload.Shows bytes)
    (valid : 1 ≤ dop.bitLength ∧ dop.bitLength ≤ 64)
    (short : bytes.length < bytePos + byteLen dop.bitLength) :
    extractDiagDataContainer bytePos bitPos dop.diagCodedType (some dop.compuMethod) state =
      .error ⟨.notEnoughData (bytePos + byteLen dop.bitLength) bytes.length, 0⟩ state := by
  have viewed : view state = .ok bytes state := by
    rw [view, shows.view]
    rfl
  have present : decodeIfPresent dop.diagCodedType bytes bytePos bitPos =
      .error (.notEnoughData (bytePos + byteLen dop.bitLength) bytes.length) := by
    rw [decodeIfPresent, if_neg (by simp [isOptional, diagCodedType])]
    exact @DiagCodedType.decode_of_short dop.diagCodedType _ rfl bitPos
      (DiagCodedType.validateBitPos_numeric dop.numeric bitPos) (dop.valid_iff.mpr valid) valid.1
      bytes bytePos short
  rw [extractDiagDataContainer, bind_of_ok viewed, present]
  rfl

def container (dop : NumberDop conv) (data : List UInt8) : RawContainer conv :=
  ⟨data, dop.bitLength, .uint32, some dop.compuMethod⟩

theorem extract_of_reads {state : DecodeState conv} {number : Nat}
    (shows : state.payload.Shows bytes) (valid : 1 ≤ dop.bitLength ∧ dop.bitLength ≤ 64)
    (fits : bitPos + dop.bitLength ≤ 8 * byteLen dop.bitLength)
    (enough : bytePos + byteLen dop.bitLength ≤ bytes.length) (small : number < 2 ^ dop.bitLength)
    (reads : (dop.place bytePos bitPos).Reads bytes number) :
    ∃ data, extractDiagDataContainer bytePos bitPos dop.diagCodedType (some dop.compuMethod) state =
        .ok (dop.container data) { state with
          payload := state.payload.setLastReadBytePos (bytePos + byteLen dop.bitLength) } ∧
      data.length = byteLen dop.bitLength ∧ value data = number := by
  have position : bitPos ≤ 7 := by
    simp only [byteLen] at fits
    omega
  obtain ⟨data, decoded, length, bits⟩ := @DiagCodedType.decode_reads dop.diagCodedType _
    (DiagCodedType.byteOrder_numeric (.inr rfl)) rfl rfl bitPos position
    (DiagCodedType.validateBitPos_numeric (.inr rfl) bitPos) (dop.valid_iff.mpr valid) valid.1 fits
    bytes bytePos enough
  replace length : data.length = byteLen dop.bitLength := length
  refine ⟨data, ?_, length, ?_⟩
  · have viewed : view state = .ok bytes state := by
      rw [view, shows.view]
      rfl
    have present : decodeIfPresent dop.diagCodedType bytes bytePos bitPos =
        .ok (data, dop.bitLength) := by
      rw [decodeIfPresent, if_neg (by simp [isOptional, diagCodedType]), decoded]
    have given : ¬(data.isEmpty ∧ !isOptional dop.diagCodedType) := by
      intro empty
      rw [List.isEmpty_iff_length_eq_zero, length, byteLen] at empty
      omega
    rw [extractDiagDataContainer, bind_of_ok viewed, present, Decoder.ofExcept, pure_bind]
    simp only [if_neg given, length]
    rfl
  · apply Nat.eq_of_testBit_eq
    intro j
    rw [bits]
    by_cases inField : j < dop.bitLength
    · simp only [inField, decide_true, Bool.true_and]
      exact reads j inField
    · have above := Nat.le_of_not_lt inField
      rw [Nat.testBit_lt_two_pow (small.trans_le (Nat.pow_le_pow_right (by decide) above))]
      simp only [inField, decide_false, Bool.false_and]

theorem value_padMsbToLen (data : List UInt8) (length : Nat) :
    value (padMsbToLen data length) = value data := by
  rw [padMsbToLen, value_append, value_replicate_zero, Nat.mul_zero, Nat.zero_add]

theorem serializable_container {data : List UInt8} (given : 1 ≤ data.length)
    (narrow : data.length ≤ 4) :
    (dop.container data).serializable = .ok (.uint32 (value data)) := by
  have notEmpty : data.isEmpty = false := by
    rw [List.isEmpty_eq_false_iff_exists_mem]
    exact List.exists_mem_of_length_pos given
  simp only [RawContainer.serializable, container, udsDataToSerializable, notEmpty,
    Option.filter_some, dop.identical, DiagDataValue.new, if_neg (Nat.not_lt_of_le narrow),
    value_padMsbToLen]
  simp

end NumberDop

end DiagnosticAdapter.Kernel
