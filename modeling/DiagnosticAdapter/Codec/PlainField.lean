import DiagnosticAdapter.Codec.Cells
import DiagnosticAdapter.Effects.Stateful

/-!
# Plain fields

Unmasked numbers and byte fields of standard length, and byte fields that reach to the end
of the payload: when the data of a field are written so that they can be read back.
-/

namespace DiagnosticAdapter.Codec

open Bits Effects

inductive FieldLength where
  | number (bitLength : Nat)
  | bytes (bitLength : Nat)
  | toEnd (minLength : Nat) (maxLength : Option Nat)
  deriving DecidableEq, Repr

structure PlainField where
  length : FieldLength
  condensed : Bool
  isHighLowByteOrder : Bool
  deriving DecidableEq, Repr

/-- Whether a field of the length holds the number and the encoder does not clear bits of
it. -/
def Survives (bitLength number : Nat) : Prop :=
  number < 2 ^ bitLength ∧ (bitLength % 8 = 0 ∨ number % 256 < 2 ^ (bitLength % 8))

instance (bitLength number : Nat) : Decidable (Survives bitLength number) :=
  inferInstanceAs (Decidable (_ ∧ _))

namespace PlainField

variable (field : PlainField)

def base : DataType :=
  match field.length with
  | .number _ => .uint32
  | .bytes _ | .toEnd _ _ => .byteField

def diagCodedType : DiagCodedType :=
  ⟨field.base,
    match field.length with
    | .number bitLength | .bytes bitLength => .standardLength ⟨bitLength, none, field.condensed⟩
    | .toEnd minLength maxLength => .minMaxLength ⟨minLength, maxLength, .endOfPdu⟩,
    field.isHighLowByteOrder⟩

def bitLen (data : List UInt8) : Nat :=
  match field.length with
  | .number bitLength | .bytes bitLength => bitLength
  | .toEnd _ _ => 8 * data.length

def place (bytePos bitPos : Nat) (data : List UInt8) : Place :=
  field.diagCodedType.place bytePos bitPos (field.bitLen data)

/-- Whether the data can be read back from a field at the bit position. -/
def Keeps (bitPos : Nat) (data : List UInt8) : Prop :=
  match field.length with
  | .number bitLength => bitLength ≤ 32 ∧ bitPos + bitLength ≤ 8 * byteLen bitLength ∧
      Survives bitLength (value data)
  | .bytes bitLength => data.length = byteLen bitLength ∧ Survives bitLength (value data)
  | .toEnd minLength maxLength => minLength ≤ data.length ∧ ∀ max ∈ maxLength, data.length ≤ max

structure Valid (bitPos : Nat) (data : List UInt8) : Prop where
  bitPos : field.diagCodedType.validateBitPos bitPos = .ok ()
  bitLen : field.base.validateBitLen (field.bitLen data) = .ok ()

variable {field} {bitPos : Nat} {data : List UInt8}

theorem plain (field : PlainField) : field.diagCodedType.byteOrder ≠ .reorderPairs := by
  obtain ⟨length, _, isHighLow⟩ := field
  cases length <;> cases isHighLow <;>
    simp [DiagCodedType.byteOrder, diagCodedType, base]

section

variable (valid : field.Valid bitPos data)

include valid

theorem Valid.positive : 0 < field.bitLen data := by
  have accepted := valid.bitLen
  unfold DataType.validateBitLen at accepted
  split at accepted
  · cases accepted
  · omega

theorem Valid.fits (keeps : field.Keeps bitPos data) :
    bitPos + field.bitLen data ≤ 8 * byteLen (field.bitLen data) := by
  have aligned := valid.bitPos
  obtain ⟨length, condensed, isHighLow⟩ := field
  cases length with
  | number bitLength => exact keeps.2.1
  | bytes bitLength | toEnd minLength maxLength =>
    by_cases front : bitPos = 0
    · simp only [front, byteLen]
      omega
    · simp [DiagCodedType.validateBitPos, diagCodedType, base, front] at aligned

theorem stop_place (keeps : field.Keeps bitPos data) (bytePos : Nat) :
    (field.place bytePos bitPos data).stop = bytePos + byteLen (field.bitLen data) := by
  have fits := valid.fits keeps
  simp only [place, DiagCodedType.place, Place.stop, Place.byteCount, byteLen] at fits ⊢
  omega

end

theorem packData_left {bitLength : Nat} (positive : bitLength ≠ 0)
    (filled : data.length = byteLen bitLength) (survives : Survives bitLength (value data)) :
    ∃ bytes, packData bitLength 0 none data .left = .ok (bytes, bitLength) ∧
      value bytes = value data := by
  have copied := @copyData_left bitLength data (Nat.le_of_eq filled.symm)
  rw [← filled, List.take_length] at copied
  refine ⟨clearBitsAboveBitLen bitLength data, ?_, ?_⟩
  · rw [packData, if_neg positive]
    simp only [copied]
    rfl
  · apply Nat.eq_of_testBit_eq
    intro j
    rw [(clearBitsAboveBitLen_spec filled).2]
    by_cases set : (value data).testBit j = true
    · simp [set, (DiagCodedType.forall_not_cleared_iff bitLength _).mpr survives.2 j set]
    · simp [set]

theorem survives_whole (data : List UInt8) : Survives (8 * data.length) (value data) :=
  ⟨value_lt data, .inl (by omega)⟩

theorem packInput_keeps (valid : field.base.validateBitLen (field.bitLen data) = .ok ())
    (positive : field.bitLen data ≠ 0) (keeps : field.Keeps bitPos data) :
    ∃ bytes, field.diagCodedType.packInput data = .ok (some ⟨bytes, field.bitLen data, none⟩) ∧
      value bytes = value data := by
  obtain ⟨length, condensed, isHighLow⟩ := field
  cases length with
  | number bitLength =>
    obtain ⟨bytes, packs, bits⟩ := @DiagCodedType.packStandardLen_unmasked_spec
      (diagCodedType ⟨.number bitLength, condensed, isHighLow⟩) ⟨bitLength, none, condensed⟩
      (.inr rfl) rfl valid data keeps.2.2.1
    refine ⟨bytes, ?_, ?_⟩
    · simp only [DiagCodedType.packInput, diagCodedType] at packs ⊢
      rw [packs]
      rfl
    · apply Nat.eq_of_testBit_eq
      intro j
      rw [bits]
      by_cases set : (value data).testBit j = true
      · simp [set, (DiagCodedType.forall_not_cleared_iff bitLength _).mpr keeps.2.2.2 j set]
      · simp [set]
  | bytes bitLength =>
    replace positive : bitLength ≠ 0 := positive
    obtain ⟨bytes, packs, same⟩ := packData_left positive keeps.1 keeps.2
    refine ⟨bytes, ?_, same⟩
    replace valid : DataType.byteField.validateBitLen bitLength = .ok () := valid
    simp only [DiagCodedType.packInput, diagCodedType, DiagCodedType.packStandardLen, base, valid,
      DiagCodedType.alignment, Option.filter_none, Option.map_none, bind, Except.bind, packs]
    simp [bitLen, pure, Except.pure]
  | toEnd minLength maxLength =>
    have given : data ≠ [] := by
      rintro rfl
      exact positive rfl
    refine ⟨data, ?_, rfl⟩
    change some <$> DiagCodedType.packAligned data = _
    rw [DiagCodedType.packAligned_eq given, Nat.mul_comm]
    rfl

theorem valid_of_encode {payload after : List UInt8} {bytePos : Nat}
    (encoded : field.diagCodedType.encode data payload bytePos bitPos = .ok after) :
    field.Valid bitPos data := by
  obtain ⟨_, aligned, rest⟩ := exists_of_except_bind encoded
  obtain ⟨packed, packs, _⟩ := exists_of_except_bind rest
  refine ⟨aligned, ?_⟩
  have checked : ∀ {slt : StandardLengthType}, field.diagCodedType.type_ = .standardLength slt →
      field.base.validateBitLen slt.bitLength = .ok () := by
    intro slt standard
    simp only [DiagCodedType.packInput, standard] at packs
    cases packing : field.diagCodedType.packStandardLen slt data with
    | ok packed =>
      obtain ⟨_, valid, _⟩ := exists_of_except_bind packing
      exact valid
    | error error =>
      rw [packing] at packs
      cases packs
  obtain ⟨length, condensed, isHighLow⟩ := field
  cases length with
  | number bitLength | bytes bitLength => exact checked rfl
  | toEnd minLength maxLength =>
    have given : data.length ≠ 0 := by
      intro none
      change some <$> DiagCodedType.packAligned data = _ at packs
      rw [DiagCodedType.packAligned, none] at packs
      cases packs
    simp [DataType.validateBitLen, base, bitLen, given]

theorem encode_adds {payload after : List UInt8} {bytePos : Nat} (keeps : field.Keeps bitPos data)
    (encoded : field.diagCodedType.encode data payload bytePos bitPos = .ok after) :
    field.Valid bitPos data ∧
      after.length = max payload.length (bytePos + byteLen (field.bitLen data)) ∧
      Adds [⟨field.place bytePos bitPos data, value data⟩] payload after := by
  have valid := valid_of_encode encoded
  have position : bitPos ≤ 7 := by
    have fits := valid.fits keeps
    simp only [byteLen] at fits
    omega
  obtain ⟨bytes, packs, same⟩ := packInput_keeps valid.bitLen (Nat.ne_of_gt valid.positive) keeps
  obtain ⟨written, writes, length, adds⟩ := @DiagCodedType.writePacked_adds field.diagCodedType
    field.plain ⟨bytes, field.bitLen data, none⟩ rfl valid.positive payload bytePos bitPos position
  have both : field.diagCodedType.encode data payload bytePos bitPos = .ok written := by
    simp only [DiagCodedType.encode, valid.bitPos, packs, bind, Except.bind]
    exact writes
  obtain rfl := Except.ok.inj (both.symm.trans encoded)
  refine ⟨valid, ?_, ?_⟩
  · rw [length, ← stop_place valid keeps]
    rfl
  · rw [same] at adds
    exact adds

theorem decode_toEnd {minLength : Nat} {maxLength : Option Nat}
    (toEnd : field.length = .toEnd minLength maxLength) (valid : field.Valid bitPos data)
    (keeps : field.Keeps bitPos data) {payload : List UInt8} {bytePos : Nat}
    (rest : bytePos + data.length = payload.length) :
    field.diagCodedType.decode payload bytePos bitPos =
      (diagCodedType ⟨.bytes (8 * data.length), field.condensed, field.isHighLowByteOrder⟩).decode
        payload bytePos bitPos := by
  obtain ⟨length, condensed, isHighLow⟩ := field
  obtain rfl : length = .toEnd minLength maxLength := toEnd
  replace keeps : minLength ≤ data.length ∧ ∀ max ∈ maxLength, data.length ≤ max := keeps
  have whole : DataType.byteField.validateBitLen (8 * data.length) = .ok () := valid.bitLen
  have located : (diagCodedType ⟨.toEnd minLength maxLength, condensed, isHighLow⟩).posInfo payload
      bytePos bitPos = .ok ⟨8 * data.length, bytePos, none⟩ := by
    have left : payload.length - bytePos = data.length := by omega
    have located : DiagCodedType.posInfoMinMaxLen
        (diagCodedType ⟨.toEnd minLength maxLength, condensed, isHighLow⟩) payload bytePos
        ⟨minLength, maxLength, .endOfPdu⟩ =
      if payload.length - bytePos < minLength then
        .error (.notEnoughData (bytePos + minLength) payload.length)
      else .ok ⟨(payload.length - bytePos) * 8, bytePos, none⟩ := by
      cases maxLength with
      | none => rfl
      | some max =>
        have bound := keeps.2 max rfl
        have limit : min (bytePos + max) payload.length = payload.length := by omega
        simp only [DiagCodedType.posInfoMinMaxLen, limit]
        rfl
    rw [left, if_neg (Nat.not_lt_of_le keeps.1), Nat.mul_comm] at located
    exact located
  have locatedBytes : (diagCodedType ⟨.bytes (8 * data.length), condensed, isHighLow⟩).posInfo
      payload bytePos bitPos = .ok ⟨8 * data.length, bytePos, none⟩ := by
    simp only [DiagCodedType.posInfo, diagCodedType, DiagCodedType.posInfoStandardLen, base, whole]
    rfl
  simp only [DiagCodedType.decode, located, locatedBytes]
  rfl

theorem decode_standard_reads {slt : StandardLengthType} {payload : List UInt8} {bytePos : Nat}
    (standard : field.diagCodedType.type_ = .standardLength slt) (unmasked : slt.bitMask = none)
    (same : slt.bitLength = field.bitLen data) (valid : field.Valid bitPos data)
    (keeps : field.Keeps bitPos data) (small : value data < 2 ^ field.bitLen data)
    (enough : bytePos + byteLen (field.bitLen data) ≤ payload.length)
    (reads : (field.place bytePos bitPos data).Reads payload (value data)) :
    ∃ read, field.diagCodedType.decode payload bytePos bitPos = .ok (read, field.bitLen data) ∧
      read.length = byteLen (field.bitLen data) ∧ value read = value data := by
  have fits := valid.fits keeps
  have position : bitPos ≤ 7 := by
    simp only [byteLen] at fits
    omega
  have positive := valid.positive
  have accepted := valid.bitLen
  rw [← same] at fits enough positive accepted
  obtain ⟨read, decoded, length, bits⟩ := DiagCodedType.decode_reads field.plain standard unmasked
    position valid.bitPos accepted positive fits enough
  rw [same] at decoded length bits
  refine ⟨read, decoded, length, ?_⟩
  apply Nat.eq_of_testBit_eq
  intro j
  rw [bits]
  by_cases inField : j < field.bitLen data
  · simp only [inField, decide_true, Bool.true_and]
    exact reads j inField
  · rw [Nat.testBit_lt_two_pow (small.trans_le
      (Nat.pow_le_pow_right (by decide) (Nat.le_of_not_lt inField)))]
    simp [inField]

theorem decode_reads {payload : List UInt8} {bytePos : Nat} (valid : field.Valid bitPos data)
    (keeps : field.Keeps bitPos data)
    (enough : bytePos + byteLen (field.bitLen data) ≤ payload.length)
    (last : ∀ minLength maxLength, field.length = .toEnd minLength maxLength →
      bytePos + data.length = payload.length)
    (reads : (field.place bytePos bitPos data).Reads payload (value data)) :
    ∃ read, field.diagCodedType.decode payload bytePos bitPos = .ok (read, field.bitLen data) ∧
      read.length = byteLen (field.bitLen data) ∧ value read = value data := by
  cases kind : field.length with
  | number bitLength =>
    obtain ⟨length, condensed, isHighLow⟩ := field
    cases kind
    exact decode_standard_reads rfl rfl rfl valid keeps keeps.2.2.1 enough reads
  | bytes bitLength =>
    obtain ⟨length, condensed, isHighLow⟩ := field
    cases kind
    exact decode_standard_reads rfl rfl rfl valid keeps keeps.2.1 enough reads
  | toEnd minLength maxLength =>
    rw [decode_toEnd kind valid keeps (last minLength maxLength kind)]
    obtain ⟨length, condensed, isHighLow⟩ := field
    cases kind
    have filled : data.length = byteLen (8 * data.length) := by
      rw [byteLen]
      omega
    have bytesValid : PlainField.Valid ⟨.bytes (8 * data.length), condensed, isHighLow⟩ bitPos
        data := ⟨valid.bitPos, valid.bitLen⟩
    have bytesKeep : PlainField.Keeps ⟨.bytes (8 * data.length), condensed, isHighLow⟩ bitPos
        data := ⟨filled, survives_whole data⟩
    exact decode_standard_reads rfl rfl rfl bytesValid bytesKeep (value_lt data) enough reads

end PlainField

end DiagnosticAdapter.Codec
