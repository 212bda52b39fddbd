import DiagnosticAdapter.Codec.StandardRead

/-!
# Writing a field of standard length into an empty payload

What the decoder reads back are the lowest bits of the encoder's buffer, for all base
types.
-/

namespace DiagnosticAdapter.Codec

open Bits Effects

theorem value_toBeBytes_of_lt {count number : Nat} (small : number < 2 ^ (8 * count)) :
    value (toBeBytes count number) = number := by
  rw [value_toBeBytes, Nat.mod_eq_of_lt small]

theorem exists_copyData (bitLen : Nat) (data : List UInt8) (alignment : DataAlignment) :
    ∃ bytes, copyData bitLen data alignment = .ok bytes := by
  cases alignment with
  | right =>
    obtain ⟨bytes, copied, _⟩ := copyData_right_spec bitLen data
    exact ⟨bytes, copied⟩
  | left =>
    have target : 0 + min data.length (byteLen bitLen) ≤
        (List.replicate (byteLen bitLen) (0 : UInt8)).length := by
      rw [List.length_replicate]
      omega
    have source : min data.length (byteLen bitLen) ≤ data.length := Nat.min_le_left _ _
    simp only [copyData, checkedCopyAligned, slice?_of_le (Nat.le_add_right _ _) target,
      slice?_of_le (Nat.zero_le _) source]
    exact ⟨_, rfl⟩

namespace DiagCodedType

variable {self : DiagCodedType} {slt : StandardLengthType} {bytePos bitPos : Nat}

theorem readField_eq_ok_iff (unmasked : slt.bitMask = none) (field : List UInt8)
    (read : List UInt8 × Nat) :
    self.readField slt bitPos field = .ok read ↔ self.validateBitPos bitPos = .ok () ∧
        self.baseDatatype.validateBitLen slt.bitLength = .ok () ∧ bitPos ≤ 7 ∧
        bitPos + slt.bitLength ≤ 8 * field.length ∧
        read = (toBeBytes (byteLen slt.bitLength)
          (value (normalizeByteOrder field self.byteOrder) / 2 ^ bitPos % 2 ^ slt.bitLength),
          slt.bitLength) := by
  simp only [readField, except_bind_eq_ok_iff, unpackData, unmasked, Option.map_none]
  have extracts {data : List UInt8} (position : bitPos ≤ 7) (positive : 0 < slt.bitLength)
      (fits : bitPos + slt.bitLength ≤ 8 * field.length) :
      extractBits slt.bitLength bitPos (normalizeByteOrder field self.byteOrder) = .ok data ↔
        data = toBeBytes (byteLen slt.bitLength)
          (value (normalizeByteOrder field self.byteOrder) / 2 ^ bitPos % 2 ^ slt.bitLength) := by
    obtain ⟨result, extracted, length, bits⟩ := extractBits_spec position positive
      ((length_normalizeByteOrder field self.byteOrder).symm ▸ fits)
    have same : result = toBeBytes (byteLen slt.bitLength)
        (value (normalizeByteOrder field self.byteOrder) / 2 ^ bitPos % 2 ^ slt.bitLength) := by
      apply eq_of_value_eq
      · rw [length, length_toBeBytes]
      · apply Nat.eq_of_testBit_eq
        intro j
        rw [bits, value_toBeBytes, Nat.testBit_mod_two_pow, Nat.testBit_mod_two_pow,
          Nat.testBit_div_two_pow, Nat.add_comm j bitPos]
        by_cases inField : j < slt.bitLength
        · have inBuffer : j < 8 * byteLen slt.bitLength := by
            rw [byteLen]
            omega
          simp [inField, inBuffer]
        · simp [inField]
    rw [extracted, ← same, Except.ok.injEq, eq_comm]
  constructor
  · intro decoded
    obtain ⟨_, aligned, _, valid, data, extracted, made⟩ := decoded
    obtain ⟨_, position, positive, fits⟩ := length_of_extractBits extracted
    rw [length_normalizeByteOrder] at fits
    cases made
    rw [extracts position positive fits] at extracted
    exact ⟨aligned, valid, position, fits, by rw [extracted]⟩
  · intro decoded
    obtain ⟨aligned, valid, position, fits, rfl⟩ := decoded
    exact ⟨(), aligned, (), valid, _,
      (extracts position (validateBitLen_pos valid) fits).2 rfl, rfl⟩

theorem exists_readField (unmasked : slt.bitMask = none)
    (aligned : self.validateBitPos bitPos = .ok ())
    (valid : self.baseDatatype.validateBitLen slt.bitLength = .ok ()) (position : bitPos ≤ 7)
    (fits : bitPos + slt.bitLength ≤ 8 * byteLen slt.bitLength) {number : Nat}
    (small : number < 2 ^ slt.bitLength) :
    ∃ field, field.length = byteLen slt.bitLength ∧ self.readField slt bitPos field =
        .ok (toBeBytes (byteLen slt.bitLength) number, slt.bitLength) := by
  refine ⟨normalizeByteOrder (toBeBytes (byteLen slt.bitLength) (number * 2 ^ bitPos))
    self.byteOrder, ?_, ?_⟩
  · rw [length_normalizeByteOrder, length_toBeBytes]
  · have bound : number * 2 ^ bitPos < 2 ^ (8 * byteLen slt.bitLength) := by
      calc number * 2 ^ bitPos < 2 ^ slt.bitLength * 2 ^ bitPos :=
            Nat.mul_lt_mul_of_pos_right small (Nat.two_pow_pos _)
        _ = 2 ^ (bitPos + slt.bitLength) := by rw [← Nat.pow_add, Nat.add_comm]
        _ ≤ 2 ^ (8 * byteLen slt.bitLength) := Nat.pow_le_pow_right (by decide) fits
    rw [readField_eq_ok_iff unmasked, length_normalizeByteOrder, length_toBeBytes,
      normalizeByteOrder_normalizeByteOrder, value_toBeBytes_of_lt bound,
      Nat.mul_div_cancel _ (Nat.two_pow_pos _), Nat.mod_eq_of_lt small]
    exact ⟨aligned, valid, position, fits, rfl⟩

variable (standard : self.type_ = .standardLength slt) (unmasked : slt.bitMask = none)

include standard unmasked

theorem packInput_unmasked (valid : self.baseDatatype.validateBitLen slt.bitLength = .ok ())
    {data bytes : List UInt8} (copied : copyData slt.bitLength data self.alignment = .ok bytes) :
    self.packStandardLen slt data = .ok ⟨bytes, slt.bitLength, none⟩ ∧
      self.packInput data = .ok (some ⟨bytes, slt.bitLength, none⟩) := by
  have packs : self.packStandardLen slt data = .ok ⟨bytes, slt.bitLength, none⟩ := by
    have positive : slt.bitLength ≠ 0 := Nat.ne_of_gt (validateBitLen_pos valid)
    simp only [packStandardLen, valid, unmasked, Option.filter_none, Option.map_none, packData,
      copied, bind, Except.bind, if_neg positive]
    simp [pure, Except.pure]
  refine ⟨packs, ?_⟩
  rw [packInput, standard]
  dsimp only
  rw [packs]
  rfl

theorem checks_of_encode {data udsPayload after : List UInt8}
    (encoded : self.encode data udsPayload bytePos bitPos = .ok after) :
    self.validateBitPos bitPos = .ok () ∧
      self.baseDatatype.validateBitLen slt.bitLength = .ok () ∧ bitPos ≤ 7 := by
  rw [encode, except_bind_eq_ok_iff] at encoded
  obtain ⟨_, aligned, encoded⟩ := encoded
  rw [except_bind_eq_ok_iff] at encoded
  obtain ⟨packed, packs, written⟩ := encoded
  rw [packInput, standard] at packs
  have valid : self.baseDatatype.validateBitLen slt.bitLength = .ok () := by
    cases checked : self.baseDatatype.validateBitLen slt.bitLength with
    | ok value => rfl
    | error failure =>
      simp only [packStandardLen, checked] at packs
      cases packs
  refine ⟨aligned, valid, ?_⟩
  by_contra far
  obtain ⟨bytes, copied⟩ := exists_copyData slt.bitLength data self.alignment
  have made := (packInput_unmasked standard unmasked valid copied).2
  rw [packInput, standard] at made
  rw [made] at packs
  cases packs
  simp only [writePacked] at written
  split at written
  · cases written
  · simp only [Packed.applyInvertedMask, except_bind_eq_ok_iff] at written
    obtain ⟨_, _, _, injected, _⟩ := written
    rw [injectBits, if_pos (by omega)] at injected
    cases injected

theorem readField_of_encode {data bytes : List UInt8}
    (aligned : self.validateBitPos bitPos = .ok ())
    (valid : self.baseDatatype.validateBitLen slt.bitLength = .ok ()) (position : bitPos ≤ 7)
    (copied : copyData slt.bitLength data self.alignment = .ok bytes) (bytePos : Nat) :
    ∃ after, self.encode data [] bytePos bitPos = .ok after ∧
      bytePos + byteLen slt.bitLength ≤ after.length ∧
      (bitPos + slt.bitLength ≤ 8 * byteLen slt.bitLength →
        self.readField slt bitPos (fieldBytes slt after bytePos) =
          .ok (toBeBytes (byteLen slt.bitLength) (value bytes % 2 ^ slt.bitLength),
            slt.bitLength)) := by
  have positive := validateBitLen_pos valid
  obtain ⟨after, encoded, long, effect⟩ := encode_standardLength_spec standard aligned
    (packInput_unmasked standard unmasked valid copied).1 position positive (by simp) [] bytePos
  have enough : bytePos + byteLen slt.bitLength ≤ after.length := by
    simp only [byteLen] at long ⊢
    omega
  refine ⟨after, encoded, enough, fun fits => ?_⟩
  have width : byteLen (bitPos + slt.bitLength) = byteLen slt.bitLength := by
    simp only [byteLen] at fits ⊢
    omega
  have cut : normalizeByteOrder (fieldBytes slt after bytePos) self.byteOrder =
      self.cutOut after bytePos (byteLen slt.bitLength) := by
    rw [cutOut, extendTo_of_le enough, fieldBytes]
  have length : (fieldBytes slt after bytePos).length = byteLen slt.bitLength := by
    rw [fieldBytes, List.length_take, List.length_drop]
    omega
  rw [readField_eq_ok_iff unmasked, cut, length]
  refine ⟨aligned, valid, position, fits, ?_⟩
  congr 2
  simp only [width] at effect
  apply Nat.eq_of_testBit_eq
  intro j
  rw [Nat.testBit_mod_two_pow, Nat.testBit_mod_two_pow, Nat.testBit_div_two_pow,
    Nat.add_comm j bitPos]
  by_cases inField : j < slt.bitLength
  · rw [effect.inside j inField, value_cutOut_beyond (Nat.zero_le _), Nat.zero_testBit]
    simp
  · simp [inField]

end DiagCodedType

end DiagnosticAdapter.Codec
