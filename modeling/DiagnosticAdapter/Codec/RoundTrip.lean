import DiagnosticAdapter.Codec.Field

/-!
# The round trip of an unmasked numeric field

The decoder cuts out `bit_length.div_ceil(8)` bytes, the encoder
`(bit_pos + bit_length).div_ceil(8)`; and the encoder clears the high bits of the
last byte of its buffer, where the lowest bits of a number lie.
-/

namespace DiagnosticAdapter.Codec.DiagCodedType

open Bits

section RoundTrip

variable {self : DiagCodedType} {slt : StandardLengthType}

theorem packStandardLen_unmasked_spec
    (numeric : self.baseDatatype = .int32 ∨ self.baseDatatype = .uint32)
    (unmasked : slt.bitMask = none)
    (valid : self.baseDatatype.validateBitLen slt.bitLength = .ok ())
    {inputData : List UInt8} (small : value inputData < 2 ^ slt.bitLength) :
    ∃ bytes, self.packStandardLen slt inputData = .ok ⟨bytes, slt.bitLength, none⟩ ∧
      ∀ j, (value bytes).testBit j =
        ((value inputData).testBit j && !decide (Cleared slt.bitLength j)) := by
  have positive := ((validateBitLen_numeric numeric slt.bitLength).mp valid).1
  obtain ⟨bytes, copied, length, bits⟩ := copyData_right_spec slt.bitLength inputData
  refine ⟨bytes, ?_, ?_⟩
  · simp only [packStandardLen, valid, unmasked, Option.filter_none, Option.map_none, packData,
      alignment_numeric numeric, copied, bind, Except.bind, if_neg (Nat.ne_of_gt positive)]
    simp [pure, Except.pure]
  · intro j
    rw [bits]
    by_cases inBuffer : j < 8 * byteLen slt.bitLength
    · simp [inBuffer]
    · rw [Nat.testBit_lt_two_pow (small.trans_le (Nat.pow_le_pow_right (by decide)
        (show slt.bitLength ≤ j by simp only [byteLen] at inBuffer; omega)))]
      simp

theorem decode_unmasked_spec (standard : self.type_ = .standardLength slt)
    (numeric : self.baseDatatype = .int32 ∨ self.baseDatatype = .uint32)
    (unmasked : slt.bitMask = none)
    (valid : self.baseDatatype.validateBitLen slt.bitLength = .ok ())
    {udsPayload : List UInt8} {bytePos bitPos : Nat} (position : bitPos ≤ 7)
    (enough : bytePos + byteLen slt.bitLength ≤ udsPayload.length)
    (fits : bitPos + slt.bitLength ≤ 8 * byteLen slt.bitLength) :
    ∃ data, self.decode udsPayload bytePos bitPos = .ok (data, slt.bitLength) ∧
      data.length = byteLen slt.bitLength ∧
      ∀ j, (value data).testBit j = (decide (j < slt.bitLength) &&
        (value (self.cutOut udsPayload bytePos (byteLen slt.bitLength))).testBit (bitPos + j)) := by
  have positive := ((validateBitLen_numeric numeric slt.bitLength).mp valid).1
  obtain ⟨data, extracted, length, bits⟩ := @extractBits_spec slt.bitLength bitPos
    (self.cutOut udsPayload bytePos (byteLen slt.bitLength)) position positive
    (by rw [length_cutOut]; exact fits)
  refine ⟨data, ?_, length, bits⟩
  rw [decode_standardLength standard (validateBitPos_numeric numeric bitPos) valid positive enough]
  simp only [unpackData, normalizeByteOrder_normalizeByteOrder, unmasked, Option.map_none, extracted]
  rfl

theorem decode_of_crossing (standard : self.type_ = .standardLength slt)
    (numeric : self.baseDatatype = .int32 ∨ self.baseDatatype = .uint32)
    (valid : self.baseDatatype.validateBitLen slt.bitLength = .ok ())
    {udsPayload : List UInt8} {bytePos bitPos : Nat} (position : bitPos ≤ 7)
    (enough : bytePos + byteLen slt.bitLength ≤ udsPayload.length)
    (crosses : 8 * byteLen slt.bitLength < bitPos + slt.bitLength) :
    ∃ error, self.decode udsPayload bytePos bitPos = .error error := by
  have positive := ((validateBitLen_numeric numeric slt.bitLength).mp valid).1
  rw [decode_standardLength standard (validateBitPos_numeric numeric bitPos) valid positive enough]
  simp only [unpackData, normalizeByteOrder_normalizeByteOrder, extractBits,
    if_neg (Nat.not_lt_of_le position), if_neg (Nat.ne_of_gt positive), length_cutOut,
    if_pos (show bitPos + slt.bitLength > byteLen slt.bitLength * 8 by omega)]
  exact ⟨_, rfl⟩

theorem forall_not_cleared_iff (bitLen number : Nat) :
    (∀ j, number.testBit j = true → ¬Cleared bitLen j) ↔
      bitLen % 8 = 0 ∨ number % 256 < 2 ^ (bitLen % 8) := by
  constructor
  · intro clear
    by_cases whole : bitLen % 8 = 0
    · exact .inl whole
    · apply Or.inr
      apply Nat.lt_pow_two_of_testBit
      intro j above
      rw [show (256 : Nat) = 2 ^ 8 from rfl, Nat.testBit_mod_two_pow]
      by_cases low : j < 8
      · by_cases set : number.testBit j = true
        · exact absurd ⟨whole, above, low⟩ (clear j set)
        · simp [set]
      · simp [low]
  · intro condition j set cleared
    obtain ⟨notWhole, above, low⟩ := cleared
    have small := condition.resolve_left notWhole
    have bit : (number % 256).testBit j = true := by
      rw [show (256 : Nat) = 2 ^ 8 from rfl, Nat.testBit_mod_two_pow]
      simp [low, set]
    rw [Nat.testBit_lt_two_pow (small.trans_le (Nat.pow_le_pow_right (by decide) above))] at bit
    contradiction

/-- The addressed bits are zero before.  A number comes back exactly where its
field lies in the bytes that the decoder cuts out and its lowest byte survives
the clearing of the last byte. -/
theorem decode_encode_iff (standard : self.type_ = .standardLength slt)
    (numeric : self.baseDatatype = .int32 ∨ self.baseDatatype = .uint32)
    (unmasked : slt.bitMask = none)
    (valid : self.baseDatatype.validateBitLen slt.bitLength = .ok ())
    (inputData udsPayload : List UInt8) (bytePos : Nat) {bitPos : Nat} (position : bitPos ≤ 7)
    (small : value inputData < 2 ^ slt.bitLength)
    (vacant : ∀ i, i < slt.bitLength →
      (value (self.cutOut udsPayload bytePos (byteLen (bitPos + slt.bitLength)))).testBit
        (bitPos + i) = false) :
    (∃ after data, self.encode inputData udsPayload bytePos bitPos = .ok after ∧
        self.decode after bytePos bitPos = .ok (data, slt.bitLength) ∧
        value data = value inputData) ↔
      bitPos + slt.bitLength ≤ 8 * byteLen slt.bitLength ∧
        (slt.bitLength % 8 = 0 ∨ value inputData % 256 < 2 ^ (slt.bitLength % 8)) := by
  have positive := ((validateBitLen_numeric numeric slt.bitLength).mp valid).1
  obtain ⟨bytes, packs, packedBits⟩ :=
    packStandardLen_unmasked_spec numeric unmasked valid small
  obtain ⟨after, encoded, long, effect⟩ := @encode_standardLength_spec self slt inputData bitPos _
    standard (validateBitPos_numeric numeric bitPos) packs position positive (by simp) udsPayload
    bytePos
  have enough : bytePos + byteLen slt.bitLength ≤ after.length := by
    simp only [byteLen] at long ⊢
    omega
  by_cases fits : bitPos + slt.bitLength ≤ 8 * byteLen slt.bitLength
  · have width : byteLen (bitPos + slt.bitLength) = byteLen slt.bitLength := by
      simp only [byteLen] at fits ⊢
      omega
    simp only [width] at effect vacant
    obtain ⟨data, decoded, _, dataBits⟩ :=
      decode_unmasked_spec standard numeric unmasked valid position enough fits
    have decodedBits : ∀ j, (value data).testBit j =
        ((value inputData).testBit j && !decide (Cleared slt.bitLength j)) := by
      intro j
      rw [dataBits]
      by_cases inField : j < slt.bitLength
      · rw [effect.inside j inField, vacant j inField, packedBits]
        simp [inField]
      · rw [Nat.testBit_lt_two_pow (small.trans_le (Nat.pow_le_pow_right (by decide)
          (Nat.le_of_not_lt inField)))]
        simp [inField]
    rw [exists_decoded_iff encoded decoded, ← forall_not_cleared_iff]
    constructor
    · intro same
      refine ⟨fits, ?_⟩
      intro j set cleared
      have bit := decodedBits j
      rw [same, set] at bit
      simp [cleared] at bit
    · rintro ⟨_, clear⟩
      apply Nat.eq_of_testBit_eq
      intro j
      rw [decodedBits]
      by_cases set : (value inputData).testBit j = true
      · simp [set, clear j set]
      · simp [set]
  · obtain ⟨error, failed⟩ := decode_of_crossing standard numeric valid position enough
      (Nat.lt_of_not_le fits)
    constructor
    · rintro ⟨after', data, encoded', decoded', _⟩
      obtain rfl := Except.ok.inj (encoded.symm.trans encoded')
      rw [failed] at decoded'
      cases decoded'
    · rintro ⟨fits', _⟩
      exact absurd fits' fits

end RoundTrip

def twelveBits : DiagCodedType :=
  ⟨.uint32, .standardLength ⟨12, none, false⟩, false⟩

theorem decode_encode_iff_twelve_bits :
    ∃ after data, twelveBits.encode [0x03, 0x05] [0x22, 0x0C] 1 4 = .ok after ∧
      twelveBits.decode after 1 4 = .ok (data, 12) ∧ value data = value [0x03, 0x05] :=
  (@decode_encode_iff twelveBits _ rfl (.inr rfl) rfl (by decide) [0x03, 0x05] [0x22, 0x0C] 1
    _ (by decide) (by decide) (by decide)).mpr (by decide)

/-- The field is accepted and its bits are free, yet `0xABC` is read back as `0xA0C`. -/
theorem encode_loses_low_bits :
    twelveBits.baseDatatype.validateBitLen 12 = .ok () ∧ value [0x0A, 0xBC] < 2 ^ 12 ∧
      (∀ i, i < 12 → (value (twelveBits.cutOut [0x22] 1 (byteLen 12))).testBit (0 + i) = false) ∧
      ¬∃ after data, twelveBits.encode [0x0A, 0xBC] [0x22] 1 0 = .ok after ∧
        twelveBits.decode after 1 0 = .ok (data, 12) ∧ value data = value [0x0A, 0xBC] := by
  refine ⟨by decide, by decide, by decide, ?_⟩
  have written : twelveBits.encode [0x0A, 0xBC] [0x22] 1 0 = .ok [0x22, 0x0C, 0x0A] := by decide
  have read : twelveBits.decode [0x22, 0x0C, 0x0A] 1 0 = .ok ([0x0A, 0x0C], 12) := by decide
  rw [exists_decoded_iff written read]
  decide

end DiagnosticAdapter.Codec.DiagCodedType
