import DiagnosticAdapter.Codec.Field

/-!
# The round trip of a masked field

The encoder applies the mask to the packed value, from bit 0 on; the decoder
applies it to the extracted value from bit `bit_pos` on.  A condensed mask is
packed to whole bytes, which `encode` refuses unless the field has whole bytes.
-/

namespace DiagnosticAdapter.Codec

open Bits Effects

def popcount (mask : List UInt8) : Nat := (mask.map countOnes).sum

theorem popcount_eq_rank (mask : List UInt8) :
    popcount mask = rank (value mask) (8 * mask.length) := by
  induction mask with
  | nil => rfl
  | cons byte rest ih =>
    have low : rank (value (byte :: rest)) (8 * rest.length) =
        rank (value rest) (8 * rest.length) := by
      simp only [rank, Nat.count_eq_card_filter_range]
      congr 1
      apply Finset.filter_congr
      intro i inRange
      rw [testBit_value_cons, if_pos (Finset.mem_range.mp inRange)]
    have high : Nat.count (fun i =>
        (value (byte :: rest)).testBit (8 * rest.length + i) = true) 8 = countOnes byte := by
      simp only [countOnes, testBit_value_cons, Nat.not_lt_of_le (Nat.le_add_right _ _), if_false,
        Nat.add_sub_cancel_left]
    rw [popcount] at ih
    rw [popcount, List.map_cons, List.sum_cons, ih, ← low, ← high, rank, rank,
      List.length_cons, Nat.mul_add, Nat.mul_one, Nat.count_add, Nat.add_comm]

theorem popcount_le (mask : List UInt8) : popcount mask ≤ 8 * mask.length := by
  rw [popcount_eq_rank]
  exact rank_le _ _

theorem applyCondensedMaskPacking_bits (data mask : List UInt8) :
    ∃ result, applyCondensedMaskPacking data mask 0 = .ok (result, mask.length * 8) ∧
      result.length = mask.length ∧
      ∀ j, (value result).testBit j = ((value mask).testBit j &&
        (decide (8 * data.length ≤ rank (value mask) j) ||
          (value data).testBit (rank (value mask) j))) := by
  have packed : ∃ result, applyCondensedMaskPacking data mask 0 = .ok result ∧
      result.2 = mask.length * 8 ∧ result.1.length = mask.length ∧
      ∀ j, (value result.1).testBit j = ((value mask).testBit j &&
        (decide (8 * data.length ≤ rank (value mask) j) ||
          (value data).testBit (rank (value mask) j))) := by
    simp only [applyCondensedMaskPacking, Nat.zero_add]
    -- below `i` the mask's bits are replaced, from `i` on the result is still the mask
    apply forIn_range_bind_spec fun i state => state.2 = min (rank (value mask) i) (8 * data.length) ∧
      state.1.length = mask.length ∧ ∀ j, (value state.1).testBit j = ((value mask).testBit j &&
        (!decide (j < i) || (decide (8 * data.length ≤ rank (value mask) j) ||
          (value data).testBit (rank (value mask) j))))
    · simp
    · intro i inRange state invariant
      obtain ⟨result, dataBitIdx⟩ := state
      obtain ⟨rfl, length, bits⟩ := invariant
      simp only at length bits
      have inside : i < 8 * mask.length := by omega
      by_cases set : (value mask).testBit i = true
      · by_cases dataInside : rank (value mask) i < 8 * data.length
        · have running : min (rank (value mask) i) (8 * data.length) = rank (value mask) i := by
            omega
          obtain ⟨next, written, nextLength, nextBits⟩ := @setBitChecked_spec result i
            (by omega) (bitAt data (byteIndex data.length (rank (value mask) i))
              (rank (value mask) i % 8)) true
          rw [length] at written
          refine ⟨(next, rank (value mask) i + 1), .inl ⟨?_, ?_, nextLength.trans length, ?_⟩⟩
          · rw [running, if_pos ⟨(bitAt_eq_one_iff inside).mpr set, by omega⟩, written]
            rfl
          · rw [rank_succ, if_pos set]
            omega
          · intro j
            rw [nextBits, testBit_bitAt dataInside]
            by_cases same : j = i
            · subst same
              simp [set, Nat.not_le_of_lt dataInside]
            · simp [same, bits, show j < i + 1 ↔ j < i by omega]
        · refine ⟨(result, 8 * data.length), .inl ⟨?_, ?_, length, ?_⟩⟩
          · rw [if_neg (by omega), show min (rank (value mask) i) (8 * data.length) =
              8 * data.length by omega]
            rfl
          · rw [rank_succ, if_pos set]
            omega
          · intro j
            rw [bits]
            by_cases same : j = i
            · subst same
              simp [Nat.le_of_not_lt dataInside]
            · simp [show j < i + 1 ↔ j < i by omega]
      · refine ⟨(result, min (rank (value mask) i) (8 * data.length)), .inl ⟨?_, ?_, length, ?_⟩⟩
        · rw [if_neg fun ⟨one, _⟩ => set ((bitAt_eq_one_iff inside).mp one)]
          rfl
        · rw [rank_succ, if_neg set, Nat.add_zero]
        · intro j
          rw [bits]
          by_cases same : j = i
          · subst same
            simp [set]
          · simp [show j < i + 1 ↔ j < i by omega]
    · intro state invariant
      obtain ⟨_, length, bits⟩ := invariant
      refine ⟨_, rfl, rfl, length, ?_⟩
      intro j
      rw [bits]
      by_cases inside : j < mask.length * 8
      · simp [inside]
      · simp [testBit_value_of_length_le (show 8 * mask.length ≤ j by omega)]
  obtain ⟨⟨result, length⟩, applied, rfl, rest⟩ := packed
  exact ⟨result, applied, rest⟩

theorem applyCondensedMaskPacking_spec {data mask : List UInt8}
    (enough : popcount mask ≤ 8 * data.length) :
    ∃ result, applyCondensedMaskPacking data mask 0 = .ok (result, mask.length * 8) ∧
      result.length = mask.length ∧
      ∀ j, (value result).testBit j =
        ((value mask).testBit j && (value data).testBit (rank (value mask) j)) := by
  obtain ⟨result, applied, length, bits⟩ := applyCondensedMaskPacking_bits data mask
  refine ⟨result, applied, length, ?_⟩
  intro j
  rw [bits]
  by_cases set : (value mask).testBit j = true
  · have inMask : j < 8 * mask.length := by
      by_contra outside
      rw [testBit_value_of_length_le (Nat.le_of_not_lt outside)] at set
      cases set
    have counted := rank_lt_rank set inMask
    rw [← popcount_eq_rank] at counted
    simp [show ¬8 * data.length ≤ rank (value mask) j by omega]
  · simp [set]

theorem applyCondensedMaskUnpacking_spec {bitMask bitField : List UInt8} {bitLen : Nat}
    (lengths : bitField.length = bitMask.length) (within : bitLen ≤ 8 * bitMask.length)
    (small : value bitMask < 2 ^ bitLen) :
    ∃ result, applyCondensedMaskUnpacking bitMask bitField bitLen =
        .ok (result, popcount bitMask) ∧ result.length = byteLen (popcount bitMask) ∧
      (∀ j, j < bitLen → (value bitMask).testBit j = true →
        (value result).testBit (rank (value bitMask) j) = (value bitField).testBit j) ∧
      ∀ k, popcount bitMask ≤ k → (value result).testBit k = false := by
  have total : popcount bitMask = rank (value bitMask) bitLen := by
    rw [popcount_eq_rank, rank_of_lt_two_pow small within]
  have maxBits : min (bitMask.map countOnes).sum bitLen = popcount bitMask := by
    have := rank_le (value bitMask) bitLen
    rw [← popcount]
    omega
  by_cases none : popcount bitMask = 0
  · refine ⟨[], ?_, by rw [none]; rfl, ?_, by simp [value]⟩
    · simp only [applyCondensedMaskUnpacking, maxBits, none, if_true]
    · intro j inField set
      have := rank_lt_rank set inField
      omega
  · have unpacked : ∃ result, applyCondensedMaskUnpacking bitMask bitField bitLen = .ok result ∧
        result.2 = popcount bitMask ∧ result.1.length = byteLen (popcount bitMask) ∧
        (∀ j, j < bitLen → (value bitMask).testBit j = true →
          (value result.1).testBit (rank (value bitMask) j) = (value bitField).testBit j) ∧
        ∀ k, popcount bitMask ≤ k → (value result.1).testBit k = false := by
      simp only [applyCondensedMaskUnpacking, maxBits, if_neg none]
      -- the masked bits below `i` are collected, in order, at the low end
      apply forIn_range_bind_spec fun i state => state.2 = rank (value bitMask) i ∧
        state.1.length = byteLen (popcount bitMask) ∧
        (∀ j, j < i → (value bitMask).testBit j = true →
          (value state.1).testBit (rank (value bitMask) j) = (value bitField).testBit j) ∧
        ∀ k, rank (value bitMask) i ≤ k → (value state.1).testBit k = false
      · refine ⟨rfl, by simp, ?_, ?_⟩
        · intro j below
          omega
        · simp [value_replicate_zero]
      · intro i inRange state invariant
        obtain ⟨result, extracted⟩ := state
        obtain ⟨rfl, length, collected, above⟩ := invariant
        simp only at length collected above
        have inside : i < 8 * bitMask.length := by omega
        have indexed : byteIndex bitField.length i < bitMask.length := by
          simp only [byteIndex]
          omega
        by_cases set : (value bitMask).testBit i = true
        · have room : rank (value bitMask) i < 8 * result.length := by
            have := rank_lt_rank set inRange
            rw [length]
            simp only [byteLen]
            omega
          obtain ⟨next, written, nextLength, nextBits⟩ := setBitChecked_spec room
            (bitAt bitField (byteIndex bitField.length i) (i % 8)) false
          rw [length] at written
          refine ⟨(next, rank (value bitMask) i + 1), .inl ⟨?_, ?_, nextLength.trans length, ?_, ?_⟩⟩
          · rw [if_pos ⟨indexed, by rw [lengths]; exact (bitAt_eq_one_iff inside).mpr set⟩, written]
            rfl
          · rw [rank_succ, if_pos set]
          · intro j below setJ
            rw [nextBits, testBit_bitAt (show i < 8 * bitField.length by omega)]
            by_cases same : j = i
            · subst same
              simp [above]
            · have earlier := rank_lt_rank setJ (show j < i by omega)
              rw [if_neg (Nat.ne_of_lt earlier)]
              exact collected j (by omega) setJ
          · intro k beyond
            rw [rank_succ, if_pos set] at beyond
            rw [nextBits, if_neg (by omega)]
            exact above k (by omega)
        · refine ⟨(result, rank (value bitMask) i), .inl ⟨?_, ?_, length, ?_, ?_⟩⟩
          · have unset := mt (bitAt_eq_one_iff inside).mp set
            rw [← lengths] at unset
            rw [if_neg fun both => unset both.2]
            rfl
          · rw [rank_succ, if_neg set, Nat.add_zero]
          · intro j below setJ
            by_cases same : j = i
            · rw [same] at setJ
              contradiction
            · exact collected j (by omega) setJ
          · intro k beyond
            rw [rank_succ, if_neg set] at beyond
            exact above k beyond
      · intro state invariant
        obtain ⟨counted, length, collected, above⟩ := invariant
        rw [← total] at counted above
        refine ⟨(state.1, popcount bitMask), ?_, rfl, length, collected, above⟩
        rw [counted, length, if_neg (Nat.lt_irrefl _)]
        rfl
    obtain ⟨⟨result, length⟩, applied, rfl, rest⟩ := unpacked
    exact ⟨result, applied, rest⟩

namespace DiagCodedType

/-- Whether the decoder's mask, shifted by `bitPos` once more, lets bit `j` of the
extracted value through. -/
def MaskAdmits (mask bitPos j : Nat) : Prop := j < bitPos ∨ mask.testBit (j - bitPos) = true

instance (mask bitPos j : Nat) : Decidable (MaskAdmits mask bitPos j) :=
  inferInstanceAs (Decidable (_ ∨ _))

/-- What decoding a masked field is to give: the masked bits, condensed or in place. -/
def maskedValue (slt : StandardLengthType) (mask : List UInt8) (number : Nat) : Nat :=
  if slt.condensed then number % 2 ^ popcount mask else number &&& value mask

def maskedLen (slt : StandardLengthType) (mask : List UInt8) : Nat :=
  if slt.condensed then popcount mask else slt.bitLength

/-- A condensed field has whole bytes.  In any other field, a masked bit of the
number is admitted by the shifted mask and not cleared, and an admitted bit
outside the mask was zero before. -/
def Survives (slt : StandardLengthType) (mask bitPos number prior : Nat) : Prop :=
  if slt.condensed then slt.bitLength % 8 = 0
  else
    ∀ j, j < slt.bitLength → (mask.testBit j = true → number.testBit j = true →
        MaskAdmits mask bitPos j ∧ ¬Cleared slt.bitLength j) ∧
      (mask.testBit j = false → MaskAdmits mask bitPos j → prior.testBit (bitPos + j) = false)

section Masked

variable {self : DiagCodedType} {slt : StandardLengthType} {mask : List UInt8}

theorem filter_mask (hasMask : slt.bitMask = some mask) (nonempty : mask ≠ []) :
    (slt.bitMask.filter fun data => !data.isEmpty) = some mask := by
  rw [hasMask, Option.filter_some, if_pos (by simpa using nonempty)]

section

variable (base : self.baseDatatype = .uint32) (hasMask : slt.bitMask = some mask)
  (nonempty : mask ≠ []) (valid : self.baseDatatype.validateBitLen slt.bitLength = .ok ())

include base hasMask nonempty valid

theorem packStandardLen_masked_spec (inPlace : slt.condensed = false)
    (masked : slt.bitLength ≤ 8 * mask.length) (inputData : List UInt8) :
    ∃ bytes, self.packStandardLen slt inputData = .ok ⟨bytes, slt.bitLength, some ⟨mask, false⟩⟩ ∧
      ∀ j, j < slt.bitLength → (value bytes).testBit j =
        ((value inputData).testBit j && !decide (Cleared slt.bitLength j) &&
          (value mask).testBit j) := by
  have positive := ((validateBitLen_numeric (.inr base) slt.bitLength).mp valid).1
  obtain ⟨copy, copied, copyLength, copyBits⟩ := copyData_right_spec slt.bitLength inputData
  obtain ⟨bytes, applied, length, bits⟩ := @applyBitMask_spec copy mask slt.bitLength 0 masked
  refine ⟨bytes, ?_, ?_⟩
  · simp only [packStandardLen, valid, filter_mask hasMask nonempty, Option.map_some, inPlace, packData,
      alignment_numeric (.inr base), copied, applied, bind, Except.bind, Bool.false_eq_true,
      if_false, if_neg (Nat.ne_of_gt positive)]
    simp [pure, Except.pure]
  · intro j inField
    have inBuffer : j < 8 * byteLen slt.bitLength := by
      simp only [byteLen]
      omega
    rw [bits, copyBits]
    simp [inField, inBuffer]

theorem packStandardLen_condensed_spec (condensed : slt.condensed = true)
    (whole : mask.length * 8 = slt.bitLength) {inputData : List UInt8}
    (enough : mask.length ≤ inputData.length) :
    ∃ bytes, self.packStandardLen slt inputData = .ok ⟨bytes, slt.bitLength, some ⟨mask, true⟩⟩ ∧
      ∀ j, (value bytes).testBit j =
        ((value mask).testBit j && (value inputData).testBit (rank (value mask) j)) := by
  have positive := ((validateBitLen_numeric (.inr base) slt.bitLength).mp valid).1
  obtain ⟨bytes, applied, _, bits⟩ := applyCondensedMaskPacking_spec
    ((popcount_le mask).trans (Nat.mul_le_mul_left 8 enough))
  refine ⟨bytes, ?_, bits⟩
  simp only [packStandardLen, valid, filter_mask hasMask nonempty, Option.map_some, condensed,
    packData, applied, bind, Except.bind, if_true, if_neg (Nat.ne_of_gt positive), whole,
    if_neg (Nat.lt_irrefl _)]
  rfl

theorem packStandardLen_condensed_error (condensed : slt.condensed = true)
    (tooLong : mask.length * 8 > slt.bitLength) {inputData : List UInt8}
    (enough : mask.length ≤ inputData.length) :
    ∃ error, self.packStandardLen slt inputData = .error error := by
  have positive := ((validateBitLen_numeric (.inr base) slt.bitLength).mp valid).1
  obtain ⟨bytes, applied, _, _⟩ := applyCondensedMaskPacking_spec
    ((popcount_le mask).trans (Nat.mul_le_mul_left 8 enough))
  simp only [packStandardLen, valid, filter_mask hasMask nonempty, Option.map_some, condensed,
    packData, applied, bind, Except.bind, if_true, if_neg (Nat.ne_of_gt positive), if_pos tooLong]
  exact ⟨_, rfl⟩

end

section

variable {udsPayload : List UInt8} (standard : self.type_ = .standardLength slt)
  (base : self.baseDatatype = .uint32) (hasMask : slt.bitMask = some mask)
  (valid : self.baseDatatype.validateBitLen slt.bitLength = .ok ())

include standard base hasMask valid

theorem decode_masked_spec (inPlace : slt.condensed = false)
    (masked : slt.bitLength ≤ 8 * mask.length) {bytePos bitPos : Nat} (position : bitPos ≤ 7)
    (enough : bytePos + byteLen slt.bitLength ≤ udsPayload.length)
    (fits : bitPos + slt.bitLength ≤ 8 * byteLen slt.bitLength) :
    ∃ data, self.decode udsPayload bytePos bitPos = .ok (data, slt.bitLength) ∧
      ∀ j, (value data).testBit j = (decide (j < slt.bitLength) &&
        (value (self.cutOut udsPayload bytePos (byteLen slt.bitLength))).testBit (bitPos + j) &&
          decide (MaskAdmits (value mask) bitPos j)) := by
  have positive := ((validateBitLen_numeric (.inr base) slt.bitLength).mp valid).1
  obtain ⟨field, extracted, _, fieldBits⟩ := @extractBits_spec slt.bitLength bitPos
    (self.cutOut udsPayload bytePos (byteLen slt.bitLength)) position positive
    (by rw [length_cutOut]; exact fits)
  obtain ⟨data, applied, _, bits⟩ := @applyBitMask_spec field mask slt.bitLength bitPos masked
  refine ⟨data, ?_, ?_⟩
  · rw [decode_standardLength standard (validateBitPos_numeric (.inr base) bitPos) valid positive
      enough]
    simp only [unpackData, normalizeByteOrder_normalizeByteOrder, hasMask, Option.map_some, inPlace,
      extracted, bind, Except.bind, Bool.false_eq_true, if_false, applied]
    rfl
  · intro j
    rw [bits, fieldBits]
    by_cases inField : j < slt.bitLength
    · by_cases low : j < bitPos
      · simp [inField, MaskAdmits, low, show ¬bitPos ≤ j by omega]
      · simp [inField, MaskAdmits, low, Nat.le_of_not_lt low,
          show j < bitPos + slt.bitLength by omega]
    · simp [inField]

theorem decode_condensed_spec (condensed : slt.condensed = true)
    (width : mask.length = byteLen slt.bitLength) (small : value mask < 2 ^ slt.bitLength)
    {bytePos : Nat} (enough : bytePos + byteLen slt.bitLength ≤ udsPayload.length) :
    ∃ data, self.decode udsPayload bytePos 0 = .ok (data, popcount mask) ∧
      (∀ j, j < slt.bitLength → (value mask).testBit j = true →
        (value data).testBit (rank (value mask) j) =
          (value (self.cutOut udsPayload bytePos (byteLen slt.bitLength))).testBit j) ∧
      ∀ k, popcount mask ≤ k → (value data).testBit k = false := by
  have positive := ((validateBitLen_numeric (.inr base) slt.bitLength).mp valid).1
  have within : slt.bitLength ≤ 8 * byteLen slt.bitLength := by
    simp only [byteLen]
    omega
  obtain ⟨field, extracted, length, fieldBits⟩ := @extractBits_spec slt.bitLength 0
    (self.cutOut udsPayload bytePos (byteLen slt.bitLength)) (by decide) positive
    (by rw [length_cutOut, Nat.zero_add]; exact within)
  obtain ⟨data, applied, _, collected, above⟩ := applyCondensedMaskUnpacking_spec
    (length.trans width.symm) (by rw [width]; exact within) small
  refine ⟨data, ?_, ?_, above⟩
  · rw [decode_standardLength standard (validateBitPos_numeric (.inr base) 0) valid positive enough]
    simp only [unpackData, normalizeByteOrder_normalizeByteOrder, hasMask, Option.map_some,
      condensed, extracted, bind, Except.bind, if_true, applied]
  · intro j inField set
    rw [collected j inField set, fieldBits]
    simp [inField]

end

/-- A masked field comes back as its masked value exactly where `Survives` holds
of the mask, the number and the bits that were in the payload before. -/
theorem decode_encode_masked_iff (standard : self.type_ = .standardLength slt)
    (base : self.baseDatatype = .uint32)
    (valid : self.baseDatatype.validateBitLen slt.bitLength = .ok ())
    (hasMask : slt.bitMask = some mask) (width : mask.length = byteLen slt.bitLength)
    (smallMask : value mask < 2 ^ slt.bitLength) {bitPos : Nat}
    (fits : bitPos + slt.bitLength ≤ 8 * byteLen slt.bitLength)
    (udsPayload : List UInt8) (bytePos : Nat) {inputData : List UInt8}
    (small : value inputData < 2 ^ slt.bitLength)
    (enough : byteLen slt.bitLength ≤ inputData.length) :
    (∃ after data, self.encode inputData udsPayload bytePos bitPos = .ok after ∧
        self.decode after bytePos bitPos = .ok (data, maskedLen slt mask) ∧
        value data = maskedValue slt mask (value inputData)) ↔
      Survives slt (value mask) bitPos (value inputData)
        (value (self.cutOut udsPayload bytePos (byteLen slt.bitLength))) := by
  have positive := ((validateBitLen_numeric (.inr base) slt.bitLength).mp valid).1
  have nonempty : mask ≠ [] := by
    rintro rfl
    simp only [List.length_nil, byteLen] at width
    omega
  have position : bitPos ≤ 7 := by
    simp only [byteLen] at fits
    omega
  have masked : slt.bitLength ≤ 8 * mask.length := by omega
  have cut : byteLen (bitPos + slt.bitLength) = byteLen slt.bitLength := by
    simp only [byteLen] at fits ⊢
    omega
  cases mode : slt.condensed with
  | false =>
    obtain ⟨bytes, packs, packedBits⟩ :=
      packStandardLen_masked_spec base hasMask nonempty valid mode masked inputData
    obtain ⟨after, encoded, long, effect⟩ := @encode_standardLength_spec self slt inputData bitPos
      _ standard (validateBitPos_numeric (.inr base) bitPos) packs position positive
      (by simpa using masked) udsPayload bytePos
    simp only [cut] at effect long
    obtain ⟨data, decoded, dataBits⟩ := decode_masked_spec standard base hasMask valid mode masked
      position long fits
    simp only [maskedLen, maskedValue, Survives, mode, Bool.false_eq_true, if_false]
    rw [exists_decoded_iff encoded decoded]
    have bit : ∀ j, j < slt.bitLength →
        ((value data).testBit j = (value inputData &&& value mask).testBit j ↔
          ((value mask).testBit j = true → (value inputData).testBit j = true →
            MaskAdmits (value mask) bitPos j ∧ ¬Cleared slt.bitLength j) ∧
          ((value mask).testBit j = false → MaskAdmits (value mask) bitPos j →
            (value (self.cutOut udsPayload bytePos (byteLen slt.bitLength))).testBit
              (bitPos + j) = false)) := by
      intro j inField
      rw [dataBits, effect.inside j inField, packedBits j inField, Nat.testBit_and]
      simp only [Packed.spares, inField, decide_true, Bool.true_and]
      by_cases admits : MaskAdmits (value mask) bitPos j <;>
        by_cases cleared : Cleared slt.bitLength j <;>
        cases (value mask).testBit j <;> cases (value inputData).testBit j <;>
        simp [admits, cleared]
    constructor
    · intro same j inField
      exact (bit j inField).mp (by rw [same])
    · intro survives
      apply Nat.eq_of_testBit_eq
      intro j
      by_cases inField : j < slt.bitLength
      · exact (bit j inField).mpr (survives j inField)
      · rw [dataBits, Nat.testBit_and, Nat.testBit_lt_two_pow (small.trans_le
          (Nat.pow_le_pow_right (by decide) (Nat.le_of_not_lt inField)))]
        simp [inField]
  | true =>
    simp only [maskedLen, maskedValue, Survives, mode, if_true]
    by_cases whole : slt.bitLength % 8 = 0
    · have length : mask.length * 8 = slt.bitLength := by
        rw [width, byteLen]
        omega
      obtain rfl : bitPos = 0 := by
        simp only [byteLen] at fits
        omega
      obtain ⟨bytes, packs, packedBits⟩ := packStandardLen_condensed_spec base hasMask nonempty
        valid mode length (width.trans_le enough)
      obtain ⟨after, encoded, long, effect⟩ := @encode_standardLength_spec self slt inputData 0 _
        standard (validateBitPos_numeric (.inr base) 0) packs position positive
        (by simpa using masked) udsPayload bytePos
      simp only [cut] at effect long
      obtain ⟨data, decoded, collected, above⟩ := decode_condensed_spec standard base hasMask valid
        mode width smallMask long
      rw [exists_decoded_iff encoded decoded]
      refine iff_of_true ?_ whole
      apply Nat.eq_of_testBit_eq
      intro k
      rw [Nat.testBit_mod_two_pow]
      by_cases inData : k < popcount mask
      · -- bit `k` was collected from the `k`-th set bit of the mask
        have counted := inData
        rw [popcount_eq_rank, rank_of_lt_two_pow smallMask masked] at counted
        obtain ⟨j, inField, set, rfl⟩ := exists_of_lt_rank counted
        have inside := effect.inside j inField
        rw [Nat.zero_add, packedBits, set] at inside
        rw [collected j inField set, inside]
        simp [Packed.spares, set, inData]
      · rw [above k (Nat.le_of_not_lt inData)]
        simp [inData]
    · have tooLong : mask.length * 8 > slt.bitLength := by
        rw [width, byteLen]
        omega
      obtain ⟨error, packs⟩ := packStandardLen_condensed_error base hasMask nonempty valid mode
        tooLong (width.trans_le enough)
      refine iff_of_false ?_ whole
      rintro ⟨after, data, encoded, _⟩
      rw [encode_of_pack_error standard (validateBitPos_numeric (.inr base) bitPos) packs]
        at encoded
      cases encoded

end Masked

def outerBits : DiagCodedType :=
  ⟨.uint32, .standardLength ⟨12, some [0x0F, 0x0F], false⟩, true⟩

theorem decode_encode_masked_iff_outer_bits :
    ∃ after data, outerBits.encode [0x03, 0xA5] [0x22, 0xFF, 0xFF] 1 0 = .ok after ∧
      outerBits.decode after 1 0 = .ok (data, 12) ∧
      value data = value [0x03, 0xA5] &&& value [0x0F, 0x0F] :=
  (@decode_encode_masked_iff outerBits _ [0x0F, 0x0F] rfl rfl (by decide) rfl rfl (by decide) 0
    (by decide) [0x22, 0xFF, 0xFF] 1 [0x03, 0xA5] (by decide) (by decide)).mpr (by
      simp only [Survives]
      decide)

/-- The upper half of a byte, of which the mask covers the lower two bits. -/
def upperHalf : DiagCodedType :=
  ⟨.uint32, .standardLength ⟨4, some [0x03], false⟩, true⟩

/-- The decoder's mask starts at bit 4 of a value that has four bits: the bits
outside the mask come from the payload, and `0x1` is read back as `0xD`. -/
theorem decode_leaks_unmasked_bits :
    upperHalf.baseDatatype.validateBitLen 4 = .ok () ∧ [(0x03 : UInt8)].length = byteLen 4 ∧
      value [0x03] < 2 ^ 4 ∧ 4 + 4 ≤ 8 * byteLen 4 ∧ value [0x01] < 2 ^ 4 ∧
      ¬∃ after data, upperHalf.encode [0x01] [0xF0] 0 4 = .ok after ∧
        upperHalf.decode after 0 4 = .ok (data, 4) ∧
        value data = value [0x01] &&& value [0x03] := by
  refine ⟨by decide, by decide, by decide, by decide, by decide, ?_⟩
  have written : upperHalf.encode [0x01] [0xF0] 0 4 = .ok [0xD0] := by decide
  have read : upperHalf.decode [0xD0] 0 4 = .ok ([0x0D], 4) := by decide
  rw [exists_decoded_iff written read]
  decide

end DiagCodedType

end DiagnosticAdapter.Codec
