import DiagnosticAdapter.Codec.Masked

/-!
# Bits as arithmetic

Extracting is a shift and a remainder on the number that the bytes denote; what was injected
into cleared bits is extracted again, and what a condensed mask scattered it gathers.
-/

namespace DiagnosticAdapter.Codec

open Bits

variable {bitLen bitPos : Nat}

theorem eq_toBeBytes {data : List UInt8} {number : Nat} (length : data.length = byteLen bitLen)
    (bits : ∀ j, (value data).testBit j = (decide (j < bitLen) && number.testBit j)) :
    data = toBeBytes (byteLen bitLen) (number % 2 ^ bitLen) := by
  have small : number % 2 ^ bitLen < 2 ^ (8 * byteLen bitLen) := by
    refine (Nat.mod_lt _ (Nat.two_pow_pos _)).trans_le (Nat.pow_le_pow_right (by decide) ?_)
    rw [byteLen]
    omega
  apply eq_of_value_eq
  · rw [length, length_toBeBytes]
  · rw [value_toBeBytes, Nat.mod_eq_of_lt small]
    apply Nat.eq_of_testBit_eq
    intro j
    rw [bits, Nat.testBit_mod_two_pow]

theorem extractBits_eq_ok_iff (data result : List UInt8) :
    extractBits bitLen bitPos data = .ok result ↔
      bitPos ≤ 7 ∧ 0 < bitLen ∧ bitPos + bitLen ≤ 8 * data.length ∧
        result = toBeBytes (byteLen bitLen) ((value data >>> bitPos) % 2 ^ bitLen) := by
  by_cases accepted : bitPos ≤ 7 ∧ 0 < bitLen ∧ bitPos + bitLen ≤ 8 * data.length
  · obtain ⟨position, positive, fits⟩ := accepted
    obtain ⟨found, extracted, length, bits⟩ := extractBits_spec position positive fits
    have same := @eq_toBeBytes bitLen _ (value data >>> bitPos) length (by
      intro j
      rw [bits, Nat.testBit_shiftRight])
    rw [extracted, Except.ok.injEq, same]
    simp [position, positive, fits, eq_comm]
  · constructor
    · intro extracted
      rw [extractBits] at extracted
      split_ifs at extracted
      omega
    · rintro ⟨position, positive, fits, -⟩
      exact absurd ⟨position, positive, fits⟩ accepted

/-- Extracting is a shift and a remainder; injecting into cleared bits changes these alone, and
they are extracted again. -/
theorem bits_are_arithmetic (bitLen bitPos : Nat) :
    (∀ data result, extractBits bitLen bitPos data = .ok result ↔
      bitPos ≤ 7 ∧ 0 < bitLen ∧ bitPos + bitLen ≤ 8 * data.length ∧
        result = toBeBytes (byteLen bitLen) ((value data >>> bitPos) % 2 ^ bitLen)) ∧
    ∀ dstData sourceData, dstData.length = byteLen (bitPos + bitLen) →
      (∀ j, bitPos ≤ j → j < bitPos + bitLen → (value dstData).testBit j = false) →
      sourceData.length = byteLen bitLen →
      ((∃ after, injectBits bitLen bitPos dstData sourceData = .ok after) ↔
        bitPos ≤ 7 ∧ 0 < bitLen) ∧
      ∀ after, injectBits bitLen bitPos dstData sourceData = .ok after →
        after.length = dstData.length ∧
        (∀ j, ¬(bitPos ≤ j ∧ j < bitPos + bitLen) →
          (value after).testBit j = (value dstData).testBit j) ∧
        extractBits bitLen bitPos after =
          .ok (toBeBytes (byteLen bitLen) (value sourceData % 2 ^ bitLen)) := by
  refine ⟨extractBits_eq_ok_iff, ?_⟩
  intro dstData sourceData length cleared _
  by_cases accepted : bitPos ≤ 7 ∧ 0 < bitLen
  · obtain ⟨position, positive⟩ := accepted
    obtain ⟨after, injected, sameLength, bits⟩ :=
      @injectBits_spec bitLen bitPos dstData sourceData position positive length
    refine ⟨iff_of_true ⟨after, injected⟩ ⟨position, positive⟩, ?_⟩
    intro after' injected'
    obtain rfl := Except.ok.inj (injected.symm.trans injected')
    refine ⟨sameLength, ?_, ?_⟩
    · intro j outside
      rw [bits]
      simp [outside]
    · have fits : bitPos + bitLen ≤ 8 * after.length := by
        rw [sameLength, length, byteLen]
        omega
      apply (extractBits_eq_ok_iff after _).mpr ⟨position, positive, fits, ?_⟩
      congr 1
      apply Nat.eq_of_testBit_eq
      intro j
      rw [Nat.testBit_mod_two_pow, Nat.testBit_mod_two_pow, Nat.testBit_shiftRight, bits]
      by_cases inField : j < bitLen
      · rw [cleared _ (by omega) (by omega)]
        simp [inField]
      · simp [inField]
  · have refused : ∀ after, injectBits bitLen bitPos dstData sourceData ≠ .ok after := by
      intro after injected
      rw [injectBits] at injected
      split_ifs at injected
      omega
    refine ⟨iff_of_false (not_exists.mpr refused) accepted, ?_⟩
    intro after injected
    exact absurd injected (refused after)

theorem bits_are_arithmetic_ten : injectBits 10 3 [0xE0, 0x07] [0xFE, 0xA5] = .ok [0xF5, 0x2F] ∧
      extractBits 10 3 [0xF5, 0x2F] = .ok [0x02, 0xA5] := by
  have injected : injectBits 10 3 [0xE0, 0x07] [0xFE, 0xA5] = .ok [0xF5, 0x2F] := by decide
  obtain ⟨_, injects⟩ := bits_are_arithmetic 10 3
  exact ⟨injected, ((injects [0xE0, 0x07] [0xFE, 0xA5] rfl (by decide) rfl).2 _ injected).2.2⟩

/-- The low bits of the data are scattered over the set bits of the mask, in order, and
gathered from there. -/
theorem condensedMask_unpacks_packed (mask data : List UInt8)
    (enough : popcount mask ≤ 8 * data.length) :
    ∃ packed, applyCondensedMaskPacking data mask 0 = .ok (packed, mask.length * 8) ∧
      packed.length = mask.length ∧
      (∀ j, (value packed).testBit j =
        ((value mask).testBit j && (value data).testBit (rank (value mask) j))) ∧
      applyCondensedMaskUnpacking mask packed (8 * mask.length) =
        .ok (toBeBytes (byteLen (popcount mask)) (value data % 2 ^ popcount mask),
          popcount mask) := by
  obtain ⟨packed, packs, length, scattered⟩ := applyCondensedMaskPacking_spec enough
  obtain ⟨gathered, unpacks, gatheredLength, collected, above⟩ :=
    applyCondensedMaskUnpacking_spec length (Nat.le_refl (8 * mask.length)) (value_lt mask)
  refine ⟨packed, packs, length, scattered, ?_⟩
  rw [unpacks]
  congr 2
  apply eq_toBeBytes gatheredLength
  intro k
  by_cases inData : k < popcount mask
  · -- bit `k` lies at the `k`-th set bit of the mask
    have counted := inData
    rw [popcount_eq_rank] at counted
    obtain ⟨j, inMask, set, rfl⟩ := exists_of_lt_rank counted
    rw [collected j inMask set, scattered, set]
    simp [inData]
  · rw [above k (Nat.le_of_not_lt inData)]
    simp [inData]

theorem condensedMask_unpacks_packed_nibble :
    applyCondensedMaskPacking [0x0C] [0x55] 0 = .ok ([0x50], 8) ∧
      applyCondensedMaskUnpacking [0x55] [0x50] 8 = .ok ([0x0C], 4) := by
  have packs : applyCondensedMaskPacking [0x0C] [0x55] 0 = .ok ([0x50], 8) := by decide
  obtain ⟨packed, packed', _, _, unpacked⟩ :=
    condensedMask_unpacks_packed [0x55] [0x0C] (by decide)
  obtain ⟨rfl, _⟩ := Prod.mk.inj (Except.ok.inj (packed'.symm.trans packs))
  exact ⟨packs, unpacked⟩

end DiagnosticAdapter.Codec
