import DiagnosticAdapter.Codec.BitAccess

/-!
# Masks, packing and byte order

`pack_data`, `unpack_data` and the mask functions of `diag_coded_type.rs`.
-/

namespace DiagnosticAdapter.Codec

open Bits Effects

structure Mask where
  data : List UInt8
  condensed : Bool
  deriving DecidableEq, Repr

inductive ByteOrder where
  | keep
  | reorderPairs
  | reverse
  deriving DecidableEq, Repr

inductive DataAlignment where
  | right
  | left
  deriving DecidableEq, Repr

/-- `get(start..end)` -/
def slice? (data : List UInt8) (start stop : Nat) : Option (List UInt8) :=
  if start ≤ stop ∧ stop ≤ data.length then some ((data.drop start).take (stop - start)) else none

/-- The bit at `offset` of the byte at `index`, 0 where there is no such byte. -/
def bitAt (data : List UInt8) (index offset : Nat) : UInt8 :=
  match data[index]? with
  | some byte => bitOf byte offset
  | none => 0

def applyBitMask (data mask : List UInt8) (bitLen bitPos : Nat) :
    Except DiagServiceError (List UInt8) := do
  let mut data := data
  for i in List.range bitLen do
    if bitPos + i ≥ data.length * 8 then
      break
    let maskBit := bitAt mask (byteIndex mask.length i) (i % 8)
    let dataByteIdx := byteIndex data.length (bitPos + i)
    let dataBitPos := (bitPos + i) % 8
    let dataBit := bitAt data dataByteIdx dataBitPos
    data ← setBitChecked data dataByteIdx dataBitPos (dataBit &&& maskBit) true
  return data

def countOnes (byte : UInt8) : Nat := Nat.count (fun i => byte.toNat.testBit i = true) 8

def applyCondensedMaskUnpacking (bitMask bitField : List UInt8) (bitLen : Nat) :
    Except DiagServiceError (List UInt8 × Nat) :=
  let maxBits := min (bitMask.map countOnes).sum bitLen
  if maxBits = 0 then .ok ([], 0)
  else do
    let resultByteCount := byteLen maxBits
    let mut resultBytes := List.replicate resultByteCount 0
    let mut extractedBitsCount := 0
    for i in List.range bitLen do
      let srcByteIndex := byteIndex bitField.length i
      let srcBitOffset := i % 8
      if srcByteIndex < bitMask.length ∧ bitAt bitMask srcByteIndex srcBitOffset = 1 then
        let bitValue := bitAt bitField srcByteIndex srcBitOffset
        resultBytes ← setBitChecked resultBytes (byteIndex resultByteCount extractedBitsCount)
          (extractedBitsCount % 8) bitValue false
        extractedBitsCount := extractedBitsCount + 1
    if byteLen extractedBitsCount < resultBytes.length then
      resultBytes := resultBytes.drop (byteLen extractedBitsCount)
    return (resultBytes, maxBits)

def applyCondensedMaskPacking (data mask : List UInt8) (bitPos : Nat) :
    Except DiagServiceError (List UInt8 × Nat) := do
  let mut result := mask
  let mut dataBitIdx := 0
  for maskBitIdx in List.range (mask.length * 8) do
    let maskByteIdx := byteIndex mask.length maskBitIdx
    let maskBitPos := maskBitIdx % 8
    if bitAt mask maskByteIdx maskBitPos = 1 ∧ dataBitIdx < data.length * 8 then
      let dataBit := bitAt data (byteIndex data.length (bitPos + dataBitIdx))
        ((bitPos + dataBitIdx) % 8)
      result ← setBitChecked result maskByteIdx maskBitPos dataBit true
      dataBitIdx := dataBitIdx + 1
  return (result, mask.length * 8)

def swapPairs : List UInt8 → List UInt8
  | first :: second :: rest => second :: first :: swapPairs rest
  | rest => rest

def normalizeByteOrder (data : List UInt8) : ByteOrder → List UInt8
  | .keep => data
  | .reorderPairs => swapPairs data
  | .reverse => data.reverse

def unpackData (bitLen bitPos : Nat) (mask : Option Mask) (data : List UInt8)
    (byteOrder : ByteOrder) : Except DiagServiceError (List UInt8 × Nat) := do
  let bitData ← extractBits bitLen bitPos (normalizeByteOrder data byteOrder)
  match mask with
  | some mask =>
    if mask.condensed then
      applyCondensedMaskUnpacking mask.data bitData bitLen
    else do
      let bitData ← applyBitMask bitData mask.data bitLen bitPos
      return (bitData, bitLen)
  | none => return (bitData, bitLen)

/-- Clears the high bits of the byte at `bitLength / 8`, counted from the front. -/
def clearBitsAboveBitLen (bitLength : Nat) (result : List UInt8) : List UInt8 :=
  let remainder := bitLength % 8
  if remainder ≠ 0 then
    result.modify (bitLength / 8) fun lastByte =>
      lastByte &&& (((1 : UInt8) <<< UInt8.ofNat remainder) - 1)
  else result

def checkedCopyAligned (data result : List UInt8) (copyBytes startIdx : Nat)
    (alignment : DataAlignment) : Except DiagServiceError (List UInt8) :=
  match slice? result startIdx (startIdx + copyBytes) with
  | none => .error (.badPayload "Result slice out of bounds")
  | some _ =>
    let src := match alignment with
      | .right => slice? data (data.length - copyBytes) data.length
      | .left => slice? data 0 copyBytes
    match src with
    | none => .error (.badPayload "Data slice out of bounds")
    | some src => .ok (result.take startIdx ++ src ++ result.drop (startIdx + copyBytes))

/-- The part of `pack_data` that both its copying branches share: the data in a
zeroed buffer, cut to the bit length. -/
def copyData (bitLen : Nat) (data : List UInt8) (alignment : DataAlignment) :
    Except DiagServiceError (List UInt8) := do
  let resultByteLen := byteLen bitLen
  let copyBytes := min data.length resultByteLen
  let startIdx := match alignment with
    | .right => resultByteLen - copyBytes
    | .left => 0
  let result ← checkedCopyAligned data (List.replicate resultByteLen 0) copyBytes startIdx alignment
  return clearBitsAboveBitLen bitLen result

def packData (bitLen bitPos : Nat) (mask : Option Mask) (data : List UInt8)
    (alignment : DataAlignment) : Except DiagServiceError (List UInt8 × Nat) :=
  if bitLen = 0 then .error (.badPayload "Cannot insert 0 bits")
  else
    match mask with
    | some mask =>
      if mask.condensed then applyCondensedMaskPacking data mask.data bitPos
      else do
        let result ← copyData bitLen data alignment
        let result ← applyBitMask result mask.data bitLen bitPos
        return (result, bitLen)
    | none => do
      let result ← copyData bitLen data alignment
      return (result, bitLen)

theorem testBit_bitAt {data : List UInt8} {i : Nat} (inside : i < 8 * data.length) :
    (bitAt data (byteIndex data.length i) (i % 8)).toNat.testBit 0 = (value data).testBit i := by
  obtain ⟨byte, found, bit⟩ := getElem_byteIndex inside
  rw [bitAt, found]
  exact (testBit_bitOf byte (Nat.mod_lt _ (by decide))).trans bit

theorem bitAt_eq_one_iff {data : List UInt8} {i : Nat} (inside : i < 8 * data.length) :
    bitAt data (byteIndex data.length i) (i % 8) = 1 ↔ (value data).testBit i = true := by
  rw [← testBit_bitAt inside]
  obtain ⟨byte, found, _⟩ := getElem_byteIndex inside
  rw [bitAt, found]
  exact bitOf_eq_one_iff byte _

/-- Bit `i` of a mask; past its end the first byte repeats. -/
def maskBit (mask : List UInt8) (i : Nat) : Bool :=
  (bitAt mask (byteIndex mask.length i) (i % 8)).toNat.testBit 0

theorem applyBitMask_bits (data mask : List UInt8) (bitLen bitPos : Nat) :
    ∃ result, applyBitMask data mask bitLen bitPos = .ok result ∧ result.length = data.length ∧
      ∀ j, (value result).testBit j = ((value data).testBit j &&
        (!decide (bitPos ≤ j ∧ j < bitPos + bitLen) || maskBit mask (j - bitPos))) := by
  simp only [applyBitMask]
  apply forIn_range_bind_spec fun i result => result.length = data.length ∧
    ∀ j, (value result).testBit j = ((value data).testBit j &&
      (!decide (bitPos ≤ j ∧ j < bitPos + i) || maskBit mask (j - bitPos)))
  · refine ⟨rfl, ?_⟩
    intro j
    simp [show ¬(bitPos ≤ j ∧ j < bitPos) by omega]
  · intro i inRange result invariant
    obtain ⟨length, bits⟩ := invariant
    by_cases beyond : bitPos + i ≥ result.length * 8
    · -- the data ends here: the bits still to be masked do not exist
      refine ⟨result, .inr ⟨?_, length, ?_⟩⟩
      · rw [if_pos beyond]
        rfl
      · intro j
        rw [bits]
        by_cases outside : 8 * data.length ≤ j
        · simp [testBit_value_of_length_le outside]
        · have : j < bitPos + i := by omega
          have : j < bitPos + bitLen := by omega
          simp [*]
    · have inside : bitPos + i < 8 * result.length := by omega
      obtain ⟨next, written, nextLength, nextBits⟩ := setBitChecked_spec inside
        (bitAt result (byteIndex result.length (bitPos + i)) ((bitPos + i) % 8) &&&
          bitAt mask (byteIndex mask.length i) (i % 8)) true
      refine ⟨next, .inl ⟨?_, nextLength.trans length, ?_⟩⟩
      · rw [if_neg beyond, written]
        rfl
      · intro j
        rw [nextBits, UInt8.toNat_and, Nat.testBit_and, testBit_bitAt inside, bits, bits]
        by_cases same : j = bitPos + i
        · subst same
          simp [maskBit]
        · simp [same, show (bitPos ≤ j ∧ j < bitPos + (i + 1)) ↔
            (bitPos ≤ j ∧ j < bitPos + i) by omega]
  · intro result invariant
    exact ⟨result, rfl, invariant⟩

theorem applyBitMask_spec {data mask : List UInt8} {bitLen : Nat} (bitPos : Nat)
    (masked : bitLen ≤ 8 * mask.length) :
    ∃ result, applyBitMask data mask bitLen bitPos = .ok result ∧ result.length = data.length ∧
      ∀ j, (value result).testBit j = ((value data).testBit j &&
        (!decide (bitPos ≤ j ∧ j < bitPos + bitLen) || (value mask).testBit (j - bitPos))) := by
  obtain ⟨result, applied, length, bits⟩ := applyBitMask_bits data mask bitLen bitPos
  refine ⟨result, applied, length, fun j => ?_⟩
  rw [bits]
  by_cases inField : bitPos ≤ j ∧ j < bitPos + bitLen
  · rw [maskBit, testBit_bitAt (show j - bitPos < 8 * mask.length by omega)]
  · simp [inField]

/-- The bits that `clear_bits_above_bit_len` sets to zero, in the last byte of a buffer of the
field's length. -/
def Cleared (bitLen j : Nat) : Prop := bitLen % 8 ≠ 0 ∧ bitLen % 8 ≤ j ∧ j < 8

instance (bitLen j : Nat) : Decidable (Cleared bitLen j) :=
  inferInstanceAs (Decidable (_ ∧ _))

theorem clearBitsAboveBitLen_spec {bitLen : Nat} {result : List UInt8}
    (length : result.length = byteLen bitLen) :
    (clearBitsAboveBitLen bitLen result).length = result.length ∧
      ∀ j, (value (clearBitsAboveBitLen bitLen result)).testBit j =
        ((value result).testBit j && !decide (Cleared bitLen j)) := by
  by_cases whole : bitLen % 8 = 0
  · simp [clearBitsAboveBitLen, whole, Cleared]
  · obtain ⟨front, byte, back, rfl, frontLength, modified⟩ :=
      List.exists_of_modify (fun lastByte =>
        lastByte &&& (((1 : UInt8) <<< UInt8.ofNat (bitLen % 8)) - 1))
        (show bitLen / 8 < result.length by
          rw [length, byteLen]
          omega)
    have last : back = [] := by
      rw [List.length_append, List.length_cons, frontLength, byteLen] at length
      exact List.eq_nil_of_length_eq_zero (by omega)
    subst last
    simp only [clearBitsAboveBitLen, ne_eq, whole, not_false_eq_true, if_true, modified]
    refine ⟨by simp, ?_⟩
    intro j
    rw [testBit_value_append, testBit_value_append]
    by_cases inLast : j < 8
    · simp only [List.length_cons, List.length_nil, Nat.zero_add, Nat.mul_one, inLast, if_true,
        testBit_value_cons, Nat.mul_zero, Nat.not_lt_zero, if_false, Nat.sub_zero,
        testBit_and_ones _ (Nat.mod_lt bitLen (by decide : 0 < 8))]
      by_cases low : j < bitLen % 8
      · simp [Cleared, low, Nat.not_le_of_lt low]
      · simp [Cleared, whole, inLast, low, Nat.le_of_not_lt low]
    · simp [Cleared, inLast]

theorem slice?_of_le {data : List UInt8} {start stop : Nat} (ordered : start ≤ stop)
    (within : stop ≤ data.length) :
    slice? data start stop = some ((data.drop start).take (stop - start)) :=
  if_pos ⟨ordered, within⟩

theorem checkedCopyAligned_right (data : List UInt8) {copyBytes startIdx : Nat}
    (available : copyBytes ≤ data.length) :
    checkedCopyAligned data (List.replicate (startIdx + copyBytes) 0) copyBytes startIdx .right =
      .ok (List.replicate startIdx 0 ++ data.drop (data.length - copyBytes)) := by
  have target : startIdx + copyBytes ≤ (List.replicate (startIdx + copyBytes) (0 : UInt8)).length := by
    simp
  have rest : data.length - (data.length - copyBytes) = copyBytes := by omega
  simp only [checkedCopyAligned, slice?_of_le (Nat.le_add_right _ _) target,
    slice?_of_le (Nat.sub_le data.length copyBytes) (Nat.le_refl _), rest]
  simp [List.take_of_length_le (show (data.drop (data.length - copyBytes)).length ≤ copyBytes by
    rw [List.length_drop]; omega)]

theorem copyData_left {bitLen : Nat} {data : List UInt8} (enough : byteLen bitLen ≤ data.length) :
    copyData bitLen data .left = .ok (clearBitsAboveBitLen bitLen (data.take (byteLen bitLen))) := by
  have target : 0 + byteLen bitLen ≤ (List.replicate (byteLen bitLen) (0 : UInt8)).length := by
    simp
  have source : slice? data 0 (byteLen bitLen) = some (data.take (byteLen bitLen)) :=
    slice?_of_le (Nat.zero_le _) enough
  simp only [copyData, checkedCopyAligned, Nat.min_eq_right enough,
    slice?_of_le (Nat.zero_le _) target, source]
  simp [bind, Except.bind, pure, Except.pure]

theorem copyData_right_spec (bitLen : Nat) (data : List UInt8) :
    ∃ result, copyData bitLen data .right = .ok result ∧ result.length = byteLen bitLen ∧
      ∀ j, (value result).testBit j = (decide (j < 8 * byteLen bitLen) &&
        (value data).testBit j && !decide (Cleared bitLen j)) := by
  have copied := @checkedCopyAligned_right data (min data.length (byteLen bitLen))
    (byteLen bitLen - min data.length (byteLen bitLen)) (by omega)
  rw [show byteLen bitLen - min data.length (byteLen bitLen) +
    min data.length (byteLen bitLen) = byteLen bitLen by omega] at copied
  obtain ⟨length, bits⟩ := @clearBitsAboveBitLen_spec bitLen
    (List.replicate (byteLen bitLen - min data.length (byteLen bitLen)) 0 ++
      data.drop (data.length - min data.length (byteLen bitLen)))
    (by simp; omega)
  refine ⟨_, by simp only [copyData, copied]; rfl, length.trans (by simp; omega), ?_⟩
  intro j
  rw [bits]
  congr 1
  rw [value_append, value_replicate_zero, Nat.mul_zero, Nat.zero_add, value_drop,
    Nat.testBit_mod_two_pow]
  by_cases outside : 8 * data.length ≤ j
  · simp [testBit_value_of_length_le outside]
  · congr 1
    simp
    omega

end DiagnosticAdapter.Codec
