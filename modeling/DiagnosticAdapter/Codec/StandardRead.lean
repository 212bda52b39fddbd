import DiagnosticAdapter.Codec.Field
import DiagnosticAdapter.Effects.Stateful

/-!
# Reading a field of standard length

Whether a field of standard length can be decoded, and what comes out, depends only on
the bytes that are cut out for it.
-/

namespace DiagnosticAdapter.Codec

open Bits Effects

theorem length_of_extractBits {bitLen bitPos : Nat} {data result : List UInt8}
    (extracted : extractBits bitLen bitPos data = .ok result) :
    result.length = byteLen bitLen ∧ bitPos ≤ 7 ∧ 0 < bitLen ∧
      bitPos + bitLen ≤ 8 * data.length := by
  have position : bitPos ≤ 7 := by
    by_contra far
    rw [extractBits, if_pos (by omega)] at extracted
    cases extracted
  have positive : 0 < bitLen := by
    by_contra none
    rw [extractBits, if_neg (by omega), if_pos (by omega)] at extracted
    cases extracted
  have fits : bitPos + bitLen ≤ 8 * data.length := by
    by_contra long
    rw [extractBits, if_neg (by omega), if_neg (by omega), if_pos (by omega)] at extracted
    cases extracted
  obtain ⟨other, again, length, _⟩ := extractBits_spec position positive fits
  obtain rfl := Except.ok.inj (again.symm.trans extracted)
  exact ⟨length, position, positive, fits⟩

namespace DiagCodedType

variable {self : DiagCodedType} {slt : StandardLengthType} {bytePos bitPos : Nat}

def fieldBytes (slt : StandardLengthType) (bytes : List UInt8) (bytePos : Nat) : List UInt8 :=
  (bytes.drop bytePos).take (byteLen slt.bitLength)

def readField (self : DiagCodedType) (slt : StandardLengthType) (bitPos : Nat)
    (field : List UInt8) : Except DiagServiceError (List UInt8 × Nat) := do
  self.validateBitPos bitPos
  self.baseDatatype.validateBitLen slt.bitLength
  unpackData slt.bitLength bitPos (slt.bitMask.map fun data => ⟨data, slt.condensed⟩) field
    self.byteOrder

theorem validateBitLen_pos {dataType : DataType} {bitLen : Nat} {checked : Unit}
    (valid : dataType.validateBitLen bitLen = .ok checked) : 0 < bitLen := by
  by_contra none
  rw [DataType.validateBitLen, if_pos (by omega)] at valid
  cases valid

theorem decode_standard_eq_ok_iff (standard : self.type_ = .standardLength slt)
    {bytes : List UInt8} {read : List UInt8 × Nat} :
    self.decode bytes bytePos bitPos = .ok read ↔ bytePos + byteLen slt.bitLength ≤ bytes.length ∧
        self.readField slt bitPos (fieldBytes slt bytes bytePos) = .ok read := by
  simp only [decode, readField, except_bind_eq_ok_iff, posInfo, standard, posInfoStandardLen]
  constructor
  · intro decoded
    obtain ⟨aligned, isAligned, info, ⟨valid, isValid, located⟩, decoded⟩ := decoded
    cases located
    have positive := validateBitLen_pos isValid
    dsimp only at decoded
    rw [if_neg (by omega)] at decoded
    split at decoded
    · cases decoded
    · rename_i enough
      rw [slice?_of_le (Nat.le_add_right _ _) (by omega), Nat.add_sub_cancel_left] at decoded
      exact ⟨by omega, aligned, isAligned, valid, isValid, decoded⟩
  · intro read
    obtain ⟨enough, aligned, isAligned, valid, isValid, read⟩ := read
    have positive := validateBitLen_pos isValid
    refine ⟨aligned, isAligned, _, ⟨valid, isValid, rfl⟩, ?_⟩
    dsimp only
    rw [if_neg (by omega), if_neg (by omega), slice?_of_le (Nat.le_add_right _ _) enough,
      Nat.add_sub_cancel_left]
    exact read

theorem length_of_readField (unmasked : slt.bitMask = none) {field : List UInt8}
    {read : List UInt8 × Nat} (decoded : self.readField slt bitPos field = .ok read) :
    read.1.length = byteLen slt.bitLength ∧ 0 < slt.bitLength ∧
      bitPos + slt.bitLength ≤ 8 * field.length := by
  simp only [readField, except_bind_eq_ok_iff, unpackData, unmasked, Option.map_none] at decoded
  obtain ⟨_, _, _, _, data, extracted, made⟩ := decoded
  cases made
  obtain ⟨length, _, positive, fits⟩ := length_of_extractBits extracted
  rw [length_normalizeByteOrder] at fits
  exact ⟨length, positive, fits⟩

theorem fieldBytes_drop (bytes : List UInt8) (start : Nat) :
    fieldBytes slt (bytes.drop start) bytePos = fieldBytes slt bytes (start + bytePos) := by
  rw [fieldBytes, fieldBytes, List.drop_drop]

end DiagCodedType

end DiagnosticAdapter.Codec
