import DiagnosticAdapter.Codec.Cells

/-!
# Fields of whole bytes

A numeric field that starts at bit 0 and fills its bytes: written are the low bytes of the
number, read are the bytes that lie there.
-/

namespace DiagnosticAdapter.Codec.DiagCodedType

open Bits

section

variable {self : DiagCodedType} {slt : StandardLengthType} {byteCount : Nat}
  (standard : self.type_ = .standardLength slt)
  (numeric : self.baseDatatype = .int32 ∨ self.baseDatatype = .uint32)
  (unmasked : slt.bitMask = none)
  (valid : self.baseDatatype.validateBitLen slt.bitLength = .ok ())
  (whole : slt.bitLength = 8 * byteCount)

include standard numeric unmasked valid whole

omit standard in
theorem packStandardLen_wholeBytes (inputData : List UInt8) :
    self.packStandardLen slt inputData =
      .ok ⟨toBeBytes byteCount (value inputData), slt.bitLength, none⟩ := by
  have positive := ((validateBitLen_numeric numeric slt.bitLength).mp valid).1
  obtain ⟨bytes, copied, length, bits⟩ := copyData_right_spec slt.bitLength inputData
  have filled : byteLen slt.bitLength = byteCount := by
    rw [byteLen, whole]
    omega
  have same : bytes = toBeBytes byteCount (value inputData) := by
    apply eq_of_value_eq
    · rw [length, length_toBeBytes, filled]
    · apply Nat.eq_of_testBit_eq
      intro j
      have kept : ¬Cleared slt.bitLength j := by
        intro cleared
        exact cleared.1 (by omega)
      rw [bits, value_toBeBytes, Nat.testBit_mod_two_pow, filled]
      simp [kept]
  simp only [packStandardLen, valid, unmasked, Option.filter_none, Option.map_none, packData,
    alignment_numeric numeric, copied, bind, Except.bind, if_neg (Nat.ne_of_gt positive)]
  simp [pure, Except.pure, same]

theorem encode_wholeBytes (inputData : List UInt8) (bytePos : Nat) :
    self.encode inputData [] bytePos 0 = .ok (List.replicate bytePos 0 ++
      normalizeByteOrder (toBeBytes byteCount (value inputData)) self.byteOrder) := by
  have positive := ((validateBitLen_numeric numeric slt.bitLength).mp valid).1
  have packs := packStandardLen_wholeBytes numeric unmasked valid whole inputData
  have width : slt.bitLength = (toBeBytes byteCount (value inputData)).length * 8 := by
    rw [length_toBeBytes, whole, Nat.mul_comm]
  have given : toBeBytes byteCount (value inputData) ≠ [] := by
    intro empty
    rw [width, empty] at positive
    exact absurd positive (lt_irrefl 0)
  have written := @writePacked_beyond _ given self [] bytePos (Nat.zero_le bytePos)
  rw [← width, extendTo, List.nil_append] at written
  simp only [encode, validateBitPos_numeric numeric, packInput, standard, packs, bind, Except.bind]
  exact written

theorem decode_wholeBytes {payload : List UInt8} {bytePos : Nat}
    (enough : bytePos + byteCount ≤ payload.length) :
    self.decode payload bytePos 0 =
      .ok (normalizeByteOrder ((payload.drop bytePos).take byteCount) self.byteOrder,
        slt.bitLength) := by
  have positive := ((validateBitLen_numeric numeric slt.bitLength).mp valid).1
  have filled : byteLen slt.bitLength = byteCount := by
    rw [byteLen, whole]
    omega
  have length : ((payload.drop bytePos).take byteCount).length = byteCount := by
    rw [List.length_take, List.length_drop]
    omega
  have given : normalizeByteOrder ((payload.drop bytePos).take byteCount) self.byteOrder ≠ [] := by
    rw [← List.length_pos_iff, length_normalizeByteOrder, length]
    omega
  have unpacked := unpackData_whole given self.byteOrder
  rw [length_normalizeByteOrder, length, Nat.mul_comm, ← whole] at unpacked
  rw [← filled] at enough
  rw [decode_standardLength standard (validateBitPos_numeric numeric 0) valid positive enough,
    unmasked, cutOut, extendTo_of_le enough, filled]
  exact unpacked

end

end DiagnosticAdapter.Codec.DiagCodedType
