import DiagnosticAdapter.Codec.DiagCodedType

/-!
# Fields of standard length

What `encode` leaves in a payload and what `decode` reads there, bit by bit, for
the numeric base types.
-/

namespace DiagnosticAdapter.Codec

open Bits

theorem swapPairs_swapPairs (data : List UInt8) : swapPairs (swapPairs data) = data := by
  fun_induction swapPairs data with
  | case1 first second rest ih => simp [swapPairs, ih]
  | case2 rest short =>
    rw [swapPairs]
    exact short

theorem length_swapPairs (data : List UInt8) : (swapPairs data).length = data.length := by
  fun_induction swapPairs data with
  | case1 first second rest ih => simp [ih]
  | case2 rest short => rfl

@[simp]
theorem normalizeByteOrder_normalizeByteOrder (data : List UInt8) (order : ByteOrder) :
    normalizeByteOrder (normalizeByteOrder data order) order = data := by
  cases order with
  | keep => rfl
  | reorderPairs => exact swapPairs_swapPairs data
  | reverse => exact List.reverse_reverse data

@[simp]
theorem length_normalizeByteOrder (data : List UInt8) (order : ByteOrder) :
    (normalizeByteOrder data order).length = data.length := by
  cases order with
  | keep => rfl
  | reorderPairs => exact length_swapPairs data
  | reverse => exact List.length_reverse

theorem normalizeByteOrder_replicate (count : Nat) (byte : UInt8) (order : ByteOrder) :
    normalizeByteOrder (List.replicate count byte) order = List.replicate count byte := by
  cases order with
  | keep => rfl
  | reverse => exact List.reverse_replicate
  | reorderPairs =>
    induction count using Nat.twoStepInduction with
    | zero => rfl
    | one => rfl
    | more count ih _ =>
      change _ :: _ :: normalizeByteOrder (List.replicate count byte) .reorderPairs = _
      rw [ih]
      rfl

namespace DiagCodedType

theorem length_extendTo (udsPayload : List UInt8) (length : Nat) :
    (extendTo udsPayload length).length = max udsPayload.length length := by
  rw [extendTo, List.length_append, List.length_replicate]
  omega

theorem extendTo_of_le {udsPayload : List UInt8} {length : Nat}
    (enough : length ≤ udsPayload.length) : extendTo udsPayload length = udsPayload := by
  rw [extendTo, Nat.sub_eq_zero_of_le enough, List.replicate_zero, List.append_nil]

/-- The bytes that a field lies in, most significant byte first.  Bytes that the
payload does not have are zero. -/
def cutOut (self : DiagCodedType) (udsPayload : List UInt8) (bytePos byteCount : Nat) :
    List UInt8 :=
  normalizeByteOrder (((extendTo udsPayload (bytePos + byteCount)).drop bytePos).take byteCount)
    self.byteOrder

@[simp]
theorem length_cutOut (self : DiagCodedType) (udsPayload : List UInt8) (bytePos byteCount : Nat) :
    (self.cutOut udsPayload bytePos byteCount).length = byteCount := by
  rw [cutOut, length_normalizeByteOrder, List.length_take, List.length_drop, length_extendTo]
  omega

/-- The payload with the given bytes, in the payload's order, at a position. -/
def overwrite (udsPayload : List UInt8) (bytePos : Nat) (bytes : List UInt8) : List UInt8 :=
  (extendTo udsPayload (bytePos + bytes.length)).take bytePos ++ bytes ++
    (extendTo udsPayload (bytePos + bytes.length)).drop (bytePos + bytes.length)

theorem length_overwrite (udsPayload : List UInt8) (bytePos : Nat) (bytes : List UInt8) :
    (overwrite udsPayload bytePos bytes).length =
      max udsPayload.length (bytePos + bytes.length) := by
  simp only [overwrite, List.length_append, List.length_take, List.length_drop, length_extendTo]
  omega

theorem cutOut_overwrite (self : DiagCodedType) (udsPayload : List UInt8) (bytePos : Nat)
    (bytes : List UInt8) :
    self.cutOut (overwrite udsPayload bytePos (normalizeByteOrder bytes self.byteOrder)) bytePos
      bytes.length = bytes := by
  have front : ((extendTo udsPayload (bytePos + bytes.length)).take bytePos).length = bytePos := by
    rw [List.length_take, length_extendTo]
    omega
  rw [cutOut, extendTo_of_le (by rw [length_overwrite, length_normalizeByteOrder]; omega)]
  simp only [overwrite, length_normalizeByteOrder, List.append_assoc]
  rw [List.drop_append_of_le_length (by omega), List.drop_of_length_le (by omega),
    List.nil_append, List.take_append_of_le_length (by simp), List.take_of_length_le (by simp),
    normalizeByteOrder_normalizeByteOrder]

section Beyond

variable {udsPayload : List UInt8} {bytePos : Nat} (beyond : udsPayload.length ≤ bytePos)

include beyond

theorem value_cutOut_beyond (self : DiagCodedType) (byteCount : Nat) :
    value (self.cutOut udsPayload bytePos byteCount) = 0 := by
  have zeros : ((extendTo udsPayload (bytePos + byteCount)).drop bytePos).take byteCount =
      List.replicate byteCount 0 := by
    rw [extendTo, List.drop_append, List.drop_of_length_le beyond, List.nil_append,
      List.drop_replicate, List.take_replicate]
    congr 1
    omega
  rw [cutOut, zeros, normalizeByteOrder_replicate, value_replicate_zero]

theorem overwrite_beyond (bytes : List UInt8) :
    overwrite udsPayload bytePos bytes = extendTo udsPayload bytePos ++ bytes := by
  have front : (extendTo udsPayload (bytePos + bytes.length)).take bytePos =
      extendTo udsPayload bytePos := by
    rw [extendTo, extendTo, List.take_append, List.take_of_length_le beyond, List.take_replicate]
    congr 2
    omega
  rw [overwrite, front, List.drop_of_length_le (by rw [length_extendTo]; omega), List.append_nil]

end Beyond

/-- Whether the mask leaves bit `i` of the field as it was. -/
def Packed.spares (packed : Packed) (i : Nat) : Bool :=
  match packed.mask with
  | some mask => !(value mask.data).testBit i
  | none => true

theorem Packed.applyInvertedMask_spec {packed : Packed} (pduCutOut : List UInt8) (bitPos : Nat)
    (masked : ∀ mask, packed.mask = some mask → packed.bitLen ≤ 8 * mask.data.length) :
    ∃ result, packed.applyInvertedMask pduCutOut bitPos = .ok result ∧
      result.length = pduCutOut.length ∧
      ∀ j, (value result).testBit j = ((value pduCutOut).testBit j &&
        (!decide (bitPos ≤ j ∧ j < bitPos + packed.bitLen) || packed.spares (j - bitPos))) := by
  rw [Packed.applyInvertedMask]
  cases hasMask : packed.mask with
  | none => exact ⟨_, rfl, rfl, by simp [Packed.spares, hasMask]⟩
  | some mask =>
    have enough := masked mask hasMask
    obtain ⟨result, applied, length, bits⟩ := @applyBitMask_spec pduCutOut
      (mask.data.map (~~~·)) packed.bitLen bitPos (by rw [List.length_map]; exact enough)
    refine ⟨result, applied, length, ?_⟩
    intro j
    rw [bits, testBit_value_map_not]
    by_cases inField : bitPos ≤ j ∧ j < bitPos + packed.bitLen
    · simp [inField, Packed.spares, hasMask, show j - bitPos < 8 * mask.data.length by omega]
    · simp [inField]

/-- The bytes of a field after a value was written over those of `before`. -/
structure Written (before after : List UInt8) (packed : Packed) (bitPos : Nat) : Prop where
  length : after.length = before.length
  inside : ∀ i, i < packed.bitLen → (value after).testBit (bitPos + i) =
    ((value before).testBit (bitPos + i) && packed.spares i || (value packed.bytes).testBit i)
  outside : ∀ j, j < bitPos ∨ bitPos + packed.bitLen ≤ j →
    (value after).testBit j = (value before).testBit j

theorem writePacked_spec (self : DiagCodedType) {packed : Packed} (udsPayload : List UInt8)
    (bytePos : Nat) {bitPos : Nat} (position : bitPos ≤ 7) (positive : 0 < packed.bitLen)
    (masked : ∀ mask, packed.mask = some mask → packed.bitLen ≤ 8 * mask.data.length) :
    ∃ bytes, self.writePacked packed udsPayload bytePos bitPos =
        .ok (overwrite udsPayload bytePos (normalizeByteOrder bytes self.byteOrder)) ∧
      Written (self.cutOut udsPayload bytePos (byteLen (bitPos + packed.bitLen))) bytes packed
        bitPos := by
  have sliced : slice? (extendTo udsPayload (bytePos + byteLen (bitPos + packed.bitLen))) bytePos
      (bytePos + byteLen (bitPos + packed.bitLen)) =
      some (((extendTo udsPayload (bytePos + byteLen (bitPos + packed.bitLen))).drop bytePos).take
        (byteLen (bitPos + packed.bitLen))) := by
    rw [slice?_of_le (Nat.le_add_right _ _) (by rw [length_extendTo]; omega), Nat.add_sub_cancel_left]
  obtain ⟨guarded, applied, guardedLength, guardedBits⟩ := Packed.applyInvertedMask_spec
    (self.cutOut udsPayload bytePos (byteLen (bitPos + packed.bitLen))) bitPos masked
  obtain ⟨bytes, injected, length, bits⟩ := @injectBits_spec packed.bitLen bitPos guarded
    packed.bytes position positive (guardedLength.trans (length_cutOut _ _ _ _))
  refine ⟨bytes, ?_, length.trans guardedLength, ?_, ?_⟩
  · have total : bytes.length = byteLen (bitPos + packed.bitLen) := by
      rw [length, guardedLength, length_cutOut]
    simp only [writePacked, sliced]
    rw [← cutOut, applied]
    simp only [overwrite, length_normalizeByteOrder, total, bind, Except.bind, injected]
    rfl
  · intro i inField
    rw [bits, guardedBits]
    simp [inField]
  · intro j outField
    rw [bits, guardedBits]
    simp [show ¬(bitPos ≤ j ∧ j < bitPos + packed.bitLen) by omega]

section Whole

variable {data : List UInt8} (given : data ≠ [])

include given

theorem packAligned_eq : packAligned data = .ok ⟨data, data.length * 8, none⟩ := by
  have nonempty : ¬data.length * 8 = 0 := by simpa using given
  have filled : byteLen (data.length * 8) = data.length := by
    rw [byteLen]
    omega
  have copied := @copyData_left (data.length * 8) data (Nat.le_of_eq filled)
  have whole : clearBitsAboveBitLen (data.length * 8) (data.take data.length) = data := by
    rw [clearBitsAboveBitLen, if_neg (by omega), List.take_length]
  rw [filled, whole] at copied
  rw [packAligned, packData, if_neg nonempty]
  simp only [copied]
  rfl

theorem writePacked_cleared (self : DiagCodedType) {udsPayload : List UInt8} {bytePos : Nat}
    (cleared : value (self.cutOut udsPayload bytePos data.length) = 0) :
    self.writePacked ⟨data, data.length * 8, none⟩ udsPayload bytePos 0 =
      .ok (overwrite udsPayload bytePos (normalizeByteOrder data self.byteOrder)) := by
  have positive : 0 < data.length * 8 := by
    have length := List.length_pos_iff.mpr given
    omega
  have filled : byteLen (0 + data.length * 8) = data.length := by
    rw [byteLen]
    omega
  obtain ⟨bytes, written, effect⟩ := @writePacked_spec self ⟨data, data.length * 8, none⟩
    udsPayload bytePos 0 (Nat.zero_le 7) positive (by simp)
  rw [filled] at effect
  have length : bytes.length = data.length := by
    rw [effect.length, length_cutOut]
  have same : bytes = data := by
    apply eq_of_value_eq length
    apply Nat.eq_of_testBit_eq
    intro j
    by_cases inside : j < data.length * 8
    · have bit := effect.inside j inside
      rw [Nat.zero_add, cleared] at bit
      simpa using bit
    · rw [testBit_value_of_length_le (by omega), testBit_value_of_length_le (by omega)]
  rw [written, same]

theorem writePacked_beyond (self : DiagCodedType) {udsPayload : List UInt8} {bytePos : Nat}
    (beyond : udsPayload.length ≤ bytePos) :
    self.writePacked ⟨data, data.length * 8, none⟩ udsPayload bytePos 0 =
      .ok (extendTo udsPayload bytePos ++ normalizeByteOrder data self.byteOrder) := by
  rw [writePacked_cleared given self (value_cutOut_beyond beyond self data.length),
    overwrite_beyond beyond]

theorem unpackData_whole (order : ByteOrder) :
    unpackData (data.length * 8) 0 none (normalizeByteOrder data order) order =
      .ok (data, data.length * 8) := by
  have positive : 0 < data.length * 8 := by
    have length := List.length_pos_iff.mpr given
    omega
  obtain ⟨result, extracted, length, bits⟩ := @extractBits_spec (data.length * 8) 0 data
    (Nat.zero_le 7) positive (by omega)
  have same : result = data := by
    apply eq_of_value_eq
    · rw [length, byteLen]
      omega
    · apply Nat.eq_of_testBit_eq
      intro j
      rw [bits, Nat.zero_add]
      by_cases inside : j < data.length * 8
      · simp [inside]
      · rw [testBit_value_of_length_le (by omega)]
        simp
  simp only [unpackData, normalizeByteOrder_normalizeByteOrder, extracted, same]
  rfl

end Whole

section Numeric

variable {self : DiagCodedType} {slt : StandardLengthType}

section

variable (numeric : self.baseDatatype = .int32 ∨ self.baseDatatype = .uint32)

include numeric

theorem validateBitPos_numeric (bitPos : Nat) : self.validateBitPos bitPos = .ok () := by
  obtain base | base := numeric <;> simp [validateBitPos, base]

theorem alignment_numeric : self.alignment = .right := by
  obtain base | base := numeric <;> simp [alignment, base]

end

theorem validateBitLen_numeric {base : DataType} (numeric : base = .int32 ∨ base = .uint32)
    (bitLen : Nat) : base.validateBitLen bitLen = .ok () ↔ 1 ≤ bitLen ∧ bitLen ≤ 64 := by
  obtain rfl | rfl := numeric <;>
    simp only [DataType.validateBitLen, true_or, or_true, true_and, reduceCtorEq, false_and,
      if_false] <;>
    split_ifs <;> simp <;> omega

theorem posInfo_standardLength (standard : self.type_ = .standardLength slt)
    (valid : self.baseDatatype.validateBitLen slt.bitLength = .ok ()) (udsPayload : List UInt8)
    (bytePos bitPos : Nat) : self.posInfo udsPayload bytePos bitPos =
      .ok ⟨slt.bitLength, bytePos, slt.bitMask.map fun data => ⟨data, slt.condensed⟩⟩ := by
  rw [posInfo, standard]
  simp only [posInfoStandardLen, valid]
  rfl

theorem decode_standardLength {udsPayload : List UInt8} {bytePos bitPos : Nat}
    (standard : self.type_ = .standardLength slt) (aligned : self.validateBitPos bitPos = .ok ())
    (valid : self.baseDatatype.validateBitLen slt.bitLength = .ok ()) (positive : 0 < slt.bitLength)
    (enough : bytePos + byteLen slt.bitLength ≤ udsPayload.length) :
    self.decode udsPayload bytePos bitPos =
      unpackData slt.bitLength bitPos (slt.bitMask.map fun data => ⟨data, slt.condensed⟩)
        (normalizeByteOrder (self.cutOut udsPayload bytePos (byteLen slt.bitLength))
          self.byteOrder) self.byteOrder := by
  have sliced : slice? udsPayload bytePos (bytePos + byteLen slt.bitLength) =
      some (normalizeByteOrder (self.cutOut udsPayload bytePos (byteLen slt.bitLength))
        self.byteOrder) := by
    rw [slice?_of_le (Nat.le_add_right _ _) enough, cutOut, normalizeByteOrder_normalizeByteOrder,
      extendTo_of_le enough, Nat.add_sub_cancel_left]
  simp only [decode, aligned, posInfo_standardLength standard valid, bind, Except.bind,
    if_neg (Nat.ne_of_gt positive),
    if_neg (Nat.not_lt_of_le enough), sliced]

theorem encode_standardLength_spec {inputData : List UInt8} {bitPos : Nat} {packed : Packed}
    (standard : self.type_ = .standardLength slt) (aligned : self.validateBitPos bitPos = .ok ())
    (packs : self.packStandardLen slt inputData = .ok packed) (position : bitPos ≤ 7)
    (positive : 0 < packed.bitLen)
    (masked : ∀ mask, packed.mask = some mask → packed.bitLen ≤ 8 * mask.data.length)
    (udsPayload : List UInt8) (bytePos : Nat) :
    ∃ after, self.encode inputData udsPayload bytePos bitPos = .ok after ∧
      bytePos + byteLen (bitPos + packed.bitLen) ≤ after.length ∧
      Written (self.cutOut udsPayload bytePos (byteLen (bitPos + packed.bitLen)))
        (self.cutOut after bytePos (byteLen (bitPos + packed.bitLen))) packed bitPos := by
  obtain ⟨bytes, writes, effect⟩ :=
    writePacked_spec self udsPayload bytePos position positive masked
  have length : bytes.length = byteLen (bitPos + packed.bitLen) :=
    effect.length.trans (length_cutOut _ _ _ _)
  refine ⟨overwrite udsPayload bytePos (normalizeByteOrder bytes self.byteOrder), ?_, ?_, ?_⟩
  · rw [← writes]
    simp only [encode, aligned, packInput, standard, packs, bind, Except.bind]
    rfl
  · rw [length_overwrite, length_normalizeByteOrder, length]
    omega
  · nth_rewrite 2 [← length]
    rw [cutOut_overwrite]
    exact effect

theorem encode_of_pack_error {inputData udsPayload : List UInt8} {bytePos bitPos : Nat}
    {error : DiagServiceError} (standard : self.type_ = .standardLength slt)
    (aligned : self.validateBitPos bitPos = .ok ())
    (packs : self.packStandardLen slt inputData = .error error) :
    self.encode inputData udsPayload bytePos bitPos = .error error := by
  simp only [encode, aligned, packInput, standard, packs, bind, Except.bind]
  rfl

/-- Where both calls return, a statement about the round trip is one about the data read. -/
theorem exists_decoded_iff {inputData udsPayload after data : List UInt8}
    {bytePos bitPos len number : Nat}
    (encoded : self.encode inputData udsPayload bytePos bitPos = .ok after)
    (decoded : self.decode after bytePos bitPos = .ok (data, len)) :
    (∃ after data, self.encode inputData udsPayload bytePos bitPos = .ok after ∧
      self.decode after bytePos bitPos = .ok (data, len) ∧ value data = number) ↔
      value data = number := by
  constructor
  · rintro ⟨after', data', encoded', decoded', same⟩
    obtain rfl := Except.ok.inj (encoded.symm.trans encoded')
    obtain rfl := (Prod.mk.inj (Except.ok.inj (decoded.symm.trans decoded'))).1
    exact same
  · intro same
    exact ⟨after, data, encoded, decoded, same⟩

end Numeric

end DiagCodedType

end DiagnosticAdapter.Codec
