import DiagnosticAdapter.Codec.Masked
import DiagnosticAdapter.Codec.Patches
import DiagnosticAdapter.Codec.StandardWrite

/-!
# What encoding leaves alone

A value is written to the bytes of its field, and there to the bits that its mask admits.
Bits are only set where no mask clears them first, so what lay there shows through.
-/

namespace DiagnosticAdapter.Codec.DiagCodedType

open Bits Effects

section Frame

variable {self : DiagCodedType} {inputData udsPayload after : List UInt8} {bytePos bitPos : Nat}
  {packed : Packed}

/-- The mask that a value is written through; an empty one is none. -/
def writeMask (self : DiagCodedType) : Option Mask :=
  match self.type_ with
  | .standardLength slt =>
    (slt.bitMask.filter fun data => !data.isEmpty).map fun data => ⟨data, slt.condensed⟩
  | _ => none

/-- The number of bits that are written for an input: for a condensed mask its own. -/
def bitsWritten (self : DiagCodedType) (inputData : List UInt8) : Nat :=
  match self.type_ with
  | .leadingLengthInfo bits => 8 * (byteLen bits + inputData.length)
  | .minMaxLength mmlt => 8 * (self.withTermination mmlt.termination inputData).length
  | .standardLength slt =>
    match self.writeMask with
    | some mask => if mask.condensed then 8 * mask.data.length else slt.bitLength
    | none => slt.bitLength
  | .paramLengthInfo _ => 8 * inputData.length

theorem packAligned_written {data : List UInt8} (packs : packAligned data = .ok packed) :
    packed.bitLen = 8 * data.length ∧ 0 < packed.bitLen ∧ packed.mask = none := by
  by_cases given : data = []
  · subst given
    cases packs
  · rw [packAligned_eq given] at packs
    cases packs
    have length := List.length_pos_iff.mpr given
    simp only [and_true]
    omega

theorem packLeadingLen_written {bits : Nat} (packs : packLeadingLen bits inputData = .ok packed) :
    packed.bitLen = 8 * (byteLen bits + inputData.length) ∧ 0 < packed.bitLen ∧
      packed.mask = none := by
  unfold packLeadingLen at packs
  dsimp only at packs
  split at packs
  · cases packs
  · rename_i front sliced
    split_ifs at packs
    obtain ⟨bitLen, rest⟩ := packAligned_written packs
    refine ⟨?_, rest⟩
    rw [slice?] at sliced
    split_ifs at sliced with within
    obtain rfl := Option.some.inj sliced
    simp only [bitLen, List.length_append, List.length_take, List.drop_zero]
    omega

theorem packInput_written
    (sized : ∀ slt mask, self.type_ = .standardLength slt → slt.bitMask = some mask →
      mask.length = byteLen slt.bitLength)
    (packs : self.packInput inputData = .ok (some packed)) :
    packed.bitLen = self.bitsWritten inputData ∧ 0 < packed.bitLen ∧ packed.mask = self.writeMask ∧
      ∀ mask, packed.mask = some mask → packed.bitLen ≤ 8 * mask.data.length ∧
        ∀ i, i < packed.bitLen → (value mask.data).testBit i = false →
          (value packed.bytes).testBit i = false := by
  have unmasked : packed.bitLen = self.bitsWritten inputData ∧ 0 < packed.bitLen ∧
      packed.mask = none → self.writeMask = none → packed.bitLen = self.bitsWritten inputData ∧
      0 < packed.bitLen ∧ packed.mask = self.writeMask ∧
      ∀ mask, packed.mask = some mask → packed.bitLen ≤ 8 * mask.data.length ∧
        ∀ i, i < packed.bitLen → (value mask.data).testBit i = false →
          (value packed.bytes).testBit i = false := by
    rintro ⟨length, positive, plain⟩ none
    simp [length, positive.trans_eq length, plain, none]
  have inner : ∀ {program : Except DiagServiceError Packed},
      some <$> program = .ok (some packed) → program = .ok packed := by
    intro program packs
    cases program with
    | error failure => cases packs
    | ok other => exact congrArg Except.ok (Option.some.inj (Except.ok.inj packs))
  unfold packInput at packs
  split at packs
  case h_1 bits kind =>
    exact unmasked (by simpa only [bitsWritten, kind] using packLeadingLen_written (inner packs))
      (by simp only [writeMask, kind])
  case h_2 mmlt kind =>
    exact unmasked (by simpa only [bitsWritten, kind] using packAligned_written (inner packs))
      (by simp only [writeMask, kind])
  case h_4 keyName kind =>
    split_ifs at packs with empty
    · cases packs
    · exact unmasked (by simpa only [bitsWritten, kind] using packAligned_written (inner packs))
        (by simp only [writeMask, kind])
  case h_3 slt kind =>
    replace packs := inner packs
    have written : self.writeMask = (slt.bitMask.filter fun data => !data.isEmpty).map
        fun data => ⟨data, slt.condensed⟩ := by
      simp only [writeMask, kind]
    have sizedMask : ∀ mask, self.writeMask = some mask → mask.condensed = slt.condensed ∧
        slt.bitLength ≤ 8 * mask.data.length := by
      intro mask hasMask
      rw [written, Option.map_eq_some_iff] at hasMask
      obtain ⟨data, hasMask, rfl⟩ := hasMask
      have length := sized slt data kind (Option.filter_eq_some_iff.mp hasMask).1
      simp only [length, byteLen, true_and]
      omega
    rw [packStandardLen, except_bind_eq_ok_iff] at packs
    obtain ⟨_, valid, packs⟩ := packs
    dsimp only at packs
    rw [← written, except_bind_eq_ok_iff] at packs
    obtain ⟨⟨bytes, length⟩, packs, fits⟩ := packs
    dsimp only at fits
    split_ifs at fits with short
    cases fits
    have positive := validateBitLen_pos valid
    obtain ⟨copy, copied⟩ := exists_copyData slt.bitLength inputData self.alignment
    simp only [bitsWritten, kind]
    cases hasMask : self.writeMask with
    | none =>
      simp only [packData, hasMask, if_neg (Nat.ne_of_gt positive), copied] at packs
      cases packs
      simp [positive]
    | some own =>
      obtain ⟨_, wide⟩ := sizedMask own hasMask
      cases mode : own.condensed with
      | true =>
        obtain ⟨bytes, applied, _, bits⟩ := applyCondensedMaskPacking_bits inputData own.data
        simp only [packData, hasMask, if_neg (Nat.ne_of_gt positive), mode, if_true, applied]
          at packs
        cases packs
        refine ⟨by simp only [mode, if_true, Nat.mul_comm], ?_, trivial, ?_⟩
        · omega
        · rintro _ ⟨⟩
          refine ⟨by omega, ?_⟩
          intro i _ clear
          rw [bits, clear, Bool.false_and]
      | false =>
        obtain ⟨bytes, applied, _, bits⟩ := @applyBitMask_spec copy own.data slt.bitLength 0 wide
        simp only [packData, hasMask, if_neg (Nat.ne_of_gt positive), mode, Bool.false_eq_true,
          if_false, copied, bind, Except.bind, applied] at packs
        cases packs
        refine ⟨by simp [mode], positive, trivial, ?_⟩
        rintro _ ⟨⟩
        refine ⟨wide, ?_⟩
        intro i inField clear
        rw [bits]
        simp [inField, clear]

theorem getD_overwrite_of_outside {bytes : List UInt8} {k : Nat}
    (outside : k < bytePos ∨ bytePos + bytes.length ≤ k) :
    (overwrite udsPayload bytePos bytes).getD k 0 = udsPayload.getD k 0 := by
  apply UInt8.toNat_inj.1
  apply Nat.eq_of_testBit_eq
  intro offset
  exact (holds_overwrite udsPayload bytePos bytes k offset).trans (if_neg (by omega))

/-- What an encoder that wrote `n` bits has kept.  A byte that a payload does not have is
zero. -/
structure Framed (self : DiagCodedType) (udsPayload after : List UInt8) (bytePos bitPos n : Nat) :
    Prop where
  length : after.length = max udsPayload.length (bytePos + byteLen (bitPos + n))
  outside : ∀ k, k < bytePos ∨ bytePos + byteLen (bitPos + n) ≤ k →
    after.getD k 0 = udsPayload.getD k 0
  beside : ∀ j, ¬(bitPos ≤ j ∧ j < bitPos + n) →
    (value (self.cutOut after bytePos (byteLen (bitPos + n)))).testBit j =
      (value (self.cutOut udsPayload bytePos (byteLen (bitPos + n)))).testBit j
  unmasked : ∀ mask, self.writeMask = some mask → ∀ i, i < n → (value mask.data).testBit i = false →
    (value (self.cutOut after bytePos (byteLen (bitPos + n)))).testBit (bitPos + i) =
      (value (self.cutOut udsPayload bytePos (byteLen (bitPos + n)))).testBit (bitPos + i)

/-- Encoding keeps everything but the bits it writes; where there are none, it keeps the
payload. -/
theorem encode_frames
    (sized : ∀ slt mask, self.type_ = .standardLength slt → slt.bitMask = some mask →
      mask.length = byteLen slt.bitLength)
    (encoded : self.encode inputData udsPayload bytePos bitPos = .ok after) :
    if self.bitsWritten inputData = 0 then after = udsPayload
    else self.Framed udsPayload after bytePos bitPos (self.bitsWritten inputData) := by
  rw [encode, except_bind_eq_ok_iff] at encoded
  obtain ⟨_, aligned, encoded⟩ := encoded
  rw [except_bind_eq_ok_iff] at encoded
  obtain ⟨packed?, packs, writes⟩ := encoded
  cases packed? with
  | none =>
    have some_ne : ∀ program : Except DiagServiceError Packed, some <$> program ≠ .ok none := by
      intro program
      cases program <;> simp [Functor.map, Except.map]
    have nothing : self.bitsWritten inputData = 0 := by
      cases kind : self.type_ with
      | paramLengthInfo keyName =>
        simp only [packInput, kind] at packs
        split_ifs at packs with empty
        · simp only [bitsWritten, kind]
          omega
        · exact absurd packs (some_ne _)
      | _ =>
        simp only [packInput, kind] at packs
        exact absurd packs (some_ne _)
    rw [if_pos nothing]
    cases writes
    rfl
  | some packed =>
    obtain ⟨length, positive, hasMask, within⟩ := packInput_written sized packs
    have position : bitPos ≤ 7 := by
      by_contra far
      have refused := @writePacked_error self packed bitPos (fun valid => far valid.1) udsPayload bytePos
      rw [show self.writePacked packed udsPayload bytePos bitPos = .ok after from writes] at refused
      cases refused
    obtain ⟨bytes, written, effect⟩ := writePacked_spec self udsPayload bytePos position positive
      fun mask hasMask => (within mask hasMask).1
    obtain rfl := Except.ok.inj (written.symm.trans writes)
    have total : bytes.length = byteLen (bitPos + packed.bitLen) :=
      effect.length.trans (length_cutOut _ _ _ _)
    have read := cutOut_overwrite self udsPayload bytePos bytes
    rw [total] at read
    rw [← length, if_neg (Nat.ne_of_gt positive)]
    constructor
    · rw [length_overwrite, length_normalizeByteOrder, total]
    · intro k outside
      apply getD_overwrite_of_outside
      rw [length_normalizeByteOrder, total]
      exact outside
    · intro j outside
      rw [read]
      exact effect.outside j (by omega)
    · intro mask hasMask' i inField clear
      rw [← hasMask] at hasMask'
      rw [read, effect.inside i inField, (within mask hasMask').2 i inField clear]
      simp [Packed.spares, hasMask', clear]

end Frame

/-- Nothing is written for an empty value, and the payload does not grow up to its position. -/
theorem not_framed_empty :
    (⟨.byteField, .paramLengthInfo "length", true⟩ : DiagCodedType).encode [] [] 1 0 = .ok [] ∧
      ([] : List UInt8).length ≠ max ([] : List UInt8).length (1 + byteLen (0 + 0)) := by
  decide

theorem encode_frames_outer_bits : outerBits.Framed [0x22, 0xFF, 0xFF] [0x22, 0xF3, 0xF5] 1 0 12 :=
  @encode_frames outerBits [0x03, 0xA5] [0x22, 0xFF, 0xFF] [0x22, 0xF3, 0xF5] 1 0
    (by rintro _ _ ⟨⟩ ⟨⟩; rfl) (by decide)

section Twice

variable {self : DiagCodedType} {slt : StandardLengthType}

theorem overwrite_overwrite {first second : List UInt8} (udsPayload : List UInt8) (bytePos : Nat)
    (length : first.length = second.length) :
    overwrite (overwrite udsPayload bytePos first) bytePos second =
      overwrite udsPayload bytePos second := by
  apply eq_of_holds_eq
  · simp only [length_overwrite]
    omega
  · intro byte offset _ _
    simp only [holds_overwrite, length]
    split_ifs <;> rfl

theorem encode_adds_bits (standard : self.type_ = .standardLength slt)
    (base : self.baseDatatype = .uint32) (unmasked : slt.bitMask = none)
    (valid : self.baseDatatype.validateBitLen slt.bitLength = .ok ())
    (whole : slt.bitLength % 8 = 0) {inputData : List UInt8}
    (small : value inputData < 2 ^ slt.bitLength) (udsPayload : List UInt8) (bytePos : Nat) :
    ∃ bytes, self.encode inputData udsPayload bytePos 0 =
        .ok (overwrite udsPayload bytePos (normalizeByteOrder bytes self.byteOrder)) ∧
      bytes.length = byteLen slt.bitLength ∧ value bytes =
        value (self.cutOut udsPayload bytePos (byteLen slt.bitLength)) ||| value inputData := by
  have positive := ((validateBitLen_numeric (.inr base) slt.bitLength).mp valid).1
  obtain ⟨packed, packs, packedBits⟩ :=
    packStandardLen_unmasked_spec (.inr base) unmasked valid small
  obtain ⟨bytes, written, effect⟩ := @writePacked_spec self ⟨packed, slt.bitLength, none⟩
    udsPayload bytePos 0 (Nat.zero_le 7) positive (by simp)
  simp only [Nat.zero_add] at effect
  refine ⟨bytes, ?_, effect.length.trans (length_cutOut _ _ _ _), ?_⟩
  · rw [← written]
    simp only [encode, validateBitPos_numeric (.inr base) 0, packInput, standard, packs, bind,
      Except.bind]
    rfl
  · apply Nat.eq_of_testBit_eq
    intro j
    rw [Nat.testBit_or]
    by_cases inField : j < slt.bitLength
    · have bit := effect.inside j inField
      rw [Nat.zero_add, packedBits] at bit
      simpa [Packed.spares, Cleared, whole] using bit
    · rw [effect.outside j (.inr (by simpa using Nat.le_of_not_lt inField)),
        Nat.testBit_lt_two_pow (small.trans_le (Nat.pow_le_pow_right (by decide)
          (Nat.le_of_not_lt inField))), Bool.or_false]

/-- Encoding a second number over a first one leaves what encoding it alone leaves, and it is
read back. -/
def LastWriteWins (self : DiagCodedType) (bitLength : Nat) (first second udsPayload : List UInt8)
    (bytePos : Nat) : Prop :=
  ∃ between after, self.encode first udsPayload bytePos 0 = .ok between ∧
    self.encode second between bytePos 0 = .ok after ∧
    self.encode second udsPayload bytePos 0 = .ok after ∧
    ∃ data, self.decode after bytePos 0 = .ok (data, bitLength) ∧ value data = value second

/-- So it is where the second number has every bit of the first and of the bytes before. -/
theorem lastWriteWins_iff (standard : self.type_ = .standardLength slt)
    (base : self.baseDatatype = .uint32) (unmasked : slt.bitMask = none)
    (valid : self.baseDatatype.validateBitLen slt.bitLength = .ok ())
    (whole : slt.bitLength % 8 = 0) (first second : List UInt8)
    (firstSmall : value first < 2 ^ slt.bitLength)
    (secondSmall : value second < 2 ^ slt.bitLength) (udsPayload : List UInt8) (bytePos : Nat) :
    self.LastWriteWins slt.bitLength first second udsPayload bytePos ↔
      ∀ j, (value first).testBit j = true ∨
        (value (self.cutOut udsPayload bytePos (byteLen slt.bitLength))).testBit j = true →
        (value second).testBit j = true := by
  have adds := fun (input : List UInt8) small payload =>
    @encode_adds_bits self slt standard base unmasked valid whole input small payload bytePos
  obtain ⟨bytes, between, length, number⟩ := adds first firstSmall udsPayload
  obtain ⟨twice, again, twiceLength, twiceNumber⟩ := adds second secondSmall
    (overwrite udsPayload bytePos (normalizeByteOrder bytes self.byteOrder))
  obtain ⟨once, alone, onceLength, onceNumber⟩ := adds second secondSmall udsPayload
  rw [overwrite_overwrite udsPayload bytePos (by simp [length, twiceLength])] at again
  rw [← length, cutOut_overwrite, number] at twiceNumber
  obtain ⟨data, decoded, dataLength, dataBits⟩ := @decode_unmasked_spec self slt standard
    (.inr base) unmasked valid
    (overwrite udsPayload bytePos (normalizeByteOrder twice self.byteOrder)) bytePos 0
    (Nat.zero_le 7)
    (by rw [length_overwrite, length_normalizeByteOrder, twiceLength]; omega)
    (by rw [byteLen]; omega)
  have read : value data = value twice := by
    apply Nat.eq_of_testBit_eq
    intro j
    rw [dataBits, Nat.zero_add, ← twiceLength, cutOut_overwrite]
    by_cases inField : j < slt.bitLength
    · simp [inField]
    · rw [testBit_value_of_length_le (by rw [twiceLength, byteLen]; omega)]
      simp
  constructor
  · rintro ⟨_, _, first', second', _, data', decoded', same⟩ j set
    obtain rfl := Except.ok.inj (between.symm.trans first')
    obtain rfl := Except.ok.inj (again.symm.trans second')
    obtain ⟨rfl, _⟩ := Prod.mk.inj (Except.ok.inj (decoded.symm.trans decoded'))
    rw [← same, read, twiceNumber, Nat.testBit_or, Nat.testBit_or]
    obtain set | set := set <;> simp [set]
  · intro covered
    have absorbed : ∀ number, (∀ j, number.testBit j = true → (value second).testBit j = true) →
        number ||| value second = value second := by
      intro number within
      apply Nat.eq_of_testBit_eq
      intro j
      rw [Nat.testBit_or]
      cases set : number.testBit j with
      | false => rfl
      | true => rw [within j set, Bool.or_true]
    rw [absorbed _ fun j set => covered j (.inr set)] at onceNumber
    rw [absorbed _ fun j set => by
      rw [Nat.testBit_or, Bool.or_eq_true] at set
      exact covered j set.symm] at twiceNumber
    obtain rfl : once = twice :=
      eq_of_value_eq (onceLength.trans twiceLength.symm) (onceNumber.trans twiceNumber.symm)
    exact ⟨_, _, between, again, alone, data, decoded, read.trans twiceNumber⟩

end Twice

def wholeByte : DiagCodedType := ⟨.uint32, .standardLength ⟨8, none, false⟩, true⟩

theorem lastWriteWins_iff_byte : wholeByte.LastWriteWins 8 [0x21] [0x23] [0x22, 0x03] 1 :=
  (@lastWriteWins_iff wholeByte _ rfl rfl rfl (by decide) rfl [0x21] [0x23] (by decide) (by decide)
    [0x22, 0x03] 1).mpr (by
      have within : ∀ j, j < 8 → (value [0x21]).testBit j = true ∨
          (value (wholeByte.cutOut [0x22, 0x03] 1 1)).testBit j = true →
          (value [0x23]).testBit j = true := by decide
      intro j set
      by_cases inByte : j < 8
      · exact within j inByte set
      · rw [testBit_value_of_length_le (Nat.le_of_not_lt inByte), testBit_value_of_length_le
          (by rw [length_cutOut]; exact Nat.le_of_not_lt inByte)] at set
        simp at set)

/-- One over two is three. -/
theorem not_lastWriteWins_overlapping :
    wholeByte.baseDatatype.validateBitLen 8 = .ok () ∧ value [0x02] < 2 ^ 8 ∧
      value [0x01] < 2 ^ 8 ∧ ¬wholeByte.LastWriteWins 8 [0x02] [0x01] [0x22, 0x00] 1 := by
  refine ⟨by decide, by decide, by decide, ?_⟩
  rintro ⟨_, _, first, second, _, data, decoded, same⟩
  have between : wholeByte.encode [0x02] [0x22, 0x00] 1 0 = .ok [0x22, 0x02] := by decide
  obtain rfl := Except.ok.inj (between.symm.trans first)
  have after : wholeByte.encode [0x01] [0x22, 0x02] 1 0 = .ok [0x22, 0x03] := by decide
  obtain rfl := Except.ok.inj (after.symm.trans second)
  have read : wholeByte.decode [0x22, 0x03] 1 0 = .ok ([0x03], 8) := by decide
  obtain ⟨rfl, _⟩ := Prod.mk.inj (Except.ok.inj (read.symm.trans decoded))
  exact absurd same (by decide)

end DiagnosticAdapter.Codec.DiagCodedType
