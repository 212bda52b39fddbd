import DiagnosticAdapter.Codec.Patches
import DiagnosticAdapter.Codec.StandardWrite

/-!
# The bytes that a field lays

Without a mask a field adds to the payload the bytes of its number, shifted to the bit
position and in the byte order.
-/

namespace DiagnosticAdapter.Codec

open Bits Effects

/-- Whether a cell of the payload is set in bytes that begin at a position. -/
def holdsAt (bytePos : Nat) (bytes : List UInt8) (cell : Cell) : Bool :=
  decide (bytePos ≤ cell.1) && holds bytes (cell.1 - bytePos, cell.2)

theorem holdsAt_add (bytePos : Nat) (bytes : List UInt8) (byte offset : Nat) :
    holdsAt bytePos bytes (bytePos + byte, offset) = holds bytes (byte, offset) := by
  simp [holdsAt]

theorem holdsAt_of_outside {bytePos : Nat} {bytes : List UInt8} {cell : Cell}
    (outside : cell.1 < bytePos ∨ bytePos + bytes.length ≤ cell.1) :
    holdsAt bytePos bytes cell = false := by
  obtain before | behind := outside
  · simp [holdsAt, Nat.not_le_of_lt before]
  · rw [holdsAt, holds_of_length_le (by dsimp only; omega), Bool.and_false]

/-- The payload with the bytes added at a position. -/
structure Lays (bytePos : Nat) (bytes before after : List UInt8) : Prop where
  length : after.length = max before.length (bytePos + bytes.length)
  holds : ∀ cell, holds after cell = (holds before cell || holdsAt bytePos bytes cell)

theorem lays_nil {bytePos : Nat} {payload : List UInt8} (inside : bytePos ≤ payload.length) :
    Lays bytePos [] payload payload := by
  constructor
  · rw [List.length_nil]
    omega
  · intro cell
    have empty : holds [] (cell.1 - bytePos, cell.2) = false := holds_of_length_le (Nat.zero_le _)
    rw [holdsAt, empty, Bool.and_false, Bool.or_false]

def laidBytes (order : ByteOrder) (bitPos bitLen number : Nat) : List UInt8 :=
  normalizeByteOrder
    (toBeBytes (byteLen (bitPos + bitLen)) (number % 2 ^ bitLen * 2 ^ bitPos)) order

@[simp]
theorem length_laidBytes (order : ByteOrder) (bitPos bitLen number : Nat) :
    (laidBytes order bitPos bitLen number).length = byteLen (bitPos + bitLen) := by
  rw [laidBytes, length_normalizeByteOrder, length_toBeBytes]

theorem holds_laidBytes (order : ByteOrder) {bitPos bitLen number byte offset : Nat}
    (inside : byte < byteLen (bitPos + bitLen)) (inByte : offset < 8) :
    holds (laidBytes order bitPos bitLen number) (byte, offset) =
      (decide (bitPos ≤ order.bit (byteLen (bitPos + bitLen)) (byte, offset) ∧
          order.bit (byteLen (bitPos + bitLen)) (byte, offset) < bitPos + bitLen) &&
        number.testBit (order.bit (byteLen (bitPos + bitLen)) (byte, offset) - bitPos)) := by
  have small : number % 2 ^ bitLen * 2 ^ bitPos < 2 ^ (8 * byteLen (bitPos + bitLen)) := by
    calc number % 2 ^ bitLen * 2 ^ bitPos < 2 ^ bitLen * 2 ^ bitPos :=
          Nat.mul_lt_mul_of_pos_right (Nat.mod_lt _ (Nat.two_pow_pos _)) (Nat.two_pow_pos _)
      _ = 2 ^ (bitPos + bitLen) := by rw [← Nat.pow_add, Nat.add_comm]
      _ ≤ 2 ^ (8 * byteLen (bitPos + bitLen)) :=
          Nat.pow_le_pow_right (by decide) (by rw [byteLen]; omega)
  rw [holds_eq_testBit_normalized order (by rw [length_laidBytes]; exact inside) inByte, laidBytes,
    normalizeByteOrder_normalizeByteOrder, length_normalizeByteOrder, length_toBeBytes,
    value_toBeBytes, Nat.mod_eq_of_lt small, Nat.testBit_mul_two_pow, Nat.testBit_mod_two_pow]
  by_cases above : bitPos ≤ order.bit (byteLen (bitPos + bitLen)) (byte, offset)
  · by_cases below : order.bit (byteLen (bitPos + bitLen)) (byte, offset) < bitPos + bitLen
    · simp [above, below, show order.bit (byteLen (bitPos + bitLen)) (byte, offset) - bitPos <
        bitLen by omega]
    · simp [above, below, show ¬order.bit (byteLen (bitPos + bitLen)) (byte, offset) - bitPos <
        bitLen by omega]
  · simp [above]

namespace DiagCodedType

variable {self : DiagCodedType} {packed : Packed} {payload after : List UInt8}
  {bytePos bitPos : Nat}

theorem position_of_writePacked
    (written : self.writePacked packed payload bytePos bitPos = .ok after) :
    bitPos ≤ 7 ∧ 0 < packed.bitLen := by
  by_contra invalid
  have refused := writePacked_error self invalid payload bytePos
  rw [written] at refused
  cases refused

theorem getD_effect_of_unmasked {patch : Patch} (unmasked : patch.packed.mask = none)
    {byte offset : Nat} (inside : byte < patch.byteCount) (inByte : offset < 8) (old : Bool) :
    (patch.effect (byte, offset)).getD old =
      (old || holds (laidBytes patch.coded.byteOrder patch.bitPos patch.packed.bitLen
        (value patch.packed.bytes)) (byte, offset)) := by
  have unclears : ∀ i, patch.packed.clears i = false := by
    intro i
    rw [Packed.clears, unmasked, Option.any_none]
  rw [holds_laidBytes _ inside inByte, Patch.effect]
  change Option.getD (if _ then _ else none) _ = (old || (decide (patch.bitPos ≤
    patch.coded.byteOrder.bit patch.byteCount (byte, offset) ∧
      patch.coded.byteOrder.bit patch.byteCount (byte, offset) <
        patch.bitPos + patch.packed.bitLen) && patch.packed.sets
          (patch.coded.byteOrder.bit patch.byteCount (byte, offset) - patch.bitPos)))
  split
  · rename_i inBits
    rw [decide_eq_true inBits, Bool.true_and, Packed.bitEffect, unclears]
    cases patch.packed.sets
        (patch.coded.byteOrder.bit patch.byteCount (byte, offset) - patch.bitPos) with
    | true => simp
    | false => simp
  · rename_i outside
    rw [decide_eq_false outside, Bool.false_and, Bool.or_false, Option.getD_none]

theorem lays_of_writePacked (unmasked : packed.mask = none)
    (written : self.writePacked packed payload bytePos bitPos = .ok after) :
    Lays bytePos (laidBytes self.byteOrder bitPos packed.bitLen (value packed.bytes)) payload
      after := by
  obtain ⟨position, positive⟩ := position_of_writePacked written
  let patch : Patch := ⟨self, packed, bytePos, bitPos, false, position, positive⟩
  have sized := length_fieldAt payload bytePos patch.byteCount
  obtain ⟨rewritten, length⟩ := @Patch.rewrite_eq patch _ sized
  have applied : after = overwrite payload bytePos
      (patch.rewrite (fieldAt payload bytePos patch.byteCount)) := by
    rw [writePacked_eq self position positive] at written
    rw [show self.writeField packed bitPos (fieldAt payload bytePos
      (byteLen (bitPos + packed.bitLen))) = _ from rewritten] at written
    cases written
    rfl
  constructor
  · rw [applied, length_overwrite, length, length_laidBytes]
    rfl
  · intro cell
    obtain ⟨byte, offset⟩ := cell
    rw [applied, holds_overwrite, length]
    by_cases inside : bytePos ≤ byte ∧ byte < bytePos + patch.byteCount
    · obtain ⟨index, rfl⟩ := Nat.exists_eq_add_of_le inside.1
      have inField : index < patch.byteCount := by omega
      rw [if_pos inside, Nat.add_sub_cancel_left, holdsAt_add]
      by_cases inByte : offset < 8
      · rw [Patch.holds_rewrite sized inField inByte, holds_fieldAt offset inField]
        exact getD_effect_of_unmasked unmasked inField inByte _
      · have above : 8 ≤ offset := Nat.le_of_not_lt inByte
        rw [holds_of_eight_le _ above, holds_of_eight_le _ above, holds_of_eight_le _ above]
        rfl
    · have outside : byte < bytePos ∨ bytePos + (laidBytes self.byteOrder bitPos packed.bitLen
          (value packed.bytes)).length ≤ byte := by
        rw [length_laidBytes]
        change byte < bytePos ∨ bytePos + patch.byteCount ≤ byte
        omega
      rw [if_neg inside, holdsAt_of_outside outside, Bool.or_false]

/-- The number that the encoder writes for a field of standard length: the upper bits of its
last byte are cleared where the field is not of whole bytes. -/
def writtenNumber (bitLen number : Nat) : Nat :=
  if bitLen % 8 = 0 then number else number / 256 * 256 + number % 2 ^ (bitLen % 8)

theorem testBit_writtenNumber (bitLen number j : Nat) : (writtenNumber bitLen number).testBit j =
      (number.testBit j && !decide (Cleared bitLen j)) := by
  rw [writtenNumber]
  by_cases whole : bitLen % 8 = 0
  · rw [if_pos whole, decide_eq_false fun cleared => cleared.1 whole, Bool.not_false, Bool.and_true]
  · have small : number % 2 ^ (bitLen % 8) < 2 ^ 8 :=
      (Nat.mod_lt _ (Nat.two_pow_pos _)).trans_le
        (Nat.pow_le_pow_right (by decide) (Nat.le_of_lt (Nat.mod_lt _ (by decide))))
    rw [if_neg whole, Nat.mul_comm, show (256 : Nat) = 2 ^ 8 from rfl,
      Nat.testBit_two_pow_mul_add _ small]
    by_cases low : j < 8
    · rw [if_pos low, Nat.testBit_mod_two_pow]
      have cleared : Cleared bitLen j ↔ ¬j < bitLen % 8 := by
        rw [Cleared]
        omega
      by_cases kept : j < bitLen % 8
      · simp [cleared, kept]
      · simp [cleared, kept]
    · have kept : ¬Cleared bitLen j := fun cleared => low cleared.2.2
      rw [if_neg low, Nat.testBit_div_two_pow, Nat.sub_add_cancel (Nat.le_of_not_lt low)]
      simp [kept]

theorem holdsAt_laidBytes_cell (plain : self.byteOrder ≠ .reorderPairs) {bitLen i : Nat}
    (inside : i < bitLen) (number : Nat) :
    holdsAt bytePos (laidBytes self.byteOrder bitPos bitLen number)
      ((self.place bytePos bitPos bitLen).cell i) = number.testBit i := by
  have width : (bitPos + i) / 8 < byteLen (bitPos + bitLen) := by
    rw [byteLen]
    omega
  have inByte : (bitPos + i) % 8 < 8 := Nat.mod_lt _ (by decide)
  cases order : self.byteOrder with
  | reorderPairs => exact absurd order plain
  | keep =>
    have cell : (self.place bytePos bitPos bitLen).cell i =
        (bytePos + (byteLen (bitPos + bitLen) - 1 - (bitPos + i) / 8), (bitPos + i) % 8) := by
      simp [place, order, Place.cell, stringCell, Place.byteCount]
    have bit : ByteOrder.keep.bit (byteLen (bitPos + bitLen))
        (byteLen (bitPos + bitLen) - 1 - (bitPos + i) / 8, (bitPos + i) % 8) = bitPos + i := by
      simp only [ByteOrder.bit, ByteOrder.index]
      omega
    rw [cell, holdsAt_add, holds_laidBytes _ (by omega) inByte, bit,
      decide_eq_true (by omega), Bool.true_and, Nat.add_sub_cancel_left]
  | reverse =>
    have cell : (self.place bytePos bitPos bitLen).cell i =
        (bytePos + (bitPos + i) / 8, (bitPos + i) % 8) := by
      simp [place, order, Place.cell, stringCell]
    have bit : ByteOrder.reverse.bit (byteLen (bitPos + bitLen))
        ((bitPos + i) / 8, (bitPos + i) % 8) = bitPos + i := by
      simp only [ByteOrder.bit, ByteOrder.index]
      omega
    rw [cell, holdsAt_add, holds_laidBytes _ width inByte, bit,
      decide_eq_true (by omega), Bool.true_and, Nat.add_sub_cancel_left]

theorem lays_of_encode_standard {slt : StandardLengthType}
    (standard : self.type_ = .standardLength slt) (unmasked : slt.bitMask = none)
    (numeric : self.baseDatatype = .int32 ∨ self.baseDatatype = .uint32) {data : List UInt8}
    (encoded : self.encode data payload bytePos bitPos = .ok after) :
    self.baseDatatype.validateBitLen slt.bitLength = .ok () ∧ bitPos ≤ 7 ∧
      Lays bytePos (laidBytes self.byteOrder bitPos slt.bitLength
        (writtenNumber slt.bitLength (value data))) payload after := by
  obtain ⟨_, valid, position⟩ := checks_of_encode standard unmasked encoded
  rw [encode, except_bind_eq_ok_iff] at encoded
  obtain ⟨_, aligned, encoded⟩ := encoded
  rw [except_bind_eq_ok_iff] at encoded
  obtain ⟨packed?, packs, written⟩ := encoded
  obtain ⟨bytes, copied, length, bits⟩ := copyData_right_spec slt.bitLength data
  rw [(packInput_unmasked standard unmasked valid
    (by rw [alignment_numeric numeric]; exact copied)).2] at packs
  cases packs
  refine ⟨valid, position, ?_⟩
  have lays := lays_of_writePacked rfl written
  have same : value bytes % 2 ^ slt.bitLength =
      writtenNumber slt.bitLength (value data) % 2 ^ slt.bitLength := by
    apply Nat.eq_of_testBit_eq
    intro j
    rw [Nat.testBit_mod_two_pow, Nat.testBit_mod_two_pow, bits, testBit_writtenNumber]
    by_cases inField : j < slt.bitLength
    · have inBuffer : j < 8 * byteLen slt.bitLength := by
        rw [byteLen]
        omega
      simp [inBuffer]
    · simp [inField]
  rw [laidBytes, same] at lays
  exact lays

/-- Data whose length stands elsewhere are laid as they are; no data leave the payload as it
is. -/
def runtimeBytes (self : DiagCodedType) (bitPos : Nat) (data : List UInt8) : List UInt8 :=
  if data = [] then [] else laidBytes self.byteOrder bitPos (8 * data.length) (value data)

theorem lays_of_encode_runtime {keyName : String} (runtime : self.type_ = .paramLengthInfo keyName)
    {data : List UInt8} (inside : bytePos ≤ payload.length)
    (encoded : self.encode data payload bytePos bitPos = .ok after) :
    Lays bytePos (self.runtimeBytes bitPos data) payload after := by
  rw [encode, except_bind_eq_ok_iff] at encoded
  obtain ⟨_, aligned, encoded⟩ := encoded
  rw [except_bind_eq_ok_iff] at encoded
  obtain ⟨packed?, packs, written⟩ := encoded
  rw [packInput, runtime] at packs
  dsimp only at packs
  rw [runtimeBytes]
  split at packs
  · rename_i none
    have empty : data = [] := List.eq_nil_of_length_eq_zero (by omega)
    cases packs
    cases written
    rw [if_pos empty]
    exact lays_nil inside
  · rename_i some
    have given : data ≠ [] := by
      intro empty
      rw [empty] at some
      exact some rfl
    rw [packAligned_eq given] at packs
    cases packs
    rw [if_neg given, Nat.mul_comm 8]
    exact lays_of_writePacked rfl written

end DiagCodedType

end DiagnosticAdapter.Codec
