import DiagnosticAdapter.Codec.RoundTrip

/-!
# Fields as sets of cells

A cell is one bit of a payload.  Without a mask `encode` never clears a bit, so the
cells that hold after a sequence of fields was written are those that held before and
those that one of the fields has set.  A field is read back from its own cells.
-/

namespace DiagnosticAdapter.Codec

open Bits

/-- A byte of the payload and a bit in it, bit 0 the lowest. -/
abbrev Cell := Nat × Nat

/-- Whether the bit is set; bytes that the payload does not have are zero. -/
def holds (payload : List UInt8) (cell : Cell) : Bool :=
  (payload.getD cell.1 0).toNat.testBit cell.2

variable {payload : List UInt8}

theorem holds_of_length_le {cell : Cell} (beyond : payload.length ≤ cell.1) :
    holds payload cell = false := by
  rw [holds, List.getD_eq_default _ _ beyond]
  exact Nat.zero_testBit _

theorem holds_of_eight_le (payload : List UInt8) {cell : Cell} (above : 8 ≤ cell.2) :
    holds payload cell = false :=
  testBit_of_eight_le _ above

theorem eq_of_holds_eq {first second : List UInt8} (length : first.length = second.length)
    (cells : ∀ byte offset, byte < first.length → offset < 8 →
      holds first (byte, offset) = holds second (byte, offset)) : first = second := by
  apply List.ext_getElem length
  intro byte inFirst inSecond
  apply UInt8.toNat_inj.1
  apply Nat.eq_of_testBit_eq
  intro offset
  by_cases inByte : offset < 8
  · have same := cells byte offset inFirst inByte
    simp only [holds, List.getD_eq_getElem _ _ inFirst, List.getD_eq_getElem _ _ inSecond] at same
    exact same
  · have above : 8 ≤ offset := Nat.le_of_not_lt inByte
    rw [testBit_of_eight_le _ above, testBit_of_eight_le _ above]

theorem holds_drop (payload : List UInt8) (start byte offset : Nat) :
    holds (payload.drop start) (byte, offset) = holds payload (start + byte, offset) := by
  simp only [holds, List.getD_eq_getElem?_getD, List.getElem?_drop]

theorem holds_take {payload : List UInt8} {count : Nat} {cell : Cell} (inside : cell.1 < count) :
    holds (payload.take count) cell = holds payload cell := by
  simp only [holds, List.getD_eq_getElem?_getD, List.getElem?_take_of_lt inside]

theorem holds_reverse {byte : Nat} (offset : Nat) (inside : byte < payload.length) :
    holds payload.reverse (byte, offset) = holds payload (payload.length - 1 - byte, offset) := by
  simp only [holds, List.getD_eq_getElem?_getD, List.getElem?_reverse inside]

theorem testBit_value {i : Nat} (inside : i < 8 * payload.length) :
    (value payload).testBit i = holds payload (byteIndex payload.length i, i % 8) := by
  obtain ⟨byte, found, bit⟩ := getElem_byteIndex inside
  rw [← bit, holds, List.getD_eq_getElem?_getD, found]
  rfl

/-- Where a field lies.  A reversed field has its low byte first. -/
structure Place where
  bytePos : Nat
  bitPos : Nat
  bitLen : Nat
  reversed : Bool
  deriving DecidableEq, Repr

/-- The cell of bit `j` of a byte string that lies in the payload. -/
def stringCell (bytePos byteCount : Nat) (reversed : Bool) (j : Nat) : Cell :=
  (bytePos + if reversed then j / 8 else byteCount - 1 - j / 8, j % 8)

theorem stringCell_injective {bytePos byteCount : Nat} {reversed : Bool} {i j : Nat}
    (first : i < 8 * byteCount) (second : j < 8 * byteCount)
    (same : stringCell bytePos byteCount reversed i = stringCell bytePos byteCount reversed j) :
    i = j := by
  simp only [stringCell, Prod.mk.injEq] at same
  cases reversed with
  | true =>
    simp only [if_true] at same
    omega
  | false =>
    simp only [Bool.false_eq_true, if_false] at same
    omega

theorem exists_stringCell {bytePos byteCount byte offset : Nat} (reversed : Bool)
    (lower : bytePos ≤ byte) (upper : byte < bytePos + byteCount) (inByte : offset < 8) :
    ∃ j, j < 8 * byteCount ∧ stringCell bytePos byteCount reversed j = (byte, offset) := by
  cases reversed with
  | true =>
    refine ⟨8 * (byte - bytePos) + offset, by omega, ?_⟩
    simp only [stringCell, if_true, Prod.mk.injEq]
    omega
  | false =>
    refine ⟨8 * (byteCount - 1 - (byte - bytePos)) + offset, by omega, ?_⟩
    simp only [stringCell, Bool.false_eq_true, if_false, Prod.mk.injEq]
    omega

namespace Place

def byteCount (place : Place) : Nat := byteLen (place.bitPos + place.bitLen)

def stop (place : Place) : Nat := place.bytePos + place.byteCount

def cell (place : Place) (i : Nat) : Cell :=
  stringCell place.bytePos place.byteCount place.reversed (place.bitPos + i)

def Apart (first second : Place) : Prop :=
  ∀ i j, i < first.bitLen → j < second.bitLen → first.cell i ≠ second.cell j

variable {first second : Place}

theorem Apart.symm (apart : first.Apart second) : second.Apart first := by
  intro i j inFirst inSecond same
  exact apart j i inSecond inFirst same.symm

theorem cell_bounds {place : Place} {i : Nat} (inside : i < place.bitLen) :
    place.bytePos ≤ (place.cell i).1 ∧ (place.cell i).1 < place.stop := by
  simp only [cell, stringCell, stop, byteCount, byteLen]
  cases place.reversed with
  | true =>
    simp only [if_true]
    omega
  | false =>
    simp only [Bool.false_eq_true, if_false]
    omega

theorem cell_injective {place : Place} {i j : Nat} (first : i < place.bitLen)
    (second : j < place.bitLen) (same : place.cell i = place.cell j) : i = j := by
  have width : place.bitPos + place.bitLen ≤ 8 * place.byteCount := by
    simp only [byteCount, byteLen]
    omega
  have equal := stringCell_injective (by omega) (by omega) same
  omega

theorem apart_of_bytes
    (bytes : first.stop ≤ second.bytePos ∨ second.stop ≤ first.bytePos) : first.Apart second := by
  intro i j inFirst inSecond same
  have firstBounds := cell_bounds inFirst
  have secondBounds := cell_bounds inSecond
  rw [same] at firstBounds
  omega

/-- The field in the payload from the byte `start` on. -/
def shift (place : Place) (start : Nat) : Place := { place with bytePos := start + place.bytePos }

theorem cell_shift (place : Place) (start i : Nat) :
    (place.shift start).cell i = (start + (place.cell i).1, (place.cell i).2) := by
  simp only [cell, shift, stringCell, byteCount, Nat.add_assoc]
  rfl

theorem Apart.shift (apart : first.Apart second) (start : Nat) :
    (first.shift start).Apart (second.shift start) := by
  intro i j inFirst inSecond same
  rw [cell_shift, cell_shift, Prod.mk.injEq] at same
  exact apart i j inFirst inSecond (Prod.ext (Nat.add_left_cancel same.1) same.2)

/-- The cells that a number sets when it is written to the place. -/
def Sets (place : Place) (number : Nat) (cell : Cell) : Prop :=
  ∃ i, i < place.bitLen ∧ place.cell i = cell ∧ number.testBit i = true

theorem not_sets_of_apart (apart : first.Apart second) {i : Nat}
    (inFirst : i < first.bitLen) (number : Nat) : ¬second.Sets number (first.cell i) := by
  intro set
  obtain ⟨j, inSecond, same, _⟩ := set
  exact apart i j inFirst inSecond same.symm

theorem sets_cell_iff {place : Place} {i : Nat} (inside : i < place.bitLen) (number : Nat) :
    place.Sets number (place.cell i) ↔ number.testBit i = true := by
  constructor
  · intro set
    obtain ⟨j, inPlace, same, bit⟩ := set
    rw [← cell_injective inPlace inside same]
    exact bit
  · intro bit
    exact ⟨i, inside, rfl, bit⟩

end Place

structure Write where
  place : Place
  number : Nat
  deriving DecidableEq, Repr

/-- The payload `after` holds what `before` holds and what the writes have set. -/
def Adds (writes : List Write) (before after : List UInt8) : Prop :=
  ∀ cell, holds after cell = true ↔
    holds before cell = true ∨ ∃ write ∈ writes, write.place.Sets write.number cell

theorem adds_nil (payload : List UInt8) : Adds [] payload payload := by
  intro cell
  simp

theorem Adds.append {first second : List Write} {before middle after : List UInt8}
    (firstAdds : Adds first before middle) (secondAdds : Adds second middle after) :
    Adds (first ++ second) before after := by
  intro cell
  rw [secondAdds cell, firstAdds cell, or_assoc]
  simp only [List.mem_append, or_and_right, exists_or]

/-- The number is the one that the cells of the field hold. -/
def Place.Reads (place : Place) (payload : List UInt8) (number : Nat) : Prop :=
  ∀ i, i < place.bitLen → holds payload (place.cell i) = number.testBit i

theorem Adds.holds_eq {writes : List Write} {before after : List UInt8} {cell : Cell}
    (adds : Adds writes before after) (behind : ∀ write ∈ writes, cell.1 < write.place.bytePos) :
    holds after cell = holds before cell := by
  rw [Bool.eq_iff_iff, adds]
  apply or_iff_left
  intro set
  obtain ⟨write, mem, i, inside, same, _⟩ := set
  have bounds := Place.cell_bounds inside
  rw [same] at bounds
  exact absurd (behind write mem) (by omega)

theorem Place.Reads.of_shift {place : Place} {start count number : Nat}
    (reads : (place.shift start).Reads payload number) (inside : place.stop ≤ count) :
    place.Reads ((payload.drop start).take count) number := by
  intro i inField
  have bounds := Place.cell_bounds inField
  rw [← reads i inField, Place.cell_shift, holds_take (by omega)]
  exact holds_drop payload start _ _

theorem Place.Reads.congr {place : Place} {first second : List UInt8} {number : Nat}
    (reads : place.Reads first number)
    (same : ∀ cell : Cell, cell.1 < place.stop → holds second cell = holds first cell) :
    place.Reads second number := by
  intro i inField
  rw [← reads i inField]
  exact same _ (Place.cell_bounds inField).2

/-- A field reads back what was written to it, if its cells were zero before and no other
write touches them. -/
theorem Adds.reads {writes : List Write} {before after : List UInt8} {write : Write}
    (adds : Adds writes before after) (mem : write ∈ writes)
    (others : ∀ other ∈ writes, other = write ∨ write.place.Apart other.place)
    (vacant : before.length ≤ write.place.bytePos) : write.place.Reads after write.number := by
  intro i inside
  rw [Bool.eq_iff_iff, adds]
  constructor
  · intro set
    obtain before | ⟨other, otherMember, set⟩ := set
    · have bounds := Place.cell_bounds inside
      rw [holds_of_length_le (vacant.trans bounds.1)] at before
      contradiction
    · obtain same | apart := others other otherMember
      · rw [same] at set
        exact (Place.sets_cell_iff inside _).mp set
      · exact absurd set (Place.not_sets_of_apart apart inside _)
  · intro bit
    exact .inr ⟨write, mem, (Place.sets_cell_iff inside _).mpr bit⟩

namespace DiagCodedType

def place (self : DiagCodedType) (bytePos bitPos bitLen : Nat) : Place :=
  ⟨bytePos, bitPos, bitLen, self.byteOrder = .reverse⟩

theorem holds_extendTo (payload : List UInt8) (length : Nat) (cell : Cell) :
    holds (extendTo payload length) cell = holds payload cell := by
  by_cases inside : cell.1 < payload.length
  · simp only [holds, extendTo, List.getD_eq_getElem?_getD, List.getElem?_append_left inside]
  · rw [holds_of_length_le (Nat.le_of_not_lt inside), holds, extendTo,
      List.getD_append_right _ _ _ _ (Nat.le_of_not_lt inside)]
    simp

theorem holds_overwrite (payload : List UInt8) (bytePos : Nat) (bytes : List UInt8)
    (byte offset : Nat) :
    holds (overwrite payload bytePos bytes) (byte, offset) =
      if bytePos ≤ byte ∧ byte < bytePos + bytes.length then holds bytes (byte - bytePos, offset)
      else holds payload (byte, offset) := by
  have front : ((extendTo payload (bytePos + bytes.length)).take bytePos).length = bytePos := by
    rw [List.length_take, length_extendTo]
    omega
  by_cases before : byte < bytePos
  · have old := @holds_take (extendTo payload (bytePos + bytes.length)) bytePos (byte, offset) before
    rw [if_neg (by omega), ← holds_extendTo payload (bytePos + bytes.length), ← old]
    simp only [holds, overwrite, List.append_assoc]
    rw [List.getD_append _ _ _ _ (by omega)]
  · by_cases inside : byte < bytePos + bytes.length
    · rw [if_pos (by omega)]
      simp only [holds, overwrite, List.append_assoc]
      rw [List.getD_append_right _ _ _ _ (by omega), front, List.getD_append _ _ _ _ (by omega)]
    · rw [if_neg (by omega), ← holds_extendTo payload (bytePos + bytes.length) (byte, offset)]
      simp only [holds, overwrite, List.append_assoc]
      rw [List.getD_append_right _ _ _ _ (by omega), front,
        List.getD_append_right _ _ _ _ (by omega)]
      simp only [List.getD_eq_getElem?_getD, List.getElem?_drop]
      congr 5
      omega

theorem testBit_cutOut {self : DiagCodedType} (plain : self.byteOrder ≠ .reorderPairs)
    (payload : List UInt8) (bytePos : Nat) {byteCount j : Nat} (inside : j < 8 * byteCount) :
    (value (self.cutOut payload bytePos byteCount)).testBit j =
      holds payload (stringCell bytePos byteCount (self.byteOrder = .reverse) j) := by
  have length : (((extendTo payload (bytePos + byteCount)).drop bytePos).take byteCount).length =
      byteCount := by
    rw [List.length_take, List.length_drop, length_extendTo]
    omega
  rw [testBit_value (by rw [length_cutOut]; exact inside), length_cutOut, cutOut, byteIndex]
  cases order : self.byteOrder with
  | reorderPairs => exact absurd order plain
  | keep =>
    simp only [normalizeByteOrder, stringCell, reduceCtorEq, decide_false, Bool.false_eq_true,
      if_false]
    rw [holds_take (by dsimp only; omega), holds_drop, holds_extendTo]
    congr 3
    omega
  | reverse =>
    simp only [normalizeByteOrder, stringCell, decide_true, if_true]
    rw [holds_reverse _ (by omega), length, holds_take (by dsimp only; omega), holds_drop,
      holds_extendTo]
    congr 3
    omega

theorem sets_stringCell_iff {self : DiagCodedType} {bytePos bitPos bitLen j number : Nat}
    (inside : j < 8 * byteLen (bitPos + bitLen)) :
    (self.place bytePos bitPos bitLen).Sets number
        (stringCell bytePos (byteLen (bitPos + bitLen)) (self.byteOrder = .reverse) j) ↔
      (bitPos ≤ j ∧ j < bitPos + bitLen) ∧ number.testBit (j - bitPos) = true := by
  constructor
  · intro set
    obtain ⟨i, inField, same, bit⟩ := set
    have bound : bitPos + i < 8 * byteLen (bitPos + bitLen) := by
      change i < bitLen at inField
      simp only [byteLen]
      omega
    obtain rfl := stringCell_injective bound inside same
    rw [Nat.add_sub_cancel_left]
    exact ⟨⟨Nat.le_add_right _ _, Nat.add_lt_add_left inField _⟩, bit⟩
  · intro set
    obtain ⟨range, bit⟩ := set
    refine ⟨j - bitPos, Nat.sub_lt_left_of_lt_add range.1 range.2, ?_, bit⟩
    rw [Place.cell]
    change stringCell bytePos (byteLen (bitPos + bitLen)) _ (bitPos + (j - bitPos)) = _
    rw [Nat.add_sub_cancel' range.1]
    rfl

theorem writePacked_adds {self : DiagCodedType} (plain : self.byteOrder ≠ .reorderPairs)
    {packed : Packed} (unmasked : packed.mask = none) (positive : 0 < packed.bitLen)
    (payload : List UInt8) (bytePos : Nat) {bitPos : Nat} (position : bitPos ≤ 7) :
    ∃ after, self.writePacked packed payload bytePos bitPos = .ok after ∧
      after.length = max payload.length (self.place bytePos bitPos packed.bitLen).stop ∧
      Adds [⟨self.place bytePos bitPos packed.bitLen, value packed.bytes⟩] payload after := by
  obtain ⟨bytes, writes, effect⟩ := writePacked_spec self payload bytePos position positive
    (by simp [unmasked])
  have length : bytes.length = byteLen (bitPos + packed.bitLen) :=
    effect.length.trans (length_cutOut _ _ _ _)
  refine ⟨_, writes, ?_, ?_⟩
  · rw [length_overwrite, length_normalizeByteOrder, length]
    rfl
  · intro cell
    obtain ⟨byte, offset⟩ := cell
    simp only [List.mem_singleton, exists_eq_left]
    by_cases inBytes : bytePos ≤ byte ∧ byte < bytePos + bytes.length ∧ offset < 8
    · obtain ⟨lower, upper, inByte⟩ := inBytes
      obtain ⟨j, inside, found⟩ :=
        exists_stringCell (decide (self.byteOrder = .reverse)) lower upper inByte
      have new := testBit_cutOut plain
        (overwrite payload bytePos (normalizeByteOrder bytes self.byteOrder)) bytePos inside
      have old := testBit_cutOut plain payload bytePos inside
      rw [cutOut_overwrite, found] at new
      rw [found] at old
      rw [← new, ← old, ← found]
      rw [length] at inside ⊢
      rw [sets_stringCell_iff inside]
      by_cases inField : bitPos ≤ j ∧ j < bitPos + packed.bitLen
      · have bit := effect.inside (j - bitPos) (by omega)
        rw [Nat.add_sub_cancel' inField.1] at bit
        simp [bit, Packed.spares, unmasked, inField]
      · rw [effect.outside j (by omega)]
        simp [inField]
    · have unset : ¬(self.place bytePos bitPos packed.bitLen).Sets (value packed.bytes)
          (byte, offset) := by
        intro set
        obtain ⟨i, inField, same, _⟩ := set
        have bounds := Place.cell_bounds inField
        have inByte : ((self.place bytePos bitPos packed.bitLen).cell i).2 < 8 :=
          Nat.mod_lt _ (by decide)
        rw [same] at bounds inByte
        simp only [place, Place.stop, Place.byteCount, ← length] at bounds
        exact inBytes ⟨bounds.1, bounds.2, inByte⟩
      rw [or_iff_left unset]
      by_cases inByte : offset < 8
      · rw [holds_overwrite, length_normalizeByteOrder, if_neg (by omega)]
      · rw [holds_of_eight_le _ (Nat.le_of_not_lt inByte),
          holds_of_eight_le _ (Nat.le_of_not_lt inByte)]

theorem decode_reads {self : DiagCodedType} {slt : StandardLengthType}
    (plain : self.byteOrder ≠ .reorderPairs) (standard : self.type_ = .standardLength slt)
    (unmasked : slt.bitMask = none) {bitPos : Nat} (position : bitPos ≤ 7)
    (aligned : self.validateBitPos bitPos = .ok ())
    (valid : self.baseDatatype.validateBitLen slt.bitLength = .ok ())
    (positive : 0 < slt.bitLength)
    (fits : bitPos + slt.bitLength ≤ 8 * byteLen slt.bitLength) {payload : List UInt8}
    {bytePos : Nat} (enough : bytePos + byteLen slt.bitLength ≤ payload.length) :
    ∃ data, self.decode payload bytePos bitPos = .ok (data, slt.bitLength) ∧
      data.length = byteLen slt.bitLength ∧
      ∀ j, (value data).testBit j = (decide (j < slt.bitLength) &&
        holds payload ((self.place bytePos bitPos slt.bitLength).cell j)) := by
  have width : byteLen (bitPos + slt.bitLength) = byteLen slt.bitLength := by
    simp only [byteLen] at fits ⊢
    omega
  obtain ⟨data, extracted, length, bits⟩ := @extractBits_spec slt.bitLength bitPos
    (self.cutOut payload bytePos (byteLen slt.bitLength)) position positive
    (by rw [length_cutOut]; exact fits)
  refine ⟨data, ?_, length, ?_⟩
  · rw [decode_standardLength standard aligned valid positive enough]
    simp only [unpackData, normalizeByteOrder_normalizeByteOrder, unmasked, Option.map_none,
      extracted]
    rfl
  · intro j
    rw [bits]
    by_cases inField : j < slt.bitLength
    · rw [testBit_cutOut plain payload bytePos (by omega), ← width]
      rfl
    · simp [inField]

section StandardLength

variable {self : DiagCodedType} {slt : StandardLengthType}

theorem byteOrder_numeric (numeric : self.baseDatatype = .int32 ∨ self.baseDatatype = .uint32) :
    self.byteOrder ≠ .reorderPairs := by
  obtain base | base := numeric <;>
    simp only [byteOrder, base] <;>
    split <;> decide

theorem decode_of_short (standard : self.type_ = .standardLength slt) {bitPos : Nat}
    (aligned : self.validateBitPos bitPos = .ok ())
    (valid : self.baseDatatype.validateBitLen slt.bitLength = .ok ()) (positive : 0 < slt.bitLength)
    {payload : List UInt8} {bytePos : Nat} (short : payload.length < bytePos + byteLen slt.bitLength) :
    self.decode payload bytePos bitPos =
      .error (.notEnoughData (bytePos + byteLen slt.bitLength) payload.length) := by
  simp only [decode, aligned, posInfo_standardLength standard valid, bind, Except.bind,
    if_neg (Nat.ne_of_gt positive),
    if_pos short]

theorem encode_adds (plain : self.byteOrder ≠ .reorderPairs)
    (standard : self.type_ = .standardLength slt) {bitPos : Nat} (position : bitPos ≤ 7)
    (aligned : self.validateBitPos bitPos = .ok ()) {inputData bytes : List UInt8}
    (packs : self.packStandardLen slt inputData = .ok ⟨bytes, slt.bitLength, none⟩)
    (positive : 0 < slt.bitLength) (payload : List UInt8) (bytePos : Nat) :
    ∃ after, self.encode inputData payload bytePos bitPos = .ok after ∧
      after.length = max payload.length (self.place bytePos bitPos slt.bitLength).stop ∧
      Adds [⟨self.place bytePos bitPos slt.bitLength, value bytes⟩] payload after := by
  obtain ⟨after, written, length, adds⟩ := @writePacked_adds self plain
    ⟨bytes, slt.bitLength, none⟩ rfl positive payload bytePos bitPos position
  refine ⟨after, ?_, length, adds⟩
  rw [← written]
  simp only [encode, aligned, packInput, standard, packs, bind, Except.bind]
  rfl

theorem encode_number_adds (standard : self.type_ = .standardLength slt)
    (numeric : self.baseDatatype = .int32 ∨ self.baseDatatype = .uint32)
    (unmasked : slt.bitMask = none)
    (valid : self.baseDatatype.validateBitLen slt.bitLength = .ok ())
    {bitPos : Nat} (position : bitPos ≤ 7) {inputData : List UInt8}
    (small : value inputData < 2 ^ slt.bitLength)
    (kept : slt.bitLength % 8 = 0 ∨ value inputData % 256 < 2 ^ (slt.bitLength % 8))
    (payload : List UInt8) (bytePos : Nat) :
    ∃ after, self.encode inputData payload bytePos bitPos = .ok after ∧
      after.length = max payload.length (self.place bytePos bitPos slt.bitLength).stop ∧
      Adds [⟨self.place bytePos bitPos slt.bitLength, value inputData⟩] payload after := by
  have positive := ((validateBitLen_numeric numeric slt.bitLength).mp valid).1
  obtain ⟨bytes, packs, bits⟩ := packStandardLen_unmasked_spec numeric unmasked valid small
  have same : value bytes = value inputData := by
    apply Nat.eq_of_testBit_eq
    intro j
    rw [bits]
    by_cases set : (value inputData).testBit j = true
    · simp [set, (forall_not_cleared_iff slt.bitLength _).mpr kept j set]
    · simp [set]
  rw [← same]
  exact encode_adds (byteOrder_numeric numeric) standard position
    (validateBitPos_numeric numeric bitPos) packs positive
    payload bytePos

end StandardLength

end DiagCodedType

end DiagnosticAdapter.Codec
