import DiagnosticAdapter.Codec.Cells

/-!
# Sequences of encoded fields

A field that is encoded sets some cells of the payload, clears others, and leaves the
rest as they are, whatever the payload holds.  So after a sequence of fields a cell holds
what the last field that touches it has put there.
-/

namespace DiagnosticAdapter.Codec

open Bits

namespace DiagCodedType

/-- The bytes of a field after a value was written into them. -/
def writeField (self : DiagCodedType) (packed : Packed) (bitPos : Nat) (field : List UInt8) :
    Except DiagServiceError (List UInt8) := do
  let field ← packed.applyInvertedMask (normalizeByteOrder field self.byteOrder) bitPos
  let field ← injectBits packed.bitLen bitPos field packed.bytes
  return normalizeByteOrder field self.byteOrder

/-- The bytes at a position; those that the payload does not have are zero. -/
def fieldAt (udsPayload : List UInt8) (bytePos byteCount : Nat) : List UInt8 :=
  ((extendTo udsPayload (bytePos + byteCount)).drop bytePos).take byteCount

@[simp]
theorem length_fieldAt (udsPayload : List UInt8) (bytePos byteCount : Nat) :
    (fieldAt udsPayload bytePos byteCount).length = byteCount := by
  rw [fieldAt, List.length_take, List.length_drop, length_extendTo]
  omega

theorem holds_fieldAt {udsPayload : List UInt8} {bytePos byteCount byte : Nat} (offset : Nat)
    (inside : byte < byteCount) :
    holds (fieldAt udsPayload bytePos byteCount) (byte, offset) =
      holds udsPayload (bytePos + byte, offset) := by
  rw [fieldAt, holds_take inside, holds_drop, holds_extendTo]

namespace Packed

variable (packed : Packed)

/-- The value sets bit `i` of its field. -/
def sets (i : Nat) : Bool := (value packed.bytes).testBit i

/-- The mask clears bit `i` of the field before the value is written. -/
def clears (i : Nat) : Bool :=
  packed.mask.any fun mask => !maskBit (mask.data.map (~~~·)) i

/-- What becomes of bit `i`, if it does not keep what it holds. -/
def bitEffect (i : Nat) : Option Bool :=
  if packed.sets i then some true else if packed.clears i then some false else none

theorem bitEffect_eq_none_iff (i : Nat) :
    packed.bitEffect i = none ↔ packed.sets i = false ∧ packed.clears i = false := by
  cases setting : packed.sets i <;> cases clearing : packed.clears i <;>
    simp [bitEffect, setting, clearing]

theorem applyInvertedMask_bits (bitPos : Nat) (field : List UInt8) :
    ∃ result, packed.applyInvertedMask field bitPos = .ok result ∧ result.length = field.length ∧
      ∀ j, (value result).testBit j = ((value field).testBit j &&
        !(decide (bitPos ≤ j ∧ j < bitPos + packed.bitLen) && packed.clears (j - bitPos))) := by
  cases hasMask : packed.mask with
  | none =>
    refine ⟨field, by rw [Packed.applyInvertedMask, hasMask], rfl, fun j => ?_⟩
    simp [clears, hasMask]
  | some mask =>
    obtain ⟨result, applied, length, bits⟩ :=
      applyBitMask_bits field (mask.data.map (~~~·)) packed.bitLen bitPos
    refine ⟨result, by rw [Packed.applyInvertedMask, hasMask]; exact applied, length,
      fun j => ?_⟩
    rw [bits j, clears, hasMask, Option.any_some, Bool.not_and, Bool.not_not]

end Packed

end DiagCodedType

theorem testBit_ones {offset : Nat} (inByte : offset < 8) :
    (0xFF : UInt8).toNat.testBit offset = true := by
  revert offset
  decide

theorem holds_swapPairs (data : List UInt8) (byte offset : Nat) :
    holds (swapPairs data) (byte, offset) =
      holds data (if byte / 2 * 2 + 1 < data.length then byte / 2 * 2 + 1 - byte % 2 else byte,
        offset) := by
  fun_induction swapPairs data generalizing byte with
  | case1 first second rest ih =>
    rcases byte with _ | _ | later
    · simp [holds]
    · simp [holds]
    · have behind := ih later
      simp only [holds, List.getD_cons_succ] at behind ⊢
      rw [behind]
      simp only [List.length_cons, show (later + 1 + 1) / 2 = later / 2 + 1 by omega,
        show (later + 1 + 1) % 2 = later % 2 by omega]
      by_cases inside : later / 2 * 2 + 1 < rest.length
      · rw [if_pos inside, if_pos (by omega), show (later / 2 + 1) * 2 + 1 - later % 2 =
          later / 2 * 2 + 1 - later % 2 + 1 + 1 by omega, List.getD_cons_succ,
          List.getD_cons_succ]
      · rw [if_neg inside, if_neg (by omega), List.getD_cons_succ, List.getD_cons_succ]
  | case2 data short =>
    have few : data.length ≤ 1 := by
      rcases data with _ | ⟨first, _ | ⟨second, rest⟩⟩
      · simp
      · simp
      · exact absurd rfl (short first second rest)
    rw [if_neg (by omega)]

/-- Where the bytes of a field go when the byte order is normalized. -/
def ByteOrder.index (order : ByteOrder) (byteCount byte : Nat) : Nat :=
  match order with
  | .keep => byte
  | .reorderPairs => if byte / 2 * 2 + 1 < byteCount then byte / 2 * 2 + 1 - byte % 2 else byte
  | .reverse => byteCount - 1 - byte

theorem ByteOrder.index_lt {byteCount byte : Nat} (order : ByteOrder) (inside : byte < byteCount) :
    order.index byteCount byte < byteCount := by
  cases order with
  | keep => exact inside
  | reorderPairs =>
    simp only [index]
    split <;> omega
  | reverse =>
    simp only [index]
    omega

theorem holds_normalizeByteOrder {data : List UInt8} {byte : Nat} (order : ByteOrder)
    (offset : Nat) (inside : byte < data.length) :
    holds (normalizeByteOrder data order) (byte, offset) =
      holds data (order.index data.length byte, offset) := by
  cases order with
  | keep => rfl
  | reorderPairs => exact holds_swapPairs data byte offset
  | reverse => exact holds_reverse offset inside

theorem ByteOrder.index_index {byteCount byte : Nat} (order : ByteOrder)
    (inside : byte < byteCount) : order.index byteCount (order.index byteCount byte) = byte := by
  cases order with
  | keep => rfl
  | reorderPairs =>
    by_cases paired : byte / 2 * 2 + 1 < byteCount
    · have partner : ∀ half, half / 2 * 2 + 1 < byteCount →
          reorderPairs.index byteCount half = half / 2 * 2 + 1 - half % 2 :=
        fun half inPair => if_pos inPair
      rw [partner byte paired, partner _ (by omega)]
      omega
    · have alone : reorderPairs.index byteCount byte = byte := if_neg paired
      rw [alone, alone]
  | reverse =>
    simp only [index]
    omega

theorem holds_eq_testBit {data : List UInt8} {byte offset : Nat} (inside : byte < data.length)
    (inByte : offset < 8) :
    holds data (byte, offset) = (value data).testBit (8 * (data.length - 1 - byte) + offset) := by
  rw [testBit_value (by omega), byteIndex]
  congr 2
  · omega
  · omega

/-- The bit of a field's number that a cell of the field is. -/
def ByteOrder.bit (order : ByteOrder) (byteCount : Nat) (cell : Cell) : Nat :=
  8 * (byteCount - 1 - order.index byteCount cell.1) + cell.2

theorem holds_eq_testBit_normalized {field : List UInt8} {byte offset : Nat} (order : ByteOrder)
    (inside : byte < field.length) (inByte : offset < 8) :
    holds field (byte, offset) =
      (value (normalizeByteOrder field order)).testBit (order.bit field.length (byte, offset)) := by
  have moved := order.index_lt inside
  have length := length_normalizeByteOrder field order
  have found := @holds_eq_testBit (normalizeByteOrder field order) _ _
    (by rw [length]; exact moved) inByte
  rw [holds_normalizeByteOrder order offset moved, order.index_index inside, length] at found
  exact found

theorem ByteOrder.exists_bit {byteCount j : Nat} (order : ByteOrder) (inside : j < 8 * byteCount) :
    ∃ byte offset, byte < byteCount ∧ offset < 8 ∧ order.bit byteCount (byte, offset) = j := by
  have inField : byteIndex byteCount j < byteCount := by
    rw [byteIndex]
    omega
  refine ⟨order.index byteCount (byteIndex byteCount j), j % 8, order.index_lt inField,
    Nat.mod_lt _ (by decide), ?_⟩
  rw [bit, order.index_index inField, byteIndex]
  omega

namespace DiagCodedType

/-- Writing a value into a field succeeds whatever the field holds, and acts bit by bit. -/
theorem writeField_spec (self : DiagCodedType) {packed : Packed} {bitPos : Nat}
    (position : bitPos ≤ 7) (positive : 0 < packed.bitLen) {field : List UInt8}
    (sized : field.length = byteLen (bitPos + packed.bitLen)) :
    ∃ result, self.writeField packed bitPos field = .ok result ∧ result.length = field.length ∧
      ∀ j, (value (normalizeByteOrder result self.byteOrder)).testBit j =
        (if bitPos ≤ j ∧ j < bitPos + packed.bitLen then packed.bitEffect (j - bitPos)
          else none).getD ((value (normalizeByteOrder field self.byteOrder)).testBit j) := by
  obtain ⟨masked, applied, length, bits⟩ :=
    packed.applyInvertedMask_bits bitPos (normalizeByteOrder field self.byteOrder)
  rw [length_normalizeByteOrder, sized] at length
  obtain ⟨result, injected, resultLength, resultBits⟩ :=
    @injectBits_spec packed.bitLen bitPos masked packed.bytes position positive length
  refine ⟨normalizeByteOrder result self.byteOrder, ?_, ?_, fun j => ?_⟩
  · simp only [writeField, applied, injected, bind, Except.bind]
    rfl
  · rw [length_normalizeByteOrder, resultLength, length, sized]
  · rw [normalizeByteOrder_normalizeByteOrder, resultBits, bits]
    by_cases inside : bitPos ≤ j ∧ j < bitPos + packed.bitLen
    · rw [if_pos inside, Packed.bitEffect, Packed.sets, decide_eq_true inside]
      cases (value packed.bytes).testBit (j - bitPos) <;>
        cases packed.clears (j - bitPos) <;> simp
    · rw [if_neg inside, decide_eq_false inside]
      simp

theorem writePacked_eq (self : DiagCodedType) {packed : Packed} {bitPos : Nat}
    (position : bitPos ≤ 7) (positive : 0 < packed.bitLen) (udsPayload : List UInt8)
    (bytePos : Nat) :
    self.writePacked packed udsPayload bytePos bitPos = (self.writeField packed bitPos
        (fieldAt udsPayload bytePos (byteLen (bitPos + packed.bitLen)))).map
          (overwrite udsPayload bytePos) := by
  let count := byteLen (bitPos + packed.bitLen)
  let field := fieldAt udsPayload bytePos count
  have sized : field.length = count := length_fieldAt _ _ _
  have sliced : slice? (extendTo udsPayload (bytePos + count)) bytePos (bytePos + count) =
      some field := by
    rw [slice?_of_le (Nat.le_add_right _ _) (by rw [length_extendTo]; omega),
      Nat.add_sub_cancel_left]
    rfl
  obtain ⟨masked, applied, length, _⟩ :=
    packed.applyInvertedMask_bits bitPos (normalizeByteOrder field self.byteOrder)
  rw [length_normalizeByteOrder, sized] at length
  obtain ⟨result, injected, resultLength, _⟩ :=
    @injectBits_spec packed.bitLen bitPos masked packed.bytes position positive length
  have total : (normalizeByteOrder result self.byteOrder).length = count := by
    rw [length_normalizeByteOrder, resultLength, length]
  have written : self.writeField packed bitPos field =
      .ok (normalizeByteOrder result self.byteOrder) := by
    simp only [writeField, applied, injected, bind, Except.bind]
    rfl
  change self.writePacked packed udsPayload bytePos bitPos =
    (self.writeField packed bitPos field).map (overwrite udsPayload bytePos)
  rw [written]
  simp only [writePacked, count] at sliced ⊢
  simp only [sliced, applied, injected, bind, Except.bind, Except.map, overwrite, total]
  rfl

theorem writePacked_error (self : DiagCodedType) {packed : Packed} {bitPos : Nat}
    (invalid : ¬(bitPos ≤ 7 ∧ 0 < packed.bitLen)) (udsPayload : List UInt8) (bytePos : Nat) :
    (self.writePacked packed udsPayload bytePos bitPos).toOption = none := by
  have refused : ∀ field : List UInt8,
      ∃ error, injectBits packed.bitLen bitPos field packed.bytes = .error error := by
    intro field
    unfold injectBits
    by_cases far : bitPos > 7
    · exact ⟨_, if_pos far⟩
    · rw [if_neg far, if_pos (by omega)]
      exact ⟨_, rfl⟩
  unfold writePacked
  dsimp only
  split
  · rfl
  · rename_i field _
    obtain ⟨masked, applied, _⟩ :=
      packed.applyInvertedMask_bits bitPos (normalizeByteOrder field self.byteOrder)
    obtain ⟨error, injected⟩ := refused masked
    simp only [applied, injected, bind, Except.bind]
    rfl

end DiagCodedType

def origin (anchored : Bool) (start : Nat) : Nat := if anchored then start else 0

theorem origin_false (start : Nat) : origin false start = 0 := rfl

/-- A value that is written into a field, placed from the start of its structure if it is anchored.
-/
structure Patch where
  coded : DiagCodedType
  packed : DiagCodedType.Packed
  bytePos : Nat
  bitPos : Nat
  anchored : Bool
  position : bitPos ≤ 7
  positive : 0 < packed.bitLen

namespace Patch

variable (patch : Patch)

def byteCount : Nat := byteLen (patch.bitPos + patch.packed.bitLen)

theorem byteCount_pos : 0 < patch.byteCount := by
  have positive := patch.positive
  rw [byteCount, byteLen]
  omega

def stop : Nat := patch.bytePos + patch.byteCount

/-- Where the field begins in a structure at `start`. -/
def place (start : Nat) : Nat := origin patch.anchored start + patch.bytePos

def rewrite (field : List UInt8) : List UInt8 :=
  (patch.coded.writeField patch.packed patch.bitPos field).toOption.getD field

def apply (start : Nat) (payload : List UInt8) : List UInt8 :=
  DiagCodedType.overwrite payload (patch.place start)
    (patch.rewrite (DiagCodedType.fieldAt payload (patch.place start) patch.byteCount))

/-- What a cell of the field becomes, if it does not keep what it holds. -/
def effect (cell : Cell) : Option Bool :=
  let j := patch.coded.byteOrder.bit patch.byteCount cell
  if patch.bitPos ≤ j ∧ j < patch.bitPos + patch.packed.bitLen then
    patch.packed.bitEffect (j - patch.bitPos)
  else none

def effectAt (start : Nat) (cell : Cell) : Option Bool :=
  if (patch.place start ≤ cell.1 ∧ cell.1 < patch.place start + patch.byteCount) ∧ cell.2 < 8 then
    patch.effect (cell.1 - patch.place start, cell.2)
  else none

/-- The value neither sets nor clears a bit of its field. -/
def Silent : Prop :=
  ∀ i < patch.packed.bitLen, patch.packed.sets i = false ∧ patch.packed.clears i = false

instance : Decidable patch.Silent := inferInstanceAs (Decidable (∀ i < _, _))

variable {patch}

theorem rewrite_eq {field : List UInt8} (sized : field.length = patch.byteCount) :
    patch.coded.writeField patch.packed patch.bitPos field = .ok (patch.rewrite field) ∧
      (patch.rewrite field).length = patch.byteCount := by
  obtain ⟨result, written, length, _⟩ :=
    patch.coded.writeField_spec patch.position patch.positive sized
  rw [rewrite, written]
  exact ⟨rfl, length.trans sized⟩

theorem holds_rewrite {field : List UInt8} {byte offset : Nat}
    (sized : field.length = patch.byteCount) (inside : byte < patch.byteCount)
    (inByte : offset < 8) :
    holds (patch.rewrite field) (byte, offset) =
      (patch.effect (byte, offset)).getD (holds field (byte, offset)) := by
  obtain ⟨result, written, length, bits⟩ :=
    patch.coded.writeField_spec patch.position patch.positive sized
  have rewritten : patch.rewrite field = result := by
    rw [rewrite, written]
    rfl
  have order := patch.coded.byteOrder
  rw [rewritten, holds_eq_testBit_normalized patch.coded.byteOrder (by omega) inByte, bits,
    holds_eq_testBit_normalized patch.coded.byteOrder (by omega) inByte, length, sized]
  rfl

theorem length_apply (start : Nat) (payload : List UInt8) : (patch.apply start payload).length =
      max payload.length (patch.place start + patch.byteCount) := by
  rw [apply, DiagCodedType.length_overwrite, (rewrite_eq (DiagCodedType.length_fieldAt _ _ _)).2]

theorem holds_apply (start : Nat) (payload : List UInt8) (cell : Cell) :
    holds (patch.apply start payload) cell =
      (patch.effectAt start cell).getD (holds payload cell) := by
  obtain ⟨byte, offset⟩ := cell
  have sized := DiagCodedType.length_fieldAt payload (patch.place start) patch.byteCount
  rw [apply, DiagCodedType.holds_overwrite, (rewrite_eq sized).2, effectAt]
  by_cases inByte : offset < 8
  · by_cases inside : patch.place start ≤ byte ∧ byte < patch.place start + patch.byteCount
    · rw [if_pos inside, if_pos ⟨inside, inByte⟩, holds_rewrite sized (by omega) inByte,
        DiagCodedType.holds_fieldAt offset (by omega), Nat.add_sub_cancel' inside.1]
    · rw [if_neg inside, if_neg fun both => inside both.1]
      rfl
  · have above : 8 ≤ offset := Nat.le_of_not_lt inByte
    have untouched : ¬((patch.place start ≤ byte ∧ byte < patch.place start + patch.byteCount) ∧
        offset < 8) := fun both => inByte both.2
    rw [if_neg untouched, Option.getD_none]
    split
    · rw [holds_of_eight_le _ above, holds_of_eight_le payload above]
    · rfl

theorem Silent.effectAt (silent : patch.Silent) (start : Nat) (cell : Cell) :
    patch.effectAt start cell = none := by
  rw [Patch.effectAt, effect]
  split
  · split
    · rename_i inside
      rw [DiagCodedType.Packed.bitEffect_eq_none_iff]
      exact silent _ (by omega)
    · rfl
  · rfl

theorem exists_effect_of_not_silent (loud : ¬patch.Silent) :
    ∃ byte offset, byte < patch.byteCount ∧ offset < 8 ∧ patch.effect (byte, offset) ≠ none := by
  simp only [Silent, not_forall] at loud
  obtain ⟨i, inside, touched⟩ := loud
  have inField : patch.bitPos + i < 8 * patch.byteCount := by
    rw [byteCount, byteLen]
    omega
  obtain ⟨byte, offset, inBytes, inByte, found⟩ :=
    patch.coded.byteOrder.exists_bit inField
  refine ⟨byte, offset, inBytes, inByte, ?_⟩
  rw [effect, found]
  rw [if_pos (by omega), Nat.add_sub_cancel_left, Ne, DiagCodedType.Packed.bitEffect_eq_none_iff]
  exact touched

end Patch

/-- The fields one after another, for a structure at `start`. -/
def applyAll (start : Nat) (patches : List Patch) (payload : List UInt8) : List UInt8 :=
  patches.foldl (fun payload patch => patch.apply start payload) payload

/-- What the last field that touches the cell puts there. -/
def lastEffect (start : Nat) : List Patch → Cell → Option Bool
  | [], _ => none
  | patch :: rest, cell => (lastEffect start rest cell).or (patch.effectAt start cell)

def reach (start : Nat) (patches : List Patch) : Nat :=
  (patches.map fun patch => patch.place start + patch.byteCount).foldr max 0

theorem holds_applyAll (start : Nat) (patches : List Patch) (payload : List UInt8) (cell : Cell) :
    holds (applyAll start patches payload) cell =
      (lastEffect start patches cell).getD (holds payload cell) := by
  induction patches generalizing payload with
  | nil => rfl
  | cons patch rest ih =>
    change holds (applyAll start rest (patch.apply start payload)) cell = _
    rw [ih, Patch.holds_apply, lastEffect]
    cases lastEffect start rest cell with
    | none => rfl
    | some bit => rfl

theorem length_applyAll (start : Nat) (patches : List Patch) (payload : List UInt8) :
    (applyAll start patches payload).length = max payload.length (reach start patches) := by
  induction patches generalizing payload with
  | nil => exact (Nat.max_eq_left (Nat.zero_le _)).symm
  | cons patch rest ih =>
    change (applyAll start rest (patch.apply start payload)).length = _
    rw [ih, Patch.length_apply]
    exact Nat.max_assoc _ _ _

theorem applyAll_append (start : Nat) (first second : List Patch) (payload : List UInt8) :
    applyAll start (first ++ second) payload =
      applyAll start second (applyAll start first payload) :=
  List.foldl_append

theorem reach_le_iff {start bound : Nat} {patches : List Patch} : reach start patches ≤ bound ↔
      ∀ patch ∈ patches, patch.place start + patch.byteCount ≤ bound := by
  induction patches with
  | nil => simp [reach]
  | cons patch rest ih =>
    change max (patch.place start + patch.byteCount) (reach start rest) ≤ bound ↔ _
    rw [Nat.max_le, ih, List.forall_mem_cons]

theorem lastEffect_eq_none_iff {start : Nat} {patches : List Patch} {cell : Cell} :
    lastEffect start patches cell = none ↔ ∀ patch ∈ patches, patch.effectAt start cell = none := by
  induction patches with
  | nil => simp [lastEffect]
  | cons patch rest ih =>
    rw [lastEffect, Option.or_eq_none_iff, ih, List.forall_mem_cons, and_comm]

/-- What is not anchored writes no bit, and ends no later than what is. -/
def Harmless (patches : List Patch) : Prop :=
  ∀ patch ∈ patches, patch.anchored = false →
    patch.Silent ∧ ∃ other ∈ patches, other.anchored = true ∧ patch.stop ≤ other.stop

instance (patches : List Patch) : Decidable (Harmless patches) :=
  inferInstanceAs (Decidable (∀ patch ∈ patches, patch.anchored = false →
    patch.Silent ∧ ∃ other ∈ patches, other.anchored = true ∧ patch.stop ≤ other.stop))

namespace Patch

variable {patch : Patch}

theorem place_of_anchored (anchored : patch.anchored = true) (start : Nat) :
    patch.place start = start + patch.bytePos := by
  rw [place, anchored]
  rfl

theorem place_of_not_anchored (loose : patch.anchored = false) (start : Nat) :
    patch.place start = patch.bytePos := by
  rw [place, loose]
  exact Nat.zero_add _

theorem effectAt_before (anchored : patch.anchored = true) {start : Nat} {cell : Cell}
    (before : cell.1 < start) : patch.effectAt start cell = none := by
  rw [effectAt, place_of_anchored anchored, if_neg]
  omega

theorem effectAt_shift (anchored : patch.anchored = true) (start byte offset : Nat) :
    patch.effectAt start (start + byte, offset) = patch.effectAt 0 (byte, offset) := by
  rw [effectAt, effectAt, place_of_anchored anchored, place_of_anchored anchored, Nat.zero_add,
    Nat.add_sub_add_left]
  simp only [Nat.add_assoc, Nat.add_le_add_iff_left, Nat.add_lt_add_iff_left]

end Patch

section Harmless

variable {patches : List Patch}

theorem Harmless.lastEffect_before (harmless : Harmless patches) {start : Nat} {cell : Cell}
    (before : cell.1 < start) : lastEffect start patches cell = none := by
  apply lastEffect_eq_none_iff.2
  intro patch isPatch
  cases anchored : patch.anchored with
  | true => exact Patch.effectAt_before anchored before
  | false => exact (harmless patch isPatch anchored).1.effectAt start cell

theorem lastEffect_shift
    (silent : ∀ patch ∈ patches, patch.anchored = false → patch.Silent) (start byte offset : Nat) :
    lastEffect start patches (start + byte, offset) = lastEffect 0 patches (byte, offset) := by
  induction patches with
  | nil => rfl
  | cons patch rest ih =>
    rw [List.forall_mem_cons] at silent
    rw [lastEffect, lastEffect, ih silent.2]
    congr 1
    cases anchored : patch.anchored with
    | true => exact Patch.effectAt_shift anchored start byte offset
    | false => rw [(silent.1 anchored).effectAt, (silent.1 anchored).effectAt]

theorem Harmless.max_reach (harmless : Harmless patches) (start : Nat) :
    max start (reach start patches) = start + reach 0 patches := by
  have bounds := reach_le_iff.1 (Nat.le_refl (reach 0 patches))
  apply Nat.le_antisymm
  · apply Nat.max_le.2 ⟨Nat.le_add_right _ _, reach_le_iff.2 fun patch isPatch => ?_⟩
    have bound := bounds patch isPatch
    cases anchored : patch.anchored with
    | true =>
      rw [Patch.place_of_anchored anchored] at bound ⊢
      omega
    | false =>
      rw [Patch.place_of_not_anchored anchored] at bound ⊢
      omega
  · -- it is an anchored field that reaches farthest
    have above := reach_le_iff.1 (Nat.le_refl (reach start patches))
    have farthest : reach 0 patches ≤ max start (reach start patches) - start := by
      apply reach_le_iff.2
      intro patch isPatch
      have anchoredBelow : ∀ other ∈ patches, other.anchored = true →
          other.stop ≤ max start (reach start patches) - start := by
        intro other isOther anchored
        have bound := above other isOther
        rw [Patch.place_of_anchored anchored] at bound
        rw [Patch.stop]
        omega
      cases anchored : patch.anchored with
      | true =>
        rw [Patch.place_of_anchored anchored, Nat.zero_add]
        exact anchoredBelow patch isPatch anchored
      | false =>
        obtain ⟨_, other, isOther, otherAnchored, below⟩ := harmless patch isPatch anchored
        rw [Patch.place_of_not_anchored anchored]
        exact below.trans (anchoredBelow other isOther otherAnchored)
    omega

theorem Harmless.applyAll_moves (harmless : Harmless patches) (payload : List UInt8) :
    applyAll payload.length patches payload = payload ++ applyAll 0 patches [] := by
  have silent := fun patch isPatch anchored => (harmless patch isPatch anchored).1
  apply eq_of_holds_eq
  · rw [List.length_append, length_applyAll, length_applyAll, harmless.max_reach]
    exact congrArg _ (Nat.max_eq_right (Nat.zero_le _)).symm
  · intro byte offset _ _
    rw [holds_applyAll]
    by_cases before : byte < payload.length
    · rw [harmless.lastEffect_before before, Option.getD_none, holds, holds]
      congr 2
      rw [List.getD_eq_getElem?_getD, List.getD_eq_getElem?_getD, List.getElem?_append_left before]
    · obtain ⟨behind, rfl⟩ := Nat.exists_eq_add_of_le (Nat.le_of_not_lt before)
      have beyond : holds payload (payload.length + behind, offset) = false :=
        holds_of_length_le (Nat.le_add_right _ _)
      have appended : holds (payload ++ applyAll 0 patches []) (payload.length + behind, offset) =
          holds (applyAll 0 patches []) (behind, offset) := by
        rw [← holds_drop, List.drop_left]
      rw [lastEffect_shift silent, beyond, appended, holds_applyAll,
        holds_of_length_le (Nat.zero_le _)]

/-- A field that is not anchored and writes a bit changes a payload that is long enough. -/
theorem exists_changed {patch : Patch} (isPatch : patch ∈ patches)
    (loose : patch.anchored = false) (loud : ¬patch.Silent) :
    ∃ payload : List UInt8, applyAll payload.length patches payload ≠
      payload ++ applyAll 0 patches [] := by
  obtain ⟨byte, offset, inBytes, inByte, touched⟩ := Patch.exists_effect_of_not_silent loud
  let cell : Cell := (patch.bytePos + byte, offset)
  let length := patch.bytePos + patch.byteCount
  have some : lastEffect length patches cell ≠ none := by
    intro untouched
    apply touched
    have none := lastEffect_eq_none_iff.1 untouched patch isPatch
    rw [Patch.effectAt, Patch.place_of_not_anchored loose, if_pos (by simp only [cell]; omega)]
      at none
    simpa only [cell, Nat.add_sub_cancel_left] using none
  obtain ⟨bit, last⟩ := Option.ne_none_iff_exists'.1 some
  -- the payload that holds the opposite everywhere
  let payload := List.replicate length (if bit then (0 : UInt8) else 0xFF)
  have inside : cell.1 < payload.length := by
    rw [List.length_replicate]
    simp only [cell, length]
    omega
  refine ⟨payload, fun same => ?_⟩
  have opposite : holds payload cell = !bit := by
    rw [holds, List.getD_eq_getElem _ _ inside, List.getElem_replicate]
    cases bit with
    | true => exact Nat.zero_testBit _
    | false => exact testBit_ones inByte
  have after := holds_applyAll payload.length patches payload cell
  rw [same, List.length_replicate, last, Option.getD_some] at after
  have kept : holds (payload ++ applyAll 0 patches []) cell = holds payload cell := by
    rw [holds, holds, List.getD_eq_getElem?_getD, List.getD_eq_getElem?_getD,
      List.getElem?_append_left inside]
  rw [kept, opposite] at after
  cases bit <;> cases after

/-- Behind any payload, fields write what they write alone exactly if they are harmless. -/
theorem applyAll_moves_iff : (∀ payload : List UInt8,
      applyAll payload.length patches payload = payload ++ applyAll 0 patches []) ↔
      Harmless patches := by
  constructor
  · intro moves patch isPatch loose
    constructor
    · by_contra loud
      obtain ⟨payload, changed⟩ := exists_changed isPatch loose loud
      exact changed (moves payload)
    · by_contra outermost
      have below : ∀ other ∈ patches, other.anchored = true → other.stop < patch.stop :=
        fun other isOther anchored => Nat.lt_of_not_le fun farther =>
          outermost ⟨other, isOther, anchored, farther⟩
      have bounds := reach_le_iff.1 (Nat.le_refl (reach 0 patches))
      have bound := bounds patch isPatch
      rw [Patch.place_of_not_anchored loose] at bound
      have positive := patch.byteCount_pos
      -- a single byte in front does not move the end
      have short : reach 1 patches ≤ reach 0 patches := by
        apply reach_le_iff.2
        intro other isOther
        cases anchored : other.anchored with
        | true =>
          have inside := below other isOther anchored
          rw [Patch.stop, Patch.stop] at inside
          rw [Patch.place_of_anchored anchored]
          omega
        | false =>
          have inside := bounds other isOther
          rw [Patch.place_of_not_anchored anchored] at inside ⊢
          exact inside
      have lengths := congrArg List.length (moves [0])
      rw [List.length_append, length_applyAll, length_applyAll] at lengths
      simp only [List.length_singleton, List.length_nil] at lengths
      omega
  · intro harmless payload
    exact harmless.applyAll_moves payload

end Harmless

namespace DiagCodedType

variable (self : DiagCodedType)

/-- The field that the value is written to, if there is one. -/
def patches? (inputData : List UInt8) (bytePos bitPos : Nat) (anchored : Bool) :
    Option (List Patch) :=
  match self.validateBitPos bitPos, self.packInput inputData with
  | .ok _, .ok none => some []
  | .ok _, .ok (some packed) =>
    if valid : bitPos ≤ 7 ∧ 0 < packed.bitLen then
      some [⟨self, packed, bytePos, bitPos, anchored, valid.1, valid.2⟩]
    else none
  | _, _ => none

theorem encode_toOption (inputData payload : List UInt8) (start bytePos bitPos : Nat)
    (anchored : Bool) :
    (self.encode inputData payload (origin anchored start + bytePos) bitPos).toOption =
      (self.patches? inputData bytePos bitPos anchored).map
        fun patches => applyAll start patches payload := by
  rw [encode, patches?]
  cases self.validateBitPos bitPos with
  | error failure => rfl
  | ok unit =>
    cases self.packInput inputData with
    | error failure => rfl
    | ok packed? =>
      cases packed? with
      | none => rfl
      | some packed =>
        change (self.writePacked packed payload
          (origin anchored start + bytePos) bitPos).toOption = _
        by_cases valid : bitPos ≤ 7 ∧ 0 < packed.bitLen
        · let patch : Patch := ⟨self, packed, bytePos, bitPos, anchored, valid.1, valid.2⟩
          have sized : (fieldAt payload (patch.place start) patch.byteCount).length =
            patch.byteCount := length_fieldAt _ _ _
          have written := (Patch.rewrite_eq sized).1
          dsimp only
          rw [dif_pos valid, writePacked_eq self valid.1 valid.2]
          exact congrArg (fun outcome => (Except.map _ outcome).toOption) written
        · dsimp only
          rw [dif_neg valid, writePacked_error self valid]
          rfl

end DiagCodedType

end DiagnosticAdapter.Codec
