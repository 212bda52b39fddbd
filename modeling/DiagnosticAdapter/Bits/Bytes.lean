import Mathlib.Data.Nat.Bitwise
import Mathlib.Data.Nat.Count
import Mathlib.Tactic.IntervalCases
import Mathlib.Tactic.Ring

/-!
# Bits of byte strings

A byte string denotes a number, most significant byte first.  Bit `i` of the
string is bit `i` of that number: it lies in the byte `i / 8` places before the
last one.
-/

namespace DiagnosticAdapter.Bits

/-- The number of bytes that hold the given number of bits, `div_ceil(8)`. -/
def byteLen (bits : Nat) : Nat := (bits + 7) / 8

def value : List UInt8 → Nat
  | [] => 0
  | byte :: rest => byte.toNat * 2 ^ (8 * rest.length) + value rest

/-- The bit at `offset`, as the number 0 or 1. -/
def bitOf (byte : UInt8) (offset : Nat) : UInt8 := (byte >>> UInt8.ofNat offset) &&& 1

/-- The byte position of bit `i` in a string of the given length. -/
def byteIndex (length i : Nat) : Nat := length - i / 8 - 1

/-- The lowest `count` bytes of a number, most significant byte first. -/
def toBeBytes : Nat → Nat → List UInt8
  | 0, _ => []
  | count + 1, number => UInt8.ofNat (number / 2 ^ (8 * count)) :: toBeBytes count number

theorem testBit_toNat (byte : UInt8) (j : Nat) :
    byte.toNat.testBit j = byte.toBitVec.getLsbD j := rfl

theorem testBit_of_eight_le (byte : UInt8) {j : Nat} (above : 8 ≤ j) :
    byte.toNat.testBit j = false := by
  rw [testBit_toNat]
  exact BitVec.getLsbD_of_ge byte.toBitVec j above

theorem testBit_bitOf (byte : UInt8) {offset : Nat} (inByte : offset < 8) :
    (bitOf byte offset).toNat.testBit 0 = byte.toNat.testBit offset := by
  have shift : offset % 256 % 8 = offset := by omega
  simp [bitOf, shift]

theorem testBit_or_shift (byte bitValue : UInt8) {offset : Nat} (inByte : offset < 8) (j : Nat) :
    (byte ||| ((bitValue &&& 1) <<< UInt8.ofNat offset)).toNat.testBit j =
      (byte.toNat.testBit j || (decide (j = offset) && bitValue.toNat.testBit 0)) := by
  have shift : offset % 256 % 8 = offset := by omega
  simp only [testBit_toNat, UInt8.toBitVec_or, BitVec.getLsbD_or, UInt8.toBitVec_shiftLeft,
    UInt8.toBitVec_and]
  by_cases same : j = offset
  · subst same
    simp [shift, inByte]
  · simp [shift, same]
    grind

theorem testBit_and_not_shift (byte : UInt8) {offset : Nat} (inByte : offset < 8) (j : Nat) :
    (byte &&& ~~~((1 : UInt8) <<< UInt8.ofNat offset)).toNat.testBit j =
      (byte.toNat.testBit j && !decide (j = offset)) := by
  have shift : offset % 256 % 8 = offset := by omega
  by_cases above : 8 ≤ j
  · simp only [testBit_of_eight_le _ above, Bool.false_and]
  · simp only [testBit_toNat, UInt8.toBitVec_and, BitVec.getLsbD_and, UInt8.toBitVec_not,
      BitVec.getLsbD_not, UInt8.toBitVec_shiftLeft]
    simp [shift]
    grind

theorem testBit_and_ones (byte : UInt8) {count : Nat} (inByte : count < 8) (j : Nat) :
    (byte &&& (((1 : UInt8) <<< UInt8.ofNat count) - 1)).toNat.testBit j =
      (byte.toNat.testBit j && decide (j < count)) := by
  have ones : (((1 : UInt8) <<< UInt8.ofNat count) - 1).toNat = 2 ^ count - 1 := by
    interval_cases count <;> rfl
  rw [UInt8.toNat_and, ones, Nat.testBit_and, Nat.testBit_two_pow_sub_one]

theorem bitOf_eq_one_iff (byte : UInt8) (offset : Nat) :
    bitOf byte offset = 1 ↔ (bitOf byte offset).toNat.testBit 0 = true := by
  have small : (bitOf byte offset).toNat = 0 ∨ (bitOf byte offset).toNat = 1 := by
    rw [bitOf, UInt8.toNat_and, UInt8.toNat_one, Nat.and_one_is_mod]
    omega
  rw [← UInt8.toNat_inj, Nat.testBit_zero, UInt8.toNat_one]
  obtain none | one := small
  · simp [none]
  · simp [one]

theorem value_lt (data : List UInt8) : value data < 2 ^ (8 * data.length) := by
  induction data with
  | nil => simp [value]
  | cons byte rest ih =>
    have bounded : byte.toNat < 256 := byte.toNat_lt
    have step : 2 ^ (8 * (byte :: rest).length) = 256 * 2 ^ (8 * rest.length) := by
      rw [List.length_cons, Nat.mul_add, Nat.pow_add]
      ring
    calc
      value (byte :: rest) < (byte.toNat + 1) * 2 ^ (8 * rest.length) := by
        rw [value, Nat.add_mul, Nat.one_mul]
        exact Nat.add_lt_add_left ih _
      _ ≤ 256 * 2 ^ (8 * rest.length) := Nat.mul_le_mul_right _ bounded
      _ = 2 ^ (8 * (byte :: rest).length) := step.symm

theorem testBit_value_of_length_le {data : List UInt8} {i : Nat} (above : 8 * data.length ≤ i) :
    (value data).testBit i = false :=
  Nat.testBit_lt_two_pow ((value_lt data).trans_le (Nat.pow_le_pow_right (by omega) above))

theorem testBit_value_cons (byte : UInt8) (rest : List UInt8) (i : Nat) :
    (value (byte :: rest)).testBit i =
      if i < 8 * rest.length then (value rest).testBit i
      else byte.toNat.testBit (i - 8 * rest.length) := by
  rw [value, Nat.mul_comm, Nat.testBit_two_pow_mul_add _ (value_lt rest)]

theorem testBit_value_append (front back : List UInt8) (i : Nat) :
    (value (front ++ back)).testBit i =
      if i < 8 * back.length then (value back).testBit i
      else (value front).testBit (i - 8 * back.length) := by
  induction front generalizing i with
  | nil =>
    rw [List.nil_append]
    split
    · rfl
    · rw [testBit_value_of_length_le (by omega)]
      simp [value]
  | cons byte rest ih =>
    rw [List.cons_append, testBit_value_cons, testBit_value_cons, ih, List.length_append]
    have parts : i - 8 * (rest.length + back.length) = i - 8 * back.length - 8 * rest.length := by
      omega
    by_cases inBack : i < 8 * back.length
    · simp only [if_pos inBack, if_pos (show i < 8 * (rest.length + back.length) by omega)]
    · by_cases inRest : i < 8 * (rest.length + back.length)
      · simp only [if_pos inRest, if_neg inBack,
          if_pos (show i - 8 * back.length < 8 * rest.length by omega)]
      · simp only [if_neg inRest, if_neg inBack, parts,
          if_neg (show ¬i - 8 * back.length < 8 * rest.length by omega)]

/-- The byte of bit `i`, with the bytes before and after it. -/
theorem exists_split {data : List UInt8} {i : Nat} (inside : i < 8 * data.length) :
    ∃ front byte back, data = front ++ byte :: back ∧
      front.length = byteIndex data.length i ∧ back.length = i / 8 := by
  have bound : byteIndex data.length i < data.length := by
    simp only [byteIndex]
    omega
  obtain ⟨front, byte, back, shape, frontLength⟩ : ∃ front byte back, data = front ++ byte :: back ∧
        front.length = byteIndex data.length i :=
    ⟨data.take (byteIndex data.length i), data.get ⟨_, bound⟩,
      data.drop (byteIndex data.length i + 1),
      by simp, by simp [Nat.min_eq_left (Nat.le_of_lt bound)]⟩
  refine ⟨front, byte, back, shape, frontLength, ?_⟩
  have total : data.length = front.length + (back.length + 1) := by
    rw [shape, List.length_append, List.length_cons]
  simp only [byteIndex] at frontLength
  omega

theorem testBit_value_split {front back : List UInt8} {byte : UInt8} {i : Nat}
    (position : back.length = i / 8) :
    (value (front ++ byte :: back)).testBit i = byte.toNat.testBit (i % 8) := by
  rw [testBit_value_append, List.length_cons, if_pos (by omega), testBit_value_cons,
    if_neg (by omega)]
  congr 1
  omega

theorem getElem_byteIndex {data : List UInt8} {i : Nat} (inside : i < 8 * data.length) :
    ∃ byte, data[byteIndex data.length i]? = some byte ∧
      byte.toNat.testBit (i % 8) = (value data).testBit i := by
  obtain ⟨front, byte, back, shape, frontLength, position⟩ := exists_split inside
  refine ⟨byte, ?_, ?_⟩
  · rw [← frontLength, shape]
    simp
  · rw [shape, testBit_value_split position]

/-- The bits of a string in which the byte of bit `i` is replaced. -/
theorem testBit_value_set {data : List UInt8} {i : Nat} {old new : UInt8}
    (inside : i < 8 * data.length) (found : data[byteIndex data.length i]? = some old)
    (others : ∀ j, j ≠ i % 8 → new.toNat.testBit j = old.toNat.testBit j) (k : Nat) :
    (value (data.set (byteIndex data.length i) new)).testBit k =
      if k = i then new.toNat.testBit (i % 8) else (value data).testBit k := by
  obtain ⟨front, byte, back, shape, frontLength, position⟩ := exists_split inside
  have oldByte : byte = old := by
    rw [← frontLength, shape] at found
    simpa using found
  subst oldByte
  have replaced : data.set (byteIndex data.length i) new = front ++ new :: back := by
    rw [← frontLength, shape, List.set_append_right _ _ (Nat.le_refl _)]
    simp
  rw [replaced]
  by_cases same : k = i
  · rw [if_pos same, same, testBit_value_split position]
  · rw [if_neg same, shape, testBit_value_append, testBit_value_append, List.length_cons,
      List.length_cons, testBit_value_cons, testBit_value_cons]
    have unchanged : ¬k < 8 * back.length → k < 8 * (back.length + 1) →
        new.toNat.testBit (k - 8 * back.length) = byte.toNat.testBit (k - 8 * back.length) := by
      intro _ _
      exact others _ (by omega)
    split
    · split
      · rfl
      · exact unchanged ‹_› ‹_›
    · rfl

theorem value_replicate_zero (count : Nat) : value (List.replicate count 0) = 0 := by
  induction count with
  | zero => rfl
  | succ count ih => simp [List.replicate_succ, value, ih]

theorem value_append (front back : List UInt8) :
    value (front ++ back) = 2 ^ (8 * back.length) * value front + value back := by
  apply Nat.eq_of_testBit_eq
  intro i
  rw [testBit_value_append, Nat.testBit_two_pow_mul_add _ (value_lt back)]

theorem value_drop (data : List UInt8) (count : Nat) :
    value (data.drop count) = value data % 2 ^ (8 * (data.length - count)) := by
  conv_rhs => rw [← List.take_append_drop count data, value_append]
  rw [List.length_append, List.length_take, List.length_drop]
  have width : min count data.length + (data.length - count) - count = data.length - count := by
    omega
  rw [width, Nat.mul_add_mod, Nat.mod_eq_of_lt]
  simpa using value_lt (data.drop count)

theorem testBit_value_map_not (data : List UInt8) (i : Nat) : (value (data.map (~~~·))).testBit i =
      (decide (i < 8 * data.length) && !(value data).testBit i) := by
  by_cases inside : i < 8 * data.length
  · obtain ⟨front, byte, back, shape, _, position⟩ := exists_split inside
    have inByte : i % 8 < 8 := Nat.mod_lt _ (by decide)
    rw [shape, List.map_append, List.map_cons, testBit_value_split position,
      testBit_value_split (by rw [List.length_map, position]), ← shape]
    simp only [testBit_toNat, UInt8.toBitVec_not, BitVec.getLsbD_not]
    simp [inside, inByte]
  · rw [testBit_value_of_length_le (by rw [List.length_map]; omega)]
    simp [inside]

@[simp]
theorem length_toBeBytes (count number : Nat) : (toBeBytes count number).length = count := by
  induction count with
  | zero => rfl
  | succ count ih => rw [toBeBytes, List.length_cons, ih]

theorem value_toBeBytes (count number : Nat) :
    value (toBeBytes count number) = number % 2 ^ (8 * count) := by
  induction count with
  | zero => simp [toBeBytes, value, Nat.mod_one]
  | succ count ih =>
    rw [toBeBytes, value, length_toBeBytes, ih, UInt8.toNat_ofNat',
      show 8 * (count + 1) = 8 * count + 8 by omega, Nat.pow_add, Nat.mod_mul]
    ring

theorem eq_of_value_eq {first second : List UInt8} (lengths : first.length = second.length)
    (values : value first = value second) : first = second := by
  induction first generalizing second with
  | nil => exact (List.eq_nil_of_length_eq_zero lengths.symm).symm
  | cons byte rest ih =>
    obtain _ | ⟨byte', rest'⟩ := second
    · simp at lengths
    · have restLengths : rest.length = rest'.length := by simpa using lengths
      simp only [value, restLengths] at values
      have bound : value rest < 2 ^ (8 * rest'.length) := by
        rw [← restLengths]
        exact value_lt rest
      have quotient : ∀ {first second : Nat}, second < 2 ^ (8 * rest'.length) →
          (first * 2 ^ (8 * rest'.length) + second) / 2 ^ (8 * rest'.length) = first := by
        intro first second small
        rw [Nat.mul_comm, Nat.mul_add_div (Nat.two_pow_pos _), Nat.div_eq_of_lt small, Nat.add_zero]
      have bytes : byte.toNat = byte'.toNat :=
        calc
          byte.toNat = (byte.toNat * 2 ^ (8 * rest'.length) + value rest) /
              2 ^ (8 * rest'.length) := (quotient bound).symm
          _ = byte'.toNat := by rw [values, quotient (value_lt rest')]
      have rests : value rest = value rest' := by
        rw [bytes] at values
        omega
      rw [UInt8.toNat_inj.mp bytes, ih restLengths rests]

/-- The number of bits below `i` that are set. -/
def rank (number i : Nat) : Nat := Nat.count (fun j => number.testBit j = true) i

@[simp]
theorem rank_zero (number : Nat) : rank number 0 = 0 := rfl

theorem rank_succ (number i : Nat) :
    rank number (i + 1) = rank number i + if number.testBit i = true then 1 else 0 :=
  Nat.count_succ _ i

theorem rank_le (number i : Nat) : rank number i ≤ i := Nat.count_le _

theorem rank_lt_rank {number i j : Nat} (set : number.testBit i = true) (lt : i < j) :
    rank number i < rank number j := Nat.count_strict_mono set lt

theorem rank_of_lt_two_pow {number i j : Nat} (small : number < 2 ^ i) (le : i ≤ j) :
    rank number j = rank number i := by
  induction j, le using Nat.le_induction with
  | base => rfl
  | succ j le ih =>
    have clear : number.testBit j = false :=
      Nat.testBit_lt_two_pow (small.trans_le (Nat.pow_le_pow_right (by decide) le))
    rw [rank_succ, ih]
    simp [clear]

theorem exists_of_lt_rank {number count i : Nat} (lt : i < rank number count) :
    ∃ j, j < count ∧ number.testBit j = true ∧ rank number j = i := by
  induction count with
  | zero => simp at lt
  | succ count ih =>
    by_cases below : i < rank number count
    · obtain ⟨j, inRange, set, counted⟩ := ih below
      exact ⟨j, by omega, set, counted⟩
    · rw [rank_succ] at lt
      by_cases set : number.testBit count = true
      · rw [if_pos set] at lt
        exact ⟨count, by omega, set, by omega⟩
      · rw [if_neg set] at lt
        omega

end DiagnosticAdapter.Bits
