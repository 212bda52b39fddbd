import Mathlib.Data.Int.Log
import Mathlib.Data.Rat.Floor
import Mathlib.Tactic.Positivity

/-!
# Binary floating-point formats

A format of IEEE 754 as the rational numbers that its bit patterns stand for.  Other numbers
are rounded to the nearest of them, and of two to the one with the even significand.
-/

namespace DiagnosticAdapter.Bits

inductive FloatValue where
  | nan
  | infinite (negative : Bool)
  | finite (number : ℚ)
  deriving DecidableEq, Repr

namespace FloatValue

def isFinite : FloatValue → Bool
  | .finite _ => true
  | _ => false

/-- The whole number without the fraction. -/
def towardZero (number : ℚ) : ℤ := if 0 ≤ number then ⌊number⌋ else ⌈number⌉

def truncate : FloatValue → Option ℤ
  | .finite number => some (towardZero number)
  | _ => none

/-- A cast to an unsigned type takes what does not fit to the ends of its range. -/
def saturate (bits : Nat) : FloatValue → Nat
  | .nan | .infinite true => 0
  | .infinite false => 2 ^ bits - 1
  | .finite number => min ⌊number⌋₊ (2 ^ bits - 1)

def within (low high : ℤ) : FloatValue → Option ℤ
  | .finite number => if low ≤ number ∧ number ≤ high then some (towardZero number) else none
  | _ => none

/-- No number is compared with one that is not a number. -/
def le : FloatValue → FloatValue → Bool
  | .nan, _ | _, .nan => false
  | .infinite true, _ | _, .infinite false => true
  | .finite first, .finite second => first ≤ second
  | _, _ => false

def lt (first second : FloatValue) : Bool := first.le second && !second.le first

theorem within_bounds {value : FloatValue} {low high number : ℤ} (negative : low ≤ 0)
    (positive : 0 ≤ high) (read : value.within low high = some number) :
    low ≤ number ∧ number ≤ high := by
  cases value with
  | nan => cases read
  | infinite negative => cases read
  | finite rational =>
    rw [within, Option.ite_none_right_eq_some] at read
    obtain ⟨⟨below, above⟩, same⟩ := read
    cases same
    rw [towardZero]
    split_ifs with sign
    · have floor : 0 ≤ ⌊rational⌋ := Int.floor_nonneg.2 sign
      exact ⟨negative.trans floor, Int.floor_le_iff.2 (above.trans_lt (lt_add_one _))⟩
    · have ceil : ⌈rational⌉ ≤ 0 := Int.ceil_nonpos.2 (not_le.1 sign).le
      exact ⟨by exact_mod_cast below.trans (Int.le_ceil rational), ceil.trans positive⟩

end FloatValue

/-- The bits of a number are its sign, its exponent and its fraction. -/
structure FloatFormat where
  fractionBits : Nat
  exponentBits : Nat
  wide : 2 ≤ exponentBits

/-- The nearest whole number of a number that is not negative. -/
def nearestEven (number : ℚ) : Nat :=
  let below := ⌊number⌋₊
  if number - below < 1 / 2 ∨ number - below = 1 / 2 ∧ below % 2 = 0 then below else below + 1

theorem nearestEven_natCast (n : Nat) : nearestEven n = n := by
  simp [nearestEven]

theorem le_nearestEven {number : ℚ} {n : Nat} (above : (n : ℚ) ≤ number) :
    n ≤ nearestEven number := by
  have floor : n ≤ ⌊number⌋₊ := Nat.le_floor above
  unfold nearestEven
  dsimp only
  split <;> omega

theorem nearestEven_le {number : ℚ} {n : Nat} (positive : 0 ≤ number) (below : number ≤ n) :
    nearestEven number ≤ n := by
  obtain same | less := below.eq_or_lt
  · rw [same, nearestEven_natCast]
  · have floor : ⌊number⌋₊ < n := (Nat.floor_lt positive).2 less
    unfold nearestEven
    dsimp only
    split <;> omega

namespace FloatFormat

def single : FloatFormat := ⟨23, 8, by decide⟩

def double : FloatFormat := ⟨52, 11, by decide⟩

variable (format : FloatFormat)

def bias : Nat := 2 ^ (format.exponentBits - 1) - 1

def infinityBits : Nat := (2 ^ format.exponentBits - 1) * 2 ^ format.fractionBits

def signBit : Nat := 2 ^ (format.fractionBits + format.exponentBits)

def nanBits : Nat := format.infinityBits + 2 ^ (format.fractionBits - 1)

/-- The numbers below the normal ones have the exponent of the least of these. -/
def exponent (number : ℚ) : ℤ :=
  if number < 2 ^ (1 - format.bias : ℤ) then 1 - format.bias else Int.log 2 number

def unit (number : ℚ) : ℚ := 2 ^ (format.exponent number - format.fractionBits)

def significand (number : ℚ) : Nat := nearestEven (number / format.unit number)

/-- The number as it is rounded where the exponent is not bounded above. -/
def rounded (number : ℚ) : ℚ := format.significand number * format.unit number

/-- A significand that is rounded up to the next power of two carries into the exponent. -/
def roundedBits (number : ℚ) : Nat :=
  (format.exponent number + format.bias - 1).toNat * 2 ^ format.fractionBits +
    format.significand number

/-- The bits of a number that is not negative, with a sign. -/
def encode (negative : Bool) (number : ℚ) : Nat :=
  (if negative then format.signBit else 0) + min (format.roundedBits number) format.infinityBits

def signed (negative : Bool) (number : ℚ) : ℚ := if negative then -number else number

/-- A number whose exponent bits are zero has no leading one. -/
def decodeMagnitude (negative : Bool) (magnitude : Nat) : FloatValue :=
  let biased := magnitude / 2 ^ format.fractionBits
  let fraction := magnitude % 2 ^ format.fractionBits
  if biased = 2 ^ format.exponentBits - 1 then
    if fraction = 0 then .infinite negative else .nan
  else
    let significand := if biased = 0 then fraction else 2 ^ format.fractionBits + fraction
    .finite (signed negative
      (significand * 2 ^ ((max biased 1 : Nat) - format.bias - format.fractionBits : ℤ)))

def decode (bits : Nat) : FloatValue :=
  format.decodeMagnitude (bits.testBit (format.fractionBits + format.exponentBits))
    (bits % format.signBit)

/-- A cast between formats keeps the sign. -/
def recode (target : FloatFormat) (bits : Nat) : Nat :=
  let negative := bits.testBit (format.fractionBits + format.exponentBits)
  match format.decode bits with
  | .nan => target.nanBits
  | .infinite _ => (if negative then target.signBit else 0) + target.infinityBits
  | .finite number => target.encode negative |number|

variable {format} {number : ℚ}

theorem two_pow_exponentBits (format : FloatFormat) :
    2 ^ format.exponentBits = 2 * format.bias + 2 := by
  have wide := format.wide
  have half : 2 ^ format.exponentBits = 2 * 2 ^ (format.exponentBits - 1) := by
    rw [← pow_succ']
    congr 1
    omega
  have positive := Nat.two_pow_pos (format.exponentBits - 1)
  rw [bias]
  omega

theorem unit_pos (number : ℚ) : 0 < format.unit number := zpow_pos (by norm_num) _

theorem le_exponent (number : ℚ) : 1 - (format.bias : ℤ) ≤ format.exponent number := by
  rw [exponent]
  split_ifs with small
  · exact le_rfl
  · have normal := not_lt.1 small
    exact (Int.zpow_le_iff_le_log (b := 2) (by norm_num)
      ((zpow_pos (by norm_num) _).trans_le normal)).1 (by exact_mod_cast normal)

theorem lt_zpow_exponent (number : ℚ) : number < 2 ^ (format.exponent number + 1) := by
  rw [exponent]
  split_ifs with small
  · exact small.trans (zpow_lt_zpow_right₀ (by norm_num) (by omega))
  · exact_mod_cast Int.lt_zpow_succ_log_self (b := 2) (by norm_num) number

theorem le_exponent_of_zpow_le {j : ℤ} (above : 2 ^ j ≤ number) : j ≤ format.exponent number := by
  have below := above.trans_lt (format.lt_zpow_exponent number)
  have lt := (zpow_lt_zpow_iff_right₀ (by norm_num : (1 : ℚ) < 2)).1 below
  omega

theorem exponent_lt_of_lt_zpow {j : ℤ} (normal : 1 - (format.bias : ℤ) < j)
    (below : number < 2 ^ j) : format.exponent number < j := by
  rw [exponent]
  split_ifs with small
  · exact normal
  · have positive := (zpow_pos (by norm_num : (0 : ℚ) < 2) _).trans_le (not_lt.1 small)
    exact (Int.lt_zpow_iff_log_lt (b := 2) (by norm_num) positive).1 (by exact_mod_cast below)

theorem zpow_exponent_le (normal : 2 ^ (1 - format.bias : ℤ) ≤ number) :
    2 ^ format.exponent number ≤ number := by
  rw [exponent, if_neg (not_lt.2 normal)]
  exact_mod_cast Int.zpow_log_le_self (b := 2) (by norm_num)
    ((zpow_pos (by norm_num) _).trans_le normal)

theorem zpow_exponent (number : ℚ) :
    (2 : ℚ) ^ format.exponent number = (2 ^ format.fractionBits : Nat) * format.unit number := by
  rw [unit, Nat.cast_pow, Nat.cast_ofNat, ← zpow_natCast, ← zpow_add₀ (by norm_num)]
  congr 1
  omega

theorem significand_le (positive : 0 ≤ number) :
    format.significand number ≤ 2 ^ (format.fractionBits + 1) := by
  have unitPos := format.unit_pos number
  apply nearestEven_le (div_nonneg positive unitPos.le)
  rw [div_le_iff₀ unitPos]
  calc number ≤ 2 ^ (format.exponent number + 1) := (format.lt_zpow_exponent number).le
    _ = (2 ^ (format.fractionBits + 1) : Nat) * format.unit number := by
      rw [zpow_add_one₀ (by norm_num), zpow_exponent, pow_succ]
      push_cast
      ring

theorem le_significand (normal : 2 ^ (1 - format.bias : ℤ) ≤ number) :
    2 ^ format.fractionBits ≤ format.significand number := by
  apply le_nearestEven
  rw [le_div_iff₀ (format.unit_pos number), ← zpow_exponent]
  exact zpow_exponent_le normal

theorem zpow_le_rounded {j : ℤ} (normal : 1 - (format.bias : ℤ) ≤ j) (above : 2 ^ j ≤ number) :
    2 ^ j ≤ format.rounded number := by
  have least : (2 : ℚ) ^ (1 - format.bias : ℤ) ≤ number :=
    (zpow_le_zpow_right₀ (by norm_num) normal).trans above
  calc (2 : ℚ) ^ j ≤ 2 ^ format.exponent number :=
        zpow_le_zpow_right₀ (by norm_num) (le_exponent_of_zpow_le above)
    _ = (2 ^ format.fractionBits : Nat) * format.unit number := zpow_exponent number
    _ ≤ format.rounded number :=
        mul_le_mul_of_nonneg_right (by exact_mod_cast le_significand least)
          (format.unit_pos number).le

theorem bias_pos (format : FloatFormat) : 0 < format.bias := by
  have wide := format.wide
  have large := two_pow_exponentBits format
  have four : 2 ^ 2 ≤ 2 ^ format.exponentBits := Nat.pow_le_pow_right (by decide) wide
  omega

theorem rounded_natCast {n : Nat} (small : n < 2 ^ (format.fractionBits + 1)) :
    format.rounded n = n := by
  have bias := format.bias_pos
  have lt : format.exponent n < (format.fractionBits + 1 : Nat) := by
    apply exponent_lt_of_lt_zpow (by omega)
    rw [zpow_natCast]
    exact_mod_cast small
  obtain ⟨shift, shifted⟩ : ∃ shift : Nat, (shift : ℤ) = format.fractionBits - format.exponent n :=
    ⟨(format.fractionBits - format.exponent n).toNat, by omega⟩
  have unitEq : format.unit n = (2 ^ shift : ℚ)⁻¹ := by
    rw [unit, ← zpow_natCast, ← zpow_neg, shifted]
    congr 1
    omega
  have power : (2 ^ shift : ℚ) ≠ 0 := by positivity
  rw [rounded, significand, unitEq, div_inv_eq_mul]
  have cast : (n : ℚ) * 2 ^ shift = (n * 2 ^ shift : Nat) := by push_cast; rfl
  rw [cast, nearestEven_natCast, Nat.cast_mul, Nat.cast_pow, Nat.cast_ofNat,
    mul_inv_cancel_right₀ power]

theorem infinityBits_lt (format : FloatFormat) : format.infinityBits < format.signBit := by
  have large := two_pow_exponentBits format
  rw [infinityBits, signBit, pow_add, mul_comm (2 ^ format.fractionBits)]
  exact Nat.mul_lt_mul_of_pos_right (by omega) (Nat.two_pow_pos _)

theorem decode_add {magnitude : Nat} (small : magnitude < format.signBit) (negative : Bool) :
    format.decode ((if negative then format.signBit else 0) + magnitude) =
      format.decodeMagnitude negative magnitude := by
  cases negative with
  | false =>
    rw [decode, if_neg Bool.false_ne_true, Nat.zero_add, Nat.mod_eq_of_lt small,
      Nat.testBit_lt_two_pow small]
  | true =>
    rw [decode, if_pos rfl, Nat.add_mod_left, Nat.mod_eq_of_lt small, signBit,
      Nat.testBit_two_pow_add_eq, Nat.testBit_lt_two_pow small]
    rfl

theorem decodeMagnitude_infinityBits (negative : Bool) :
    format.decodeMagnitude negative format.infinityBits = .infinite negative := by
  simp only [decodeMagnitude, infinityBits, Nat.mul_div_cancel _ (Nat.two_pow_pos _),
    Nat.mul_mod_left, if_true]

theorem decodeMagnitude_roundedBits (positive : 0 ≤ number)
    (finite : format.roundedBits number < format.infinityBits) (negative : Bool) :
    format.decodeMagnitude negative (format.roundedBits number) =
      .finite (signed negative (format.rounded number)) := by
  have power := Nat.two_pow_pos format.fractionBits
  have least := @le_exponent format number
  have upper := @significand_le format number positive
  have notInfinite : format.roundedBits number / 2 ^ format.fractionBits <
      2 ^ format.exponentBits - 1 := (Nat.div_lt_iff_lt_mul power).2 finite
  obtain ⟨e, exponentEq⟩ : ∃ e : Nat, (e : ℤ) = format.exponent number + format.bias - 1 :=
    ⟨(format.exponent number + format.bias - 1).toNat, by omega⟩
  -- below the normal numbers the exponent is the least one
  have subnormal : format.significand number < 2 ^ format.fractionBits → e = 0 := by
    intro small
    have below : number < 2 ^ (1 - format.bias : ℤ) := by
      by_contra normal
      exact small.not_ge (le_significand (not_lt.1 normal))
    have same : format.exponent number = 1 - format.bias := by rw [exponent, if_pos below]
    omega
  have bits : format.roundedBits number =
      e * 2 ^ format.fractionBits + format.significand number := by
    rw [roundedBits, ← exponentEq, Int.toNat_natCast]
  rw [bits] at notInfinite
  have exponentEq' : format.exponent number = e + 1 - format.bias := by omega
  rw [bits, rounded, unit, exponentEq', decodeMagnitude, if_neg notInfinite.ne]
  generalize format.significand number = k at upper subnormal ⊢
  rw [pow_succ] at upper
  obtain small | normal := Nat.lt_or_ge k (2 ^ format.fractionBits)
  · rw [subnormal small, Nat.zero_mul, Nat.zero_add, Nat.div_eq_of_lt small, if_pos rfl,
      Nat.mod_eq_of_lt small]
    simp
  · obtain less | carried := Nat.lt_or_ge k (2 * 2 ^ format.fractionBits)
    · obtain ⟨fraction, rfl⟩ := Nat.exists_eq_add_of_le normal
      have fits : fraction < 2 ^ format.fractionBits := by omega
      have split : e * 2 ^ format.fractionBits + (2 ^ format.fractionBits + fraction) =
          2 ^ format.fractionBits * (e + 1) + fraction := by ring
      rw [split, Nat.mul_add_div power, Nat.mul_add_mod, Nat.div_eq_of_lt fits,
        Nat.mod_eq_of_lt fits, if_neg (by omega), Nat.max_eq_left (by omega)]
      simp
    · have doubled : k = 2 * 2 ^ format.fractionBits := by omega
      have split : e * 2 ^ format.fractionBits + 2 * 2 ^ format.fractionBits =
          2 ^ format.fractionBits * (e + 2) := by ring
      rw [doubled, split, Nat.mul_div_cancel_left _ power, Nat.mul_mod_right,
        if_neg (by omega), Nat.max_eq_left (by omega)]
      have double : (2 : ℚ) ^ ((e + 2 : Nat) - format.bias - format.fractionBits : ℤ) =
          2 * 2 ^ ((e + 1 - format.bias : ℤ) - format.fractionBits) := by
        rw [← zpow_one_add₀ (by norm_num)]
        congr 1
        push_cast
        ring
      rw [double, Nat.add_zero]
      push_cast
      congr 2
      ring

theorem decode_encode (positive : 0 ≤ number) (negative : Bool) :
    format.decode (format.encode negative number) =
      if format.infinityBits ≤ format.roundedBits number then .infinite negative
      else .finite (signed negative (format.rounded number)) := by
  rw [encode, decode_add ((Nat.min_le_right _ _).trans_lt format.infinityBits_lt)]
  split_ifs with overflow
  · rw [Nat.min_eq_right overflow, decodeMagnitude_infinityBits]
  · have finite := Nat.lt_of_not_le overflow
    rw [Nat.min_eq_left finite.le, decodeMagnitude_roundedBits positive finite]

theorem encode_lt (negative : Bool) (number : ℚ) :
    format.encode negative number < 2 * format.signBit := by
  have magnitude := (Nat.min_le_right (format.roundedBits number) _).trans_lt
    format.infinityBits_lt
  rw [encode]
  split_ifs <;> omega

section

variable {j : ℤ} (normal : 1 - (format.bias : ℤ) < j) (inRange : j ≤ format.bias)
  (positive : 0 ≤ number) (below : number < 2 ^ j)

include normal inRange positive below

theorem roundedBits_lt : format.roundedBits number < format.infinityBits := by
  have lt := exponent_lt_of_lt_zpow normal below
  have least := @le_exponent format number
  have power := Nat.two_pow_pos format.fractionBits
  have large := two_pow_exponentBits format
  have upper := @significand_le format number positive
  rw [pow_succ] at upper
  calc format.roundedBits number
      ≤ (format.exponent number + format.bias - 1).toNat * 2 ^ format.fractionBits +
          2 ^ format.fractionBits * 2 := Nat.add_le_add_left upper _
    _ = ((format.exponent number + format.bias - 1).toNat + 2) * 2 ^ format.fractionBits := by
      ring
    _ < format.infinityBits := Nat.mul_lt_mul_of_pos_right (by omega) power

theorem decode_encode_of_lt (negative : Bool) : format.decode (format.encode negative number) =
      .finite (signed negative (format.rounded number)) := by
  rw [decode_encode positive, if_neg (roundedBits_lt normal inRange positive below).not_ge]

end

end FloatFormat

end DiagnosticAdapter.Bits
