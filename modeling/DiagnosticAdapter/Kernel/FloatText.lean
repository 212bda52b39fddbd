import DiagnosticAdapter.Bits.FloatFormat
import DiagnosticAdapter.Kernel.IntegerText
import Mathlib.Data.List.TakeWhile

/-!
# Floating-point numbers written as text

`from_str` of `f32` and `f64`.  A text that writes an integer writes the same number for both
parsers, as far as the format can hold it.
-/

namespace DiagnosticAdapter.Kernel

open Bits

/-- What a text writes before it is rounded. -/
inductive FloatLiteral where
  | nan
  | infinity (negative : Bool)
  | decimal (negative : Bool) (digits : Nat) (exponent : Int)
  deriving DecidableEq, Repr

def splitSign : Text → Bool × Text
  | '-' :: rest => (true, rest)
  | '+' :: rest => (false, rest)
  | text => (false, text)

def isDecimalDigit (c : Char) : Bool := (toDigit c 10).isSome

def parseExponent : Text → Option Int
  | [] => some 0
  | 'e' :: rest | 'E' :: rest => integer? 10 rest
  | _ => none

/-- The digits behind the point, and the text behind them. -/
def parseFraction : Text → Text × Text
  | '.' :: rest => (rest.takeWhile isDecimalDigit, rest.dropWhile isDecimalDigit)
  | text => ([], text)

def parseDecimal (negative : Bool) (text : Text) : Option FloatLiteral :=
  let whole := text.takeWhile isDecimalDigit
  let (fraction, rest) := parseFraction (text.dropWhile isDecimalDigit)
  if whole ++ fraction = [] then none
  else
    (parseExponent rest).map fun exponent =>
      .decimal negative ((digitsValue? 10 0 (whole ++ fraction)).getD 0)
        (exponent - fraction.length)

def parseInfNan (negative : Bool) (text : Text) : Option FloatLiteral :=
  let lower := text.map Char.toLower
  if lower = "inf".toList ∨ lower = "infinity".toList then some (.infinity negative)
  else if lower = "nan".toList then some .nan
  else none

def parseFloat (text : Text) : Option FloatLiteral :=
  let (negative, rest) := splitSign text
  (parseDecimal negative rest).or (parseInfNan negative rest)

namespace FloatLiteral

variable (format : FloatFormat)

def bits : FloatLiteral → Nat
  | .nan => format.nanBits
  | .infinity negative => (if negative then format.signBit else 0) + format.infinityBits
  | .decimal negative digits exponent => format.encode negative (digits * 10 ^ exponent)

def value (literal : FloatLiteral) : FloatValue := format.decode (literal.bits format)

variable {format}

theorem value_infinity (negative : Bool) :
    (infinity negative).value format = .infinite negative := by
  rw [value, bits, FloatFormat.decode_add format.infinityBits_lt,
    FloatFormat.decodeMagnitude_infinityBits]

theorem value_integer {digits : Nat} (small : digits < 2 ^ (format.fractionBits + 1))
    (inRange : format.fractionBits + 1 ≤ format.bias) (negative : Bool) :
    (decimal negative digits 0).value format = .finite (FloatFormat.signed negative digits) := by
  have bias := format.bias_pos
  have below : (digits : ℚ) < 2 ^ ((format.fractionBits + 1 : Nat) : ℤ) := by
    rw [zpow_natCast]
    exact_mod_cast small
  rw [value, bits, zpow_zero, mul_one,
    FloatFormat.decode_encode_of_lt (by omega) (by omega) (Nat.cast_nonneg _) below,
    FloatFormat.rounded_natCast small]

theorem value_large {digits : Nat} {exponent j : Int} (normal : 1 - (format.bias : ℤ) ≤ j)
    (above : (2 : ℚ) ^ j ≤ digits * 10 ^ exponent) (negative : Bool) :
    (decimal negative digits exponent).value format = .infinite negative ∨
      ∃ number : ℚ, (2 : ℚ) ^ j ≤ number ∧ (decimal negative digits exponent).value format =
          .finite (FloatFormat.signed negative number) := by
  have positive : (0 : ℚ) ≤ digits * 10 ^ exponent :=
    mul_nonneg (Nat.cast_nonneg _) (zpow_nonneg (by norm_num) _)
  rw [value, bits, FloatFormat.decode_encode positive]
  split_ifs
  · exact .inl rfl
  · exact .inr ⟨_, FloatFormat.zpow_le_rounded normal above, rfl⟩

theorem bits_lt {literal : FloatLiteral} (quiet : format.nanBits < 2 * format.signBit) :
    literal.bits format < 2 * format.signBit := by
  cases literal with
  | nan => exact quiet
  | infinity negative =>
    have infinity := format.infinityBits_lt
    rw [bits]
    split_ifs <;> omega
  | decimal negative digits exponent => exact FloatFormat.encode_lt _ _

theorem bits_single_lt (literal : FloatLiteral) : literal.bits .single < 2 ^ (8 * 4) := by
  have bound := @bits_lt .single literal (by decide +kernel)
  have signBit : 2 * FloatFormat.single.signBit = 2 ^ (8 * 4) := by decide +kernel
  rwa [signBit] at bound

theorem bits_double_lt (literal : FloatLiteral) : literal.bits .double < 2 ^ (8 * 8) := by
  have bound := @bits_lt .double literal (by decide +kernel)
  have signBit : 2 * FloatFormat.double.signBit = 2 ^ (8 * 8) := by decide +kernel
  rwa [signBit] at bound

theorem truncate_of_overflow {literal : FloatLiteral} {narrow : FloatFormat} {j : Nat}
    (normal : 1 ≤ narrow.bias) (inRange : j ≤ format.bias) (positive : 0 < j)
    (nan : narrow.decode narrow.nanBits = .nan)
    (overflow : (literal.value format).isFinite = false) {number : Int}
    (whole : (literal.value narrow).truncate = some number) :
    number ≤ -2 ^ j ∨ 2 ^ j ≤ number := by
  cases literal with
  | nan =>
    rw [value, bits, nan] at whole
    cases whole
  | infinity negative =>
    rw [value_infinity] at whole
    cases whole
  | decimal negative digits exponent =>
    have nonneg : (0 : ℚ) ≤ digits * 10 ^ exponent :=
      mul_nonneg (Nat.cast_nonneg _) (zpow_nonneg (by norm_num) _)
    have bias := format.bias_pos
    have large : (2 : ℚ) ^ (j : ℤ) ≤ digits * 10 ^ exponent := by
      by_contra small
      rw [value, bits, FloatFormat.decode_encode_of_lt (by omega) (by omega) nonneg
        (not_le.1 small)] at overflow
      cases overflow
    obtain infinite | ⟨rational, above, finite⟩ := value_large (by omega) large negative
    · rw [infinite] at whole
      cases whole
    · rw [finite] at whole
      cases whole
      rw [zpow_natCast] at above
      have rationalPos : 0 < rational := (by positivity : (0 : ℚ) < 2 ^ j).trans_le above
      cases negative with
      | false =>
        right
        rw [FloatFormat.signed, if_neg Bool.false_ne_true, FloatValue.towardZero,
          if_pos rationalPos.le]
        exact Int.le_floor.2 (by exact_mod_cast above)
      | true =>
        left
        rw [FloatFormat.signed, if_pos rfl, FloatValue.towardZero, if_neg (by linarith),
          Int.ceil_neg, neg_le_neg_iff]
        exact Int.le_floor.2 (by exact_mod_cast above)

end FloatLiteral

theorem isDecimalDigit_of_digitsValue? {digits : Text} {start number : Nat}
    (read : digitsValue? 10 start digits = some number) :
    ∀ c ∈ digits, isDecimalDigit c = true := by
  induction digits generalizing start with
  | nil =>
    intro c mem
    cases mem
  | cons first rest ih =>
    rw [digitsValue?, Option.bind_eq_bind, Option.bind_eq_some_iff] at read
    obtain ⟨digit, isDigit, read⟩ := read
    intro c mem
    obtain rfl | mem := List.mem_cons.1 mem
    · rw [isDecimalDigit, isDigit]
      rfl
    · exact ih read c mem

theorem parseDecimal_of_digitsValue? {digits : Text} {number : Nat} (nonempty : digits ≠ [])
    (read : digitsValue? 10 0 digits = some number) (negative : Bool) :
    parseDecimal negative digits = some (.decimal negative number 0) := by
  have all := isDecimalDigit_of_digitsValue? read
  have taken : digits.takeWhile isDecimalDigit = digits := List.takeWhile_eq_self_iff.2 all
  have dropped : digits.dropWhile isDecimalDigit = [] := List.dropWhile_eq_nil_iff.2 all
  simp [parseDecimal, taken, dropped, parseFraction, parseExponent, nonempty, read]

theorem parseFloat_of_integer? {text : Text} {number : Int}
    (read : integer? 10 text = some number) :
    parseFloat text = some (.decimal (decide (text.head? = some '-')) number.natAbs 0) := by
  unfold integer? at read
  split at read
  · cases read
  · cases read
  · cases read
  · rename_i digits nonempty
    obtain ⟨digitsNumber, value, same⟩ := Option.map_eq_some_iff.1 read
    subst same
    rw [parseFloat, splitSign]
    dsimp only
    rw [parseDecimal_of_digitsValue? nonempty value]
    rfl
  · rename_i digits nonempty
    obtain ⟨digitsNumber, value, same⟩ := Option.map_eq_some_iff.1 read
    subst same
    rw [parseFloat, splitSign]
    dsimp only
    rw [parseDecimal_of_digitsValue? nonempty value]
    simp
  · rename_i notEmpty _ _ noPlus noMinus
    obtain ⟨digitsNumber, value, same⟩ := Option.map_eq_some_iff.1 read
    subst same
    have split : splitSign text = (false, text) := by
      unfold splitSign
      split <;> simp_all
    have head : text.head? ≠ some '-' := by
      intro first
      obtain ⟨rest, same⟩ := List.head?_eq_some_iff.1 first
      exact noMinus rest same
    rw [parseFloat, split]
    dsimp only
    rw [parseDecimal_of_digitsValue? notEmpty value]
    simp [head]

theorem parseFloat_of_marker {c : Char} (notDigit : isDecimalDigit c = false) (notPoint : c ≠ '.')
    (notExponent : c ≠ 'e' ∧ c ≠ 'E') (rest : Text) : parseFloat ('0' :: c :: rest) = none := by
  have fraction : parseFraction (c :: rest) = ([], c :: rest) := by
    unfold parseFraction
    split
    · rename_i same
      cases same
      exact absurd rfl notPoint
    · rfl
  have exponent : parseExponent (c :: rest) = none := by
    unfold parseExponent
    split <;> simp_all
  have zero : isDecimalDigit '0' = true := by decide
  have decimal : parseDecimal false ('0' :: c :: rest) = none := by
    simp [parseDecimal, zero, notDigit, fraction, exponent]
  have word : parseInfNan false ('0' :: c :: rest) = none := by
    have lower : Char.toLower '0' = '0' := by decide
    simp [parseInfNan, lower]
  rw [parseFloat, splitSign]
  · dsimp only
    rw [decimal, word]
    rfl
  · simp
  · simp

end DiagnosticAdapter.Kernel
