import DiagnosticAdapter.Detection.VariantChoice
import DiagnosticAdapter.Kernel.UnsignedText

/-!
# Limits as intervals

`within_limits` beside the interval that the limits write.  A limit whose number its type does
not hold is met by no number, and the limits of a byte field know no interval types.
-/

namespace DiagnosticAdapter.Kernel

open Bits Codec
open Detection (isWhitespace splitWhitespace)

def limitWordToBytes (word : Text) : Option (List UInt8) :=
  if word.all isDecimalDigit then
    (parseUnsigned 8 10 word).toOption.map fun number => toBeBytes 1 number
  else if '.' ∈ word then
    (parseFloat word).map fun literal => toBeBytes 1 ((literal.value .double).saturate 8)
  else (decodeHex ((tryStripHexPrefix word).getD word)).toOption

/-- `try_into` of a limit for bytes. -/
def limitToByteField (text : Text) : Option (List UInt8) :=
  ((splitWhitespace text).mapM limitWordToBytes).map List.flatten

def limitConversions (conv : Conversions) : Conversions :=
  { floatConversions conv with limitToBytes := limitToByteField }

inductive OrderedValue where
  | int32 (number : Int) (least : -2 ^ 31 ≤ number) (greatest : number < 2 ^ 31)
  | uint32 (number : Nat) (greatest : number < 2 ^ 32)
  | byteField (bytes : List UInt8)

/-- The integer of a text; no text is zero. -/
def decimalNumber? (text : Text) : Option Int :=
  if text = [] then some 0 else integer? 10 text

def hexWord? (word : Text) : Option (List UInt8) :=
  let digits := (tryStripHexPrefix word).getD word
  if digits ≠ [] ∧ digits.length % 2 = 0 ∧ isHex digits then some (hexPairs digits) else none

def hexNumber? (text : Text) : Option Nat :=
  ((splitWhitespace text).mapM hexWord?).map fun words => value words.flatten

namespace OrderedValue

variable (self : OrderedValue)

def toValue : OrderedValue → DiagDataValue
  | .int32 number _ _ => .int32 number
  | .uint32 number _ => .uint32 number
  | .byteField bytes => .byteField bytes

def number : OrderedValue → Int
  | .int32 number _ _ => number
  | .uint32 number _ => number
  | .byteField bytes => value bytes

def range? : OrderedValue → Option (Int × Int)
  | .int32 _ _ _ => some (-2 ^ 31, 2 ^ 31 - 1)
  | .uint32 _ _ => some (0, 2 ^ 32 - 1)
  | .byteField _ => none

/-- The limits of a byte field may be written in bytes. -/
def Denotes : OrderedValue → Text → Int → Prop
  | .byteField _, text, bound =>
    decimalNumber? text = some bound ∨ (hexNumber? text).map Int.ofNat = some bound
  | _, text, bound => decimalNumber? text = some bound

end OrderedValue

structure DenotedLimit (ordered : OrderedValue) where
  limit : Limit
  bound : Int
  denotes : ordered.Denotes limit.value bound

namespace DenotedLimit

variable {ordered : OrderedValue}

def IsAbove (limit : DenotedLimit ordered) (number : Int) : Prop :=
  match limit.limit.intervalType with
  | .open => number < limit.bound
  | .closed => number ≤ limit.bound
  | .infinite => True

def IsBelow (limit : DenotedLimit ordered) (number : Int) : Prop :=
  match limit.limit.intervalType with
  | .open => limit.bound < number
  | .closed => limit.bound ≤ number
  | .infinite => True

end DenotedLimit

section Interval

variable (ordered : OrderedValue) (upper lower : Option (DenotedLimit ordered))

structure InInterval : Prop where
  above : ∀ limit ∈ upper, limit.IsAbove ordered.number
  below : ∀ limit ∈ lower, limit.IsBelow ordered.number

/-- A value is within its limits when it is in their interval. -/
def KeepsInterval (conv : Conversions) : Prop :=
  ordered.toValue.withinLimits (limitConversions conv) (upper.map (·.limit))
      (lower.map (·.limit)) = true ↔
    InInterval ordered upper lower

/-- A word of decimal digits is a byte, and one that does not fit makes the limit none. -/
def byteWord? (word : Text) : Option (List UInt8) :=
  if word.all isDecimalDigit then
    ((digits? 10 word).filter (· < 2 ^ 8)).map fun number => toBeBytes 1 number
  else hexWord? word

def byteNumber? (text : Text) : Option Nat :=
  ((splitWhitespace text).mapM byteWord?).map fun words => value words.flatten

/-- The limits lie in the range of the type, and the number passes none that is infinite. -/
structure NumericLimits (low high : Int) : Prop where
  upperInRange : ∀ limit ∈ upper, limit.bound ≤ high
  lowerInRange : ∀ limit ∈ lower, low ≤ limit.bound
  upperKept : ∀ limit ∈ upper, limit.limit.intervalType = .infinite → ordered.number ≤ limit.bound
  lowerKept : ∀ limit ∈ lower, limit.limit.intervalType = .infinite → limit.bound ≤ ordered.number

def PassesRead : Prop :=
  (∃ limit ∈ upper, ∃ read ∈ byteNumber? limit.limit.value, (read : Int) < ordered.number) ∨
    ∃ limit ∈ lower, ∃ read ∈ byteNumber? limit.limit.value, ordered.number < read

/-- The number that is read is not the one that is meant. -/
def DenotedLimit.Misread {ordered : OrderedValue} (limit : DenotedLimit ordered) : Prop :=
  (byteNumber? limit.limit.value).map Int.ofNat ≠ some limit.bound

/-- Bytes in the interval do not pass what is read of an infinite or misread limit; those on an
open limit, or with a misread one, are in it or pass what is read. -/
structure BytesLimits : Prop where
  upperKept : InInterval ordered upper lower → ∀ limit ∈ upper,
    limit.limit.intervalType = .infinite ∨ limit.Misread →
      ∀ read ∈ byteNumber? limit.limit.value, ordered.number ≤ read
  lowerKept : InInterval ordered upper lower → ∀ limit ∈ lower,
    limit.limit.intervalType = .infinite ∨ limit.Misread →
      ∀ read ∈ byteNumber? limit.limit.value, (read : Int) ≤ ordered.number
  outside : ∀ limit, limit ∈ upper ∨ limit ∈ lower →
    limit.limit.intervalType = .open ∧ ordered.number = limit.bound ∨ limit.Misread →
      InInterval ordered upper lower ∨ PassesRead ordered upper lower

def IntervalCondition : Prop :=
  match ordered.range? with
  | some (low, high) =>
    InInterval ordered upper lower → NumericLimits ordered upper lower low high
  | none => BytesLimits ordered upper lower

end Interval

section Numbers

variable {text : Text} {number low high : Int}

theorem nonneg_of_integer? (plain : text.head? ≠ some '-')
    (read : integer? 10 text = some number) : 0 ≤ number := by
  unfold integer? at read
  split at read
  · cases read
  · cases read
  · cases read
  · obtain ⟨natural, _, rfl⟩ := Option.map_eq_some_iff.mp read
    exact Int.natCast_nonneg natural
  · simp at plain
  · obtain ⟨natural, _, rfl⟩ := Option.map_eq_some_iff.mp read
    exact Int.natCast_nonneg natural

theorem signed_natAbs (read : integer? 10 text = some number) :
    FloatFormat.signed (decide (text.head? = some '-')) number.natAbs = number := by
  rw [FloatFormat.signed]
  split_ifs with minus
  · have nonpos := nonpos_of_minus (of_decide_eq_true minus) read
    rw [Nat.cast_natAbs, abs_of_nonpos nonpos]
    push_cast
    ring
  · have nonneg := nonneg_of_integer? (by simpa using minus) read
    rw [Nat.cast_natAbs, abs_of_nonneg nonneg]

theorem towardZero_intCast (number : Int) : FloatValue.towardZero number = number := by
  rw [FloatValue.towardZero]
  split_ifs
  · exact Int.floor_intCast number
  · exact Int.ceil_intCast number

theorem within_intCast (number low high : Int) : (FloatValue.finite number).within low high =
      if low ≤ number ∧ number ≤ high then some number else none := by
  simp only [FloatValue.within, Int.cast_le, towardZero_intCast]

theorem within_large {digits : Nat} (large : 2 ^ 53 ≤ digits) (above : -2 ^ 53 < low)
    (below : high < 2 ^ 53) (negative : Bool) :
    ((FloatLiteral.decimal negative digits 0).value .double).within low high = none := by
  have least : (2 : ℚ) ^ (53 : ℤ) ≤ digits * 10 ^ (0 : ℤ) := by
    rw [zpow_zero, mul_one]
    exact_mod_cast large
  obtain infinite | ⟨rational, far, finite⟩ :=
    @FloatLiteral.value_large .double digits 0 53 (by decide) least negative
  · rw [infinite]
    rfl
  · have low' : (-2 : ℚ) ^ 53 < low := by exact_mod_cast above
    have high' : (high : ℚ) < 2 ^ 53 := by exact_mod_cast below
    have far' : (2 : ℚ) ^ 53 ≤ rational := by exact_mod_cast far
    rw [finite, FloatValue.within, if_neg]
    rintro ⟨atLeast, atMost⟩
    cases negative with
    | false =>
      simp only [FloatFormat.signed, Bool.false_eq_true, if_false] at atMost
      linarith
    | true =>
      simp only [FloatFormat.signed, if_true] at atLeast
      linarith

theorem limitToInt_of_decimalNumber? (above : -2 ^ 53 < low) (below : high < 2 ^ 53)
    (read : decimalNumber? text = some number) :
    limitToInt low high text = if low ≤ number ∧ number ≤ high then some number else none := by
  rw [decimalNumber?] at read
  rw [limitToInt, limitValue]
  by_cases empty : text = []
  · rw [if_pos empty] at read ⊢
    cases read
    exact_mod_cast within_intCast 0 low high
  · rw [if_neg empty] at read ⊢
    rw [parseFloat_of_integer? read, Option.map_some, Option.bind_some]
    obtain exact | large := Nat.lt_or_ge number.natAbs (2 ^ 53)
    · rw [FloatLiteral.value_integer exact (by decide), signed_natAbs read, within_intCast]
    · rw [within_large large above below, if_neg]
      omega

theorem map_toNat_limitToInt (nonneg : 0 ≤ high) (text : Text) :
    ((limitToInt 0 high text).map Int.toNat).map Int.ofNat = limitToInt 0 high text := by
  cases read : limitToInt 0 high text with
  | none => rfl
  | some number =>
    obtain ⟨given, _, inRange⟩ := Option.bind_eq_some_iff.mp read
    have bounds := FloatValue.within_bounds le_rfl nonneg inRange
    simp [bounds.1]

end Numbers

section Numeric

variable {low high : Int}

/-- A number of the type that is kept, an infinite one like a closed one. -/
def KeepsUpper (low high number : Int) (kind : IntervalType) (bound : Int) : Prop :=
  (low ≤ bound ∧ bound ≤ high) ∧ if kind = .open then number < bound else number ≤ bound

def KeepsLower (low high number : Int) (kind : IntervalType) (bound : Int) : Prop :=
  (low ≤ bound ∧ bound ≤ high) ∧ if kind = .open then bound < number else bound ≤ number

theorem any_limitTo_iff {Number : Type} {limitTo : Text → Option Number} {toInt : Number → Int}
    (reads : ∀ text, (limitTo text).map toInt = limitToInt low high text)
    (above : -2 ^ 53 < low) (below : high < 2 ^ 53) {text : Text} {bound : Int}
    (denotes : decimalNumber? text = some bound) {accepts : Number → Bool} (holds : Int → Prop)
    (checks : ∀ number, accepts number = true ↔ holds (toInt number)) :
    (limitTo text).any accepts = true ↔ (low ≤ bound ∧ bound ≤ high) ∧ holds bound := by
  have number := reads text
  rw [limitToInt_of_decimalNumber? above below denotes] at number
  cases read : limitTo text with
  | none =>
    rw [read, Option.map_none, eq_comm, ite_eq_right_iff] at number
    have outside : ¬(low ≤ bound ∧ bound ≤ high) := by
      intro inside
      cases number inside
    simp [outside]
  | some found =>
    rw [read, Option.map_some, eq_comm, Option.ite_none_right_eq_some] at number
    obtain ⟨inside, same⟩ := number
    rw [Option.some.injEq] at same
    rw [Option.any_some, checks, ← same, and_iff_right inside]

theorem checkNumericLimits_iff {Number : Type} {lt le : Number → Number → Bool}
    {limitTo : Text → Option Number} {toInt : Number → Int} {number : Number}
    (less : ∀ first second, lt first second = true ↔ toInt first < toInt second)
    (lessOrEqual : ∀ first second, le first second = true ↔ toInt first ≤ toInt second)
    (reads : ∀ text, (limitTo text).map toInt = limitToInt low high text)
    (above : -2 ^ 53 < low) (below : high < 2 ^ 53) {Bounded : Type} {limitOf : Bounded → Limit}
    {boundOf : Bounded → Int}
    (denotes : ∀ bounded, decimalNumber? (limitOf bounded).value = some (boundOf bounded))
    {upper lower : Option Bounded} :
    checkNumericLimits lt le limitTo number (upper.map limitOf) (lower.map limitOf) = true ↔
      (∀ bounded ∈ upper,
          KeepsUpper low high (toInt number) (limitOf bounded).intervalType (boundOf bounded)) ∧
        ∀ bounded ∈ lower,
          KeepsLower low high (toInt number) (limitOf bounded).intervalType (boundOf bounded) := by
  simp only [checkNumericLimits, Bool.and_eq_true, Option.all_map, Option.all_eq_true]
  apply and_congr
  · apply forall₂_congr
    intro bounded given
    apply any_limitTo_iff reads above below (denotes bounded) fun bound =>
      if (limitOf bounded).intervalType = .open then toInt number < bound
      else toInt number ≤ bound
    intro bound
    split <;> simp [less, lessOrEqual]
  · apply forall₂_congr
    intro bounded given
    apply any_limitTo_iff reads above below (denotes bounded) fun bound =>
      if (limitOf bounded).intervalType = .open then bound < toInt number
      else bound ≤ toInt number
    intro bound
    split <;> simp [less, lessOrEqual]

variable {ordered : OrderedValue} {upper lower : Option (DenotedLimit ordered)}

theorem keeps_iff_inInterval_iff (least : low ≤ ordered.number) (greatest : ordered.number ≤ high) :
    ((∀ limit ∈ upper, KeepsUpper low high ordered.number limit.limit.intervalType limit.bound) ∧
          (∀ limit ∈ lower,
            KeepsLower low high ordered.number limit.limit.intervalType limit.bound) ↔
        InInterval ordered upper lower) ↔
      (InInterval ordered upper lower → NumericLimits ordered upper lower low high) := by
  constructor
  · intro same inside
    obtain ⟨upperKept, lowerKept⟩ := same.mpr inside
    refine ⟨?_, ?_, ?_, ?_⟩
    · intro limit given
      exact (upperKept limit given).1.2
    · intro limit given
      exact (lowerKept limit given).1.1
    · intro limit given infinite
      have kept := (upperKept limit given).2
      rw [infinite] at kept
      exact kept
    · intro limit given infinite
      have kept := (lowerKept limit given).2
      rw [infinite] at kept
      exact kept
  · intro condition
    constructor
    · rintro ⟨upperKept, lowerKept⟩
      constructor
      · intro limit given
        have kept := (upperKept limit given).2
        rw [DenotedLimit.IsAbove]
        cases kind : limit.limit.intervalType <;> simp_all
      · intro limit given
        have kept := (lowerKept limit given).2
        rw [DenotedLimit.IsBelow]
        cases kind : limit.limit.intervalType <;> simp_all
    · intro inside
      obtain ⟨upperInRange, lowerInRange, upperKept, lowerKept⟩ := condition inside
      constructor
      · intro limit given
        have holds := inside.above limit given
        have inRange := upperInRange limit given
        have kept := upperKept limit given
        rw [DenotedLimit.IsAbove] at holds
        rw [KeepsUpper]
        cases kind : limit.limit.intervalType <;> simp [kind] at holds kept ⊢ <;> omega
      · intro limit given
        have holds := inside.below limit given
        have inRange := lowerInRange limit given
        have kept := lowerKept limit given
        rw [DenotedLimit.IsBelow] at holds
        rw [KeepsLower]
        cases kind : limit.limit.intervalType <;> simp [kind] at holds kept ⊢ <;> omega

end Numeric

section ByteFields

variable {text word : Text} {number : Int} {c : Char}

theorem toNat_of_isDecimalDigit (digit : isDecimalDigit c = true) :
    48 ≤ c.toNat ∧ c.toNat ≤ 57 := by
  have zero : '0'.toNat = 48 := rfl
  have nine : '9'.toNat = 57 := rfl
  rw [isDecimalDigit, toDigit] at digit
  simp only [Char.le_def, UInt32.le_iff_toNat_le] at digit
  split_ifs at digit with isDigit isLower isUpper
  · exact isDigit
  · simp [Option.filter] at digit
  · simp [Option.filter] at digit
  · simp at digit

section

variable (read : integer? 10 text = some number)

include read

theorem digit_or_sign : ∀ c ∈ text, isDecimalDigit c = true ∨ c = '+' ∨ c = '-' := by
  unfold integer? at read
  split at read
  · cases read
  · cases read
  · cases read
  · obtain ⟨natural, digits, _⟩ := Option.map_eq_some_iff.mp read
    intro c mem
    obtain rfl | mem := List.mem_cons.mp mem
    · exact .inr (.inl rfl)
    · exact .inl (isDecimalDigit_of_digitsValue? digits c mem)
  · obtain ⟨natural, digits, _⟩ := Option.map_eq_some_iff.mp read
    intro c mem
    obtain rfl | mem := List.mem_cons.mp mem
    · exact .inr (.inr rfl)
    · exact .inl (isDecimalDigit_of_digitsValue? digits c mem)
  · obtain ⟨natural, digits, _⟩ := Option.map_eq_some_iff.mp read
    intro c mem
    exact .inl (isDecimalDigit_of_digitsValue? digits c mem)

theorem toNat_of_integer? (mem : c ∈ text) : 43 ≤ c.toNat ∧ c.toNat ≤ 57 ∧ c ≠ '.' := by
  obtain digit | rfl | rfl := digit_or_sign read c mem
  · have range := toNat_of_isDecimalDigit digit
    refine ⟨by omega, by omega, ?_⟩
    rintro rfl
    cases digit
  · decide
  · decide

theorem splitWhitespace_of_integer? : splitWhitespace text = [text] := by
  have together : ∀ c ∈ text, isWhitespace c = false := by
    intro c mem
    obtain ⟨above, below, _⟩ := toNat_of_integer? read mem
    simp only [isWhitespace, Bool.or_eq_false_iff, Bool.and_eq_false_imp, decide_eq_true_eq,
      decide_eq_false_iff_not, List.contains_eq_mem, List.mem_cons, List.not_mem_nil, or_false]
    omega
  have nonempty : text ≠ [] := by
    rintro rfl
    cases read
  rw [splitWhitespace, List.splitOnP_eq_singleton together]
  simp [nonempty]

end

theorem parseUnsigned_digits (digits : word.all isDecimalDigit = true) :
    (parseUnsigned 8 10 word).toOption = (digits? 10 word).filter (· < 2 ^ 8) := by
  have whole : integer? 10 word = (digits? 10 word).map Int.ofNat := integer?_eq_digits? digits
  have plain : word.head? ≠ some '-' := by
    intro minus
    obtain ⟨rest, rfl⟩ := List.head?_eq_some_iff.mp minus
    simp [isDecimalDigit, toDigit_minus] at digits
  have accepted (natural : Nat) : (parseUnsigned 8 10 word).toOption = some natural ↔
      parseUnsigned 8 10 word = .ok natural := by
    cases parseUnsigned 8 10 word <;> simp [Except.toOption]
  ext natural
  rw [accepted, parseUnsigned_eq_ok_iff (by decide), whole, Option.filter_eq_some_iff]
  simp [plain]

theorem limitWordToBytes_eq (noPoint : '.' ∉ word)
    (whole : isHex ((tryStripHexPrefix word).getD word) = true → (hexWord? word).isSome) :
    limitWordToBytes word = byteWord? word := by
  rw [limitWordToBytes, byteWord?]
  split_ifs with digits
  · rw [parseUnsigned_digits digits]
  · rw [decodeHex_eq, hexWord?]
    split_ifs with hex bytes
    · rw [padLastDigit, if_pos bytes.2.1]
      rfl
    · have some := whole hex
      rw [hexWord?, if_neg bytes] at some
      cases some
    · rename_i bytes
      exact absurd bytes.2.2 hex
    · rfl

theorem limitWordToBytes_of_hexWord? {bytes : List UInt8} (read : hexWord? word = some bytes) :
    limitWordToBytes word = byteWord? word := by
  apply limitWordToBytes_eq
  · intro point
    have hex := read
    rw [hexWord?, Option.ite_none_right_eq_some] at hex
    obtain ⟨⟨_, _, digits⟩, _⟩ := hex
    have mem : '.' ∈ (tryStripHexPrefix word).getD word := by
      unfold tryStripHexPrefix
      split <;> simp_all
    rw [isHex, List.all_eq_true] at digits
    have digit := digits '.' mem
    revert digit
    decide
  · intro hex
    rw [read]
    rfl

theorem limitWordToBytes_of_integer? (read : integer? 10 text = some number) :
    limitWordToBytes text = byteWord? text := by
  by_cases digits : text.all isDecimalDigit = true
  · rw [limitWordToBytes, byteWord?, if_pos digits, if_pos digits, parseUnsigned_digits digits]
  · apply limitWordToBytes_eq
    · intro point
      exact (toNat_of_integer? read point).2.2 rfl
    · intro hex
      exfalso
      apply digits
      have stripped : tryStripHexPrefix text = none := by
        unfold tryStripHexPrefix
        split
        · have range := (toNat_of_integer? read (c := 'x') (by simp)).2.1
          simp at range
        · have range := (toNat_of_integer? read (c := 'X') (by simp)).2.1
          simp at range
        · rfl
      rw [stripped, Option.getD_none, isHex, List.all_eq_true] at hex
      rw [List.all_eq_true]
      intro c mem
      obtain digit | rfl | rfl := digit_or_sign read c mem
      · exact digit
      · have digit := hex '+' mem
        rw [toDigit_plus] at digit
        cases digit
      · have digit := hex '-' mem
        rw [toDigit_minus] at digit
        cases digit

theorem mapM_congr_of_some {α β : Type} {first second third : α → Option β} {items : List α}
    {results : List β} (read : items.mapM first = some results)
    (same : ∀ item result, first item = some result → second item = third item) :
    items.mapM second = items.mapM third := by
  induction items generalizing results with
  | nil => rfl
  | cons item rest ih =>
    simp only [List.mapM_cons, Option.bind_eq_bind, Option.bind_eq_some_iff] at read
    obtain ⟨result, head, others, tail, _⟩ := read
    rw [List.mapM_cons, List.mapM_cons, same item result head, ih tail]

theorem value_limitToByteField {bytes : List UInt8} {bound : Int}
    (denotes : (OrderedValue.byteField bytes).Denotes text bound) :
    (limitToByteField text).map value = byteNumber? text := by
  rw [limitToByteField, byteNumber?, Option.map_map]
  suffices same : (splitWhitespace text).mapM limitWordToBytes =
      (splitWhitespace text).mapM byteWord? by
    rw [same]
    rfl
  obtain decimal | hex := denotes
  · rw [decimalNumber?] at decimal
    split_ifs at decimal with empty
    · subst empty
      rfl
    · rw [splitWhitespace_of_integer? decimal]
      simp only [List.mapM_cons, List.mapM_nil, limitWordToBytes_of_integer? decimal]
  · obtain ⟨natural, read, _⟩ := Option.map_eq_some_iff.mp hex
    obtain ⟨words, wordsRead, _⟩ := Option.map_eq_some_iff.mp read
    exact mapM_congr_of_some wordsRead fun word bytes => limitWordToBytes_of_hexWord?

end ByteFields

section Condition

variable {conv : Conversions} {bytes : List UInt8}

theorem withinLimits_byteField_iff {upper lower : Option (DenotedLimit (.byteField bytes))} :
    (DiagDataValue.byteField bytes).withinLimits (limitConversions conv) (upper.map (·.limit))
        (lower.map (·.limit)) = true ↔ ¬PassesRead (.byteField bytes) upper lower := by
  have reads (limit : DenotedLimit (.byteField bytes)) :=
    value_limitToByteField limit.denotes
  have one (limit : DenotedLimit (.byteField bytes)) (holds : Nat → Prop) :
      (∀ data ∈ limitToByteField limit.limit.value, holds (value data)) ↔
        ∀ read ∈ byteNumber? limit.limit.value, holds read := by
    rw [← reads limit]
    simp
  have upperKept (limit : DenotedLimit (.byteField bytes)) := one limit (value bytes ≤ ·)
  have lowerKept (limit : DenotedLimit (.byteField bytes)) := one limit (· ≤ value bytes)
  rw [DiagDataValue.withinLimits, checkByteFieldLimits]
  simp only [NumberDop.value_padMsbToLen, PassesRead, OrderedValue.number, limitConversions,
    Bool.and_eq_true, Option.all_eq_true, decide_eq_true_eq, not_or, not_exists, not_and,
    Int.ofNat_lt, Nat.not_lt]
  cases upper <;> cases lower <;> simp_all

section Bytes

variable {ordered : OrderedValue} {upper lower : Option (DenotedLimit ordered)}

variable {limit : DenotedLimit ordered}

theorem read_eq_of_not_misread (plain : ¬limit.Misread) :
    ∃ read ∈ byteNumber? limit.limit.value, (read : Int) = limit.bound := by
  have read := not_not.mp plain
  obtain ⟨natural, found, same⟩ := Option.map_eq_some_iff.mp read
  exact ⟨natural, found, same⟩

section

variable (limits : BytesLimits ordered upper lower)

include limits

theorem isAbove_of_not_passesRead (kept : ¬PassesRead ordered upper lower) (given : limit ∈ upper) :
    limit.IsAbove ordered.number := by
  by_cases doubtful : limit.limit.intervalType = .open ∧ ordered.number = limit.bound ∨
      limit.Misread
  · obtain inside | passed := limits.outside limit (.inl given) doubtful
    · exact inside.above limit given
    · exact absurd passed kept
  · obtain ⟨notOn, plain⟩ := not_or.mp doubtful
    obtain ⟨read, found, same⟩ := read_eq_of_not_misread plain
    have atMost : ordered.number ≤ read := by
      by_contra beyond
      exact kept (.inl ⟨limit, given, read, found, by omega⟩)
    rw [DenotedLimit.IsAbove]
    cases kind : limit.limit.intervalType with
    | «open» =>
      have apart : ordered.number ≠ limit.bound := fun on => notOn ⟨kind, on⟩
      exact lt_of_le_of_ne (same ▸ atMost) apart
    | closed => exact same ▸ atMost
    | infinite => trivial

theorem isBelow_of_not_passesRead (kept : ¬PassesRead ordered upper lower) (given : limit ∈ lower) :
    limit.IsBelow ordered.number := by
  by_cases doubtful : limit.limit.intervalType = .open ∧ ordered.number = limit.bound ∨
      limit.Misread
  · obtain inside | passed := limits.outside limit (.inr given) doubtful
    · exact inside.below limit given
    · exact absurd passed kept
  · obtain ⟨notOn, plain⟩ := not_or.mp doubtful
    obtain ⟨read, found, same⟩ := read_eq_of_not_misread plain
    have atLeast : (read : Int) ≤ ordered.number := by
      by_contra beyond
      exact kept (.inr ⟨limit, given, read, found, by omega⟩)
    rw [DenotedLimit.IsBelow]
    cases kind : limit.limit.intervalType with
    | «open» =>
      have apart : limit.bound ≠ ordered.number := fun on => notOn ⟨kind, on.symm⟩
      exact lt_of_le_of_ne (same ▸ atLeast) apart
    | closed => exact same ▸ atLeast
    | infinite => trivial

theorem not_passesRead_of_inInterval (inside : InInterval ordered upper lower) :
    ¬PassesRead ordered upper lower := by
  rintro (⟨limit, given, read, found, passed⟩ | ⟨limit, given, read, found, passed⟩)
  · by_cases doubtful : limit.limit.intervalType = .infinite ∨ limit.Misread
    · have kept := limits.upperKept inside limit given doubtful read found
      omega
    · obtain ⟨finite, plain⟩ := not_or.mp doubtful
      obtain ⟨meant, foundMeant, same⟩ := read_eq_of_not_misread plain
      obtain rfl := Option.mem_unique found foundMeant
      have above := inside.above limit given
      rw [DenotedLimit.IsAbove] at above
      cases kind : limit.limit.intervalType with
      | «open» | closed =>
        simp only [kind] at above
        omega
      | infinite => exact finite kind
  · by_cases doubtful : limit.limit.intervalType = .infinite ∨ limit.Misread
    · have kept := limits.lowerKept inside limit given doubtful read found
      omega
    · obtain ⟨finite, plain⟩ := not_or.mp doubtful
      obtain ⟨meant, foundMeant, same⟩ := read_eq_of_not_misread plain
      obtain rfl := Option.mem_unique found foundMeant
      have below := inside.below limit given
      rw [DenotedLimit.IsBelow] at below
      cases kind : limit.limit.intervalType with
      | «open» | closed =>
        simp only [kind] at below
        omega
      | infinite => exact finite kind

end

theorem not_passesRead_iff_inInterval_iff :
    (¬PassesRead ordered upper lower ↔ InInterval ordered upper lower) ↔
      BytesLimits ordered upper lower := by
  constructor
  · intro same
    refine ⟨?_, ?_, ?_⟩
    · intro inside limit given _ read found
      by_contra passed
      exact same.mpr inside (.inl ⟨limit, given, read, found, not_le.mp passed⟩)
    · intro inside limit given _ read found
      by_contra passed
      exact same.mpr inside (.inr ⟨limit, given, read, found, not_le.mp passed⟩)
    · intro limit _ _
      by_cases passed : PassesRead ordered upper lower
      · exact .inr passed
      · exact .inl (same.mp passed)
  · intro limits
    constructor
    · intro kept
      constructor
      · intro limit given
        exact isAbove_of_not_passesRead limits kept given
      · intro limit given
        exact isBelow_of_not_passesRead limits kept given
    · exact not_passesRead_of_inInterval limits

end Bytes

/-- A value is within its limits when it is in their interval, exactly under the condition. -/
theorem keepsInterval_iff (conv : Conversions) (ordered : OrderedValue)
    (upper lower : Option (DenotedLimit ordered)) :
    KeepsInterval ordered upper lower conv ↔ IntervalCondition ordered upper lower := by
  cases ordered with
  | int32 number least greatest =>
    have reads (text : Text) :
        ((limitConversions conv).limitToI32 text).map id =
          limitToInt (-2 ^ 31) (2 ^ 31 - 1) text := Option.map_id_apply
    rw [KeepsInterval, OrderedValue.toValue, DiagDataValue.withinLimits,
      checkNumericLimits_iff (by simp) (by simp) reads (by norm_num) (by norm_num)
        (fun limit : DenotedLimit (.int32 number least greatest) => limit.denotes)]
    exact keeps_iff_inInterval_iff least (Int.le_sub_one_of_lt greatest)
  | uint32 number greatest =>
    have reads (text : Text) :
        ((limitConversions conv).limitToU32 text).map Int.ofNat =
          limitToInt 0 (2 ^ 32 - 1) text := map_toNat_limitToInt (by norm_num) text
    rw [KeepsInterval, OrderedValue.toValue, DiagDataValue.withinLimits,
      checkNumericLimits_iff (by simp) (by simp) reads (by norm_num) (by norm_num)
        (fun limit : DenotedLimit (.uint32 number greatest) => limit.denotes)]
    have atMost : (number : Int) ≤ 2 ^ 32 - 1 := by omega
    exact keeps_iff_inInterval_iff (Int.natCast_nonneg number) atMost
  | byteField bytes =>
    rw [KeepsInterval, OrderedValue.toValue, withinLimits_byteField_iff]
    exact not_passesRead_iff_inInterval_iff

def openByte : DenotedLimit (.byteField [0x05]) :=
  ⟨⟨"0x05".toList, .open⟩, 5, .inr (by decide +kernel)⟩

/-- Bytes on an open limit are within it. -/
theorem not_keepsInterval : ¬∀ (conv : Conversions) (ordered : OrderedValue)
    (upper lower : Option (DenotedLimit ordered)), KeepsInterval ordered upper lower conv := by
  intro everyIntervalKept
  have accepted : (DiagDataValue.byteField [0x05]).withinLimits
      (limitConversions integerConversions) (some ⟨"0x05".toList, .open⟩) none = true := by
    decide +kernel
  have inside :=
    (everyIntervalKept integerConversions (.byteField [0x05]) (some openByte) none).mp accepted
  have less := inside.above openByte rfl
  revert less
  simp [DenotedLimit.IsAbove, openByte, OrderedValue.number, value]

end Condition

end DiagnosticAdapter.Kernel
