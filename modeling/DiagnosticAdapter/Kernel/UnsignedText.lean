import DiagnosticAdapter.Kernel.CodedDefaults

/-!
# Unsigned numbers as text

`decode_numeric_val_from_str` with the physical type `UInt32`: each radix has its own parser.
Hexadecimal text is read in bytes and may be separated, the prefixes of octal and binary text
are taken off in lower case only, and their width is not checked.
-/

namespace DiagnosticAdapter.Kernel

open Bits Codec Effects

/-- A marker of a radix behind a zero, and the text after it. -/
def marked? : Text → Option (Char × Text)
  | '0' :: marker :: rest =>
    if marker ∈ ['x', 'X', 'o', 'O', 'b', 'B'] then some (marker, rest) else none
  | _ => none

def radixOf (marker : Char) : Nat :=
  if marker ∈ ['x', 'X'] then 16 else if marker ∈ ['o', 'O'] then 8 else 2

def digits? (radix : Nat) (digits : Text) : Option Nat :=
  if digits = [] then none else digitsValue? radix 0 digits

/-- The number of a decimal text or of one with a prefix, in either letter case. -/
def unsignedNumber? (text : Text) : Option Nat :=
  match marked? text with
  | some (marker, rest) => digits? (radixOf marker) rest
  | none => digits? 10 text

/-- A `UInt32` of standard length. -/
structure UnsignedField where
  bitLength : Nat
  positive : 1 ≤ bitLength
  narrow : bitLength ≤ 32
  bitMask : Option (List UInt8)
  condensed : Bool
  isHighLowByteOrder : Bool

namespace UnsignedField

variable (field : UnsignedField)

def diagCodedType : DiagCodedType :=
  ⟨.uint32, .standardLength ⟨field.bitLength, field.bitMask, field.condensed⟩,
    field.isHighLowByteOrder⟩

/-- The text is read without panic, as its number where that fits the type. -/
structure ParsesText (conv : Conversions) (text : Text) : Prop where
  noPanic : ∀ message,
    decodeNumericValFromStr conv text ⟨.uint32⟩ field.diagCodedType ≠ .error (.panicked message)
  reads : ∀ data, decodeNumericValFromStr conv text ⟨.uint32⟩ field.diagCodedType = .ok data ↔
    ∃ number, unsignedNumber? text = some number ∧ number < 2 ^ field.bitLength ∧
      data = toBeBytes 4 number

end UnsignedField

def isSeparator (c : Char) : Bool := c = ' ' ∨ c = ','

/-- An odd last digit becomes a byte of its own. -/
def padLastDigit (digits : Text) : Text :=
  if digits.length % 2 = 0 then digits
  else digits.take (digits.length - 1) ++ '0' :: digits.drop (digits.length - 1)

/-- The digits of the separated words, without their prefixes. -/
def listedDigits (text : Text) : Text :=
  ((text.splitOnP isSeparator).filter fun word => !word.isEmpty).flatMap fun word =>
    padLastDigit ((tryStripHexPrefix word).getD word)

/-- Separated words denote no number and must not be read; else there are one to eight digits, and
an odd last one stands alone unless the number does not fit. -/
def HexCondition (bitLength : Nat) (text rest : Text) : Prop :=
  if text.any isSeparator then
    ∀ number, digitsValue? 16 0 (listedDigits text) = some number →
      (listedDigits text).length ≤ 8 ∧ 2 ^ bitLength ≤ number
  else
    ∀ number, digitsValue? 16 0 rest = some number → rest ≠ [] ∧ rest.length ≤ 8 ∧
        (rest.length % 2 = 0 ∨ number < 16 ∨ 2 ^ bitLength ≤ number)

/-- Octal and binary numbers fit the type or not even 32 bits, behind an upper-case prefix
they do not fit the type, and neither do decimal ones behind a plus. -/
def UnsignedCondition (bitLength : Nat) (text : Text) : Prop :=
  match marked? text with
  | some (marker, rest) =>
    if radixOf marker = 16 then HexCondition bitLength text rest
    else if marker ∈ ['o', 'b'] then
      ∀ number, digits? (radixOf marker) rest = some number →
        number < 2 ^ bitLength ∨ 2 ^ 32 ≤ number
    else ∀ number, digits? (radixOf marker) rest = some number → 2 ^ bitLength ≤ number
  | none =>
    ∀ rest number, text = '+' :: rest → digits? 10 rest = some number → 2 ^ bitLength ≤ number

section Digits

variable {radix number result : Nat} {front back digits : Text}

theorem digitsValue?_append : digitsValue? radix number (front ++ back) =
    (digitsValue? radix number front).bind (digitsValue? radix · back) := by
  induction front generalizing number with
  | nil => rfl
  | cons c rest ih =>
    simp only [List.cons_append, digitsValue?, Option.bind_eq_bind, Option.bind_assoc, ih]

theorem digitsValue?_eq_some_iff : digitsValue? radix number digits = some result ↔
    ∃ low, digitsValue? radix 0 digits = some low ∧
      result = number * radix ^ digits.length + low := by
  induction digits generalizing number result with
  | nil => simp [digitsValue?, eq_comm]
  | cons c rest ih =>
    rw [digitsValue?, digitsValue?]
    cases toDigit c radix with
    | none => simp
    | some digit =>
      simp only [Option.bind_eq_bind, Option.bind_some, Nat.zero_mul, Nat.zero_add]
      rw [ih]
      constructor
      · rintro ⟨low, read, rfl⟩
        refine ⟨digit * radix ^ rest.length + low, ih.mpr ⟨low, read, rfl⟩, ?_⟩
        rw [List.length_cons, pow_succ]
        ring
      · rintro ⟨low, read, rfl⟩
        obtain ⟨lower, below, rfl⟩ := ih.mp read
        refine ⟨lower, below, ?_⟩
        rw [List.length_cons, pow_succ]
        ring

theorem digitsValue?_isSome_iff : (digitsValue? radix number digits).isSome ↔
    digits.all fun c => (toDigit c radix).isSome := by
  induction digits generalizing number with
  | nil => simp [digitsValue?]
  | cons c rest ih =>
    rw [digitsValue?]
    cases read : toDigit c radix with
    | none => simp [read]
    | some digit => simp [read, ih]

theorem toDigit_lt {c : Char} {digit : Nat} (read : toDigit c radix = some digit) :
    digit < radix := by
  rw [toDigit] at read
  have bounded := Option.mem_filter_iff.mp read
  simpa using bounded.2

theorem toDigit_plus (radix : Nat) : toDigit '+' radix = none := by
  rw [toDigit]
  rfl

theorem integer?_eq_digits? (readable : digits.all fun c => (toDigit c radix).isSome) :
    integer? radix digits = (digits? radix digits).map Int.ofNat := by
  by_cases nonempty : digits = []
  · subst nonempty
    rfl
  · rw [digits?, if_neg nonempty]
    apply integer?_of_digits nonempty
    · rintro rest rfl
      simp [toDigit_plus] at readable
    · rintro rest rfl
      simp [toDigit_minus] at readable

end Digits

section Hex

variable {digits front back text : Text} {number : Nat} {diagType : DiagCodedType}

def isHex (text : Text) : Bool := text.all fun c => (toDigit c 16).isSome

theorem hexPairs_append (even : front.length % 2 = 0) :
    hexPairs (front ++ back) = hexPairs front ++ hexPairs back := by
  induction front using hexPairs.induct with
  | case1 first second rest ih =>
    have rest_even : rest.length % 2 = 0 := by
      simp only [List.length_cons] at even
      omega
    simp only [List.cons_append, hexPairs, ih rest_even]
  | case2 front notPair =>
    cases front with
    | nil => rfl
    | cons first rest =>
      cases rest with
      | nil => simp at even
      | cons second rest => exact absurd rfl (notPair first second rest)

theorem length_hexPairs (digits : Text) : (hexPairs digits).length = digits.length / 2 := by
  induction digits using hexPairs.induct with
  | case1 first second rest ih =>
    simp only [hexPairs, List.length_cons, ih]
    omega
  | case2 digits notPair =>
    cases digits with
    | nil => rfl
    | cons first rest =>
      cases rest with
      | nil => simp [hexPairs]
      | cons second rest => exact absurd rfl (notPair first second rest)

theorem value_hexPairs (even : digits.length % 2 = 0)
    (read : digitsValue? 16 0 digits = some number) : value (hexPairs digits) = number := by
  induction digits using hexPairs.induct generalizing number with
  | case1 first second rest ih =>
    have rest_even : rest.length % 2 = 0 := by
      simp only [List.length_cons] at even
      omega
    simp only [digitsValue?, Option.bind_eq_bind, Option.bind_eq_some_iff] at read
    obtain ⟨high, readHigh, low, readLow, read⟩ := read
    obtain ⟨below, readBelow, rfl⟩ := digitsValue?_eq_some_iff.mp read
    have smallHigh := toDigit_lt readHigh
    have smallLow := toDigit_lt readLow
    have byte : (UInt8.ofNat (high * 16 + low)).toNat = high * 16 + low :=
      UInt8.toNat_ofNat_of_lt' (by simp only [UInt8.size]; omega)
    have scale : 2 ^ (8 * (rest.length / 2)) = 16 ^ rest.length := by
      have twice : 8 * (rest.length / 2) = 4 * rest.length := by omega
      rw [twice, pow_mul]
      norm_num
    simp only [hexPairs, readHigh, readLow, Option.getD_some]
    rw [value, length_hexPairs, ih rest_even readBelow, byte, scale]
    ring
  | case2 digits notPair =>
    cases digits with
    | nil =>
      cases read
      rfl
    | cons first rest =>
      cases rest with
      | nil => simp at even
      | cons second rest => exact absurd rfl (notPair first second rest)

theorem isHex_padLastDigit (digits : Text) : isHex (padLastDigit digits) = isHex digits := by
  have whole := List.take_append_drop (digits.length - 1) digits
  rw [padLastDigit]
  split
  · rfl
  · conv_rhs => rw [← whole]
    simp only [isHex, List.all_append, List.all_cons]
    have zero : (toDigit '0' 16).isSome = true := by decide
    rw [zero, Bool.true_and]

theorem length_padLastDigit (digits : Text) :
    (padLastDigit digits).length = digits.length + digits.length % 2 := by
  rw [padLastDigit]
  split
  · omega
  · simp only [List.length_append, List.length_cons, List.length_take, List.length_drop]
    omega

theorem decodeHex_eq (digits : Text) : decodeHex digits =
    if isHex digits then .ok (hexPairs (padLastDigit digits))
    else .error (.parameterConversionError "Non-hex character found") := by
  rw [decodeHex, padLastDigit, isHex]
  split_ifs <;> simp_all

theorem decodeHexWithOptionalPrefix_eq (text : Text) : decodeHexWithOptionalPrefix text =
    if isHex (listedDigits text) then .ok (hexPairs (listedDigits text))
    else .error (.parameterConversionError "Non-hex character found") := by
  have words (words : List Text) :
      (words.mapM fun word => decodeHex ((tryStripHexPrefix word).getD word)).map List.flatten =
        if isHex (words.flatMap fun word => padLastDigit ((tryStripHexPrefix word).getD word)) then
          .ok (hexPairs (words.flatMap fun word =>
            padLastDigit ((tryStripHexPrefix word).getD word)))
        else .error (.parameterConversionError "Non-hex character found") := by
    induction words with
    | nil => rfl
    | cons word rest ih =>
      have even : (padLastDigit ((tryStripHexPrefix word).getD word)).length % 2 = 0 := by
        rw [length_padLastDigit]
        omega
      rw [List.mapM_cons, decodeHex_eq, List.flatMap_cons, hexPairs_append even]
      have all : isHex (padLastDigit ((tryStripHexPrefix word).getD word) ++
          rest.flatMap fun word => padLastDigit ((tryStripHexPrefix word).getD word)) =
            (isHex ((tryStripHexPrefix word).getD word) && isHex (rest.flatMap fun word =>
                padLastDigit ((tryStripHexPrefix word).getD word))) := by
        rw [isHex, List.all_append]
        congr 1
        exact isHex_padLastDigit _
      rw [all]
      cases isHex ((tryStripHexPrefix word).getD word) with
      | false => rfl
      | true =>
        revert ih
        cases (rest.mapM fun word => decodeHex ((tryStripHexPrefix word).getD word)) <;>
          cases isHex (rest.flatMap fun word =>
            padLastDigit ((tryStripHexPrefix word).getD word)) <;>
          simp [Except.map, Bind.bind, Except.bind, pure, Except.pure]
  rw [decodeHexWithOptionalPrefix, listedDigits, ← words]
  have separator : (fun c => decide (c = ' ' ∨ c = ',')) = isSeparator := rfl
  rw [separator]
  cases ((text.splitOnP isSeparator).filter fun word => !word.isEmpty).mapM
    fun word => decodeHex ((tryStripHexPrefix word).getD word) <;> rfl

theorem length_listedDigits_even (text : Text) : (listedDigits text).length % 2 = 0 := by
  rw [listedDigits]
  induction (text.splitOnP isSeparator).filter fun word => !word.isEmpty with
  | nil => rfl
  | cons word rest ih =>
    rw [List.flatMap_cons, List.length_append, length_padLastDigit]
    omega

theorem listedDigits_of_hex {marker : Char} {rest : Text} (hex : marker = 'x' ∨ marker = 'X')
    (together : ('0' :: marker :: rest).any isSeparator = false) :
    listedDigits ('0' :: marker :: rest) = padLastDigit rest := by
  have apart : ∀ c ∈ '0' :: marker :: rest, isSeparator c = false := by
    simpa using together
  rw [listedDigits, List.splitOnP_eq_singleton apart]
  obtain rfl | rfl := hex <;> simp [tryStripHexPrefix]

end Hex

section Outcome

variable {field : UnsignedField} {marker : Char} {rest text : Text} {number : Nat}
  {data : List UInt8}

def NotPanicked (outcome : Except DiagServiceError (List UInt8)) : Prop :=
  ∀ message, outcome ≠ .error (.panicked message)

theorem bitLen_getD : field.diagCodedType.bitLen.getD 32 = field.bitLength := rfl

theorem checkedBytes_eq_ok_iff : (validateBitLenUnsigned 32 number field.bitLength >>= fun _ =>
        (.ok (toBeBytes 4 number) : Except DiagServiceError (List UInt8))) = .ok data ↔
      number < 2 ^ field.bitLength ∧ data = toBeBytes 4 number := by
  rw [except_bind_eq_ok_iff]
  have width : min field.bitLength 32 = field.bitLength := Nat.min_eq_left field.narrow
  constructor
  · rintro ⟨_, checked, same⟩
    have range := (validateBitLenUnsigned_eq_ok_iff.mp checked).2
    rw [width] at range
    exact ⟨range, (Except.ok.inj same).symm⟩
  · rintro ⟨range, rfl⟩
    refine ⟨(), validateBitLenUnsigned_eq_ok_iff.mpr ⟨field.positive, ?_⟩, rfl⟩
    rwa [width]

theorem notPanicked_checkedBytes :
    NotPanicked (validateBitLenUnsigned 32 number field.bitLength >>= fun _ =>
      .ok (toBeBytes 4 number)) := by
  intro message
  rw [validateBitLenUnsigned]
  split
  · simp [Bind.bind, Except.bind]
  · dsimp only
    split <;> split <;> simp [Bind.bind, Except.bind]

theorem decodeUInt32FromStr_hex (hex : marker = 'x' ∨ marker = 'X') (rest : Text) :
    decodeUInt32FromStr ('0' :: marker :: rest) field.diagCodedType =
      (match digitsValue? 16 0 (listedDigits ('0' :: marker :: rest)) with
      | none => .error (.parameterConversionError "Non-hex character found")
      | some number =>
        if (listedDigits ('0' :: marker :: rest)).length ≤ 8 then
          validateBitLenUnsigned 32 number field.bitLength >>= fun _ => .ok (toBeBytes 4 number)
        else .error (.panicked "padded to u32 length")) := by
  have branch : decodeUInt32FromStr ('0' :: marker :: rest) field.diagCodedType =
      decodeHexWithOptionalPrefix ('0' :: marker :: rest) >>= fun decoded =>
        (if (if decoded.length < 4 then padMsbToLen decoded 4 else decoded).length ≠ 4 then
          .error (.panicked "padded to u32 length")
        else
          validateBitLenUnsigned 32
              (value (if decoded.length < 4 then padMsbToLen decoded 4 else decoded))
              field.bitLength >>= fun _ =>
            .ok (toBeBytes 4
              (value (if decoded.length < 4 then padMsbToLen decoded 4 else decoded)))) := by
    obtain rfl | rfl := hex <;> rfl
  have even := length_listedDigits_even ('0' :: marker :: rest)
  have readable : isHex (listedDigits ('0' :: marker :: rest)) =
      (digitsValue? 16 0 (listedDigits ('0' :: marker :: rest))).isSome :=
    Bool.eq_iff_iff.mpr digitsValue?_isSome_iff.symm
  rw [branch, decodeHexWithOptionalPrefix_eq]
  simp only [readable]
  cases read : digitsValue? 16 0 (listedDigits ('0' :: marker :: rest)) with
  | none => rfl
  | some number =>
    have bytes := value_hexPairs even read
    have count := length_hexPairs (listedDigits ('0' :: marker :: rest))
    generalize hexPairs (listedDigits ('0' :: marker :: rest)) = decoded at bytes count
    have padded : value (if decoded.length < 4 then padMsbToLen decoded 4 else decoded) =
        number := by
      split
      · rw [NumberDop.value_padMsbToLen, bytes]
      · exact bytes
    have four : (if decoded.length < 4 then padMsbToLen decoded 4 else decoded).length ≠ 4 ↔
        ¬(listedDigits ('0' :: marker :: rest)).length ≤ 8 := by
      split
      · simp only [padMsbToLen, List.length_append, List.length_replicate]
        omega
      · omega
    simp only [Option.isSome_some, if_true, Bind.bind, Except.bind, padded, four]
    split_ifs <;> rfl

theorem decodeU32WithOptionalPrefix_eq_ok_iff {lower : Char} {radix : Nat}
    (positive : 0 < radix) {nonDigit invalid : String} :
    decodeU32WithOptionalPrefix lower radix nonDigit invalid ('0' :: lower :: rest) = .ok data ↔
      ∃ number, digits? radix rest = some number ∧ number < 2 ^ 32 ∧ data = toBeBytes 4 number := by
  simp only [decodeU32WithOptionalPrefix, if_true]
  have all := @digitsValue?_isSome_iff radix 0 rest
  by_cases readable : (rest.all fun c => (toDigit c radix).isSome) = true
  · rw [if_neg (by simp [readable])]
    have parsed (number : Nat) : parseUnsigned 32 radix rest = .ok number ↔
        digits? radix rest = some number ∧ number < 2 ^ 32 := by
      rw [parseUnsigned_eq_ok_iff positive, integer?_eq_digits? readable]
      have noMinus : rest.head? ≠ some '-' := by
        intro minus
        obtain ⟨digits, rfl⟩ := List.head?_eq_some_iff.mp minus
        simp [toDigit_minus] at readable
      simp [noMinus]
    cases read : parseUnsigned 32 radix rest with
    | error error =>
      simp only [read, reduceCtorEq, false_iff, not_and, Nat.not_lt] at parsed
      simp only [reduceCtorEq, false_iff, not_exists, not_and]
      intro number found small
      exact absurd small (Nat.not_lt.mpr (parsed number found))
    | ok number =>
      obtain ⟨found, small⟩ := (parsed number).mp read
      simp only [found, Option.some.injEq, exists_eq_left', small, true_and, Except.ok.injEq,
        eq_comm]
  · rw [if_pos (by simpa using readable)]
    have unread : digits? radix rest = none := by
      rw [digits?]
      split
      · rfl
      · simpa [readable] using all
    simp [unread]

theorem decodeU32WithOptionalPrefix_upper {lower upper : Char} (ne : upper ≠ lower)
    {radix : Nat} (noDigit : toDigit upper radix = none) {nonDigit invalid : String} :
    decodeU32WithOptionalPrefix lower radix nonDigit invalid ('0' :: upper :: rest) =
      .error (.parameterConversionError nonDigit) := by
  simp [decodeU32WithOptionalPrefix, ne, noDigit]

theorem notPanicked_decodeU32WithOptionalPrefix (lower : Char) (radix : Nat)
    (nonDigit invalid : String) (text : Text) :
    NotPanicked (decodeU32WithOptionalPrefix lower radix nonDigit invalid text) := by
  intro message
  unfold decodeU32WithOptionalPrefix
  extract_lets stripped
  split
  · simp
  · cases parseUnsigned 32 radix stripped <;> simp

theorem parseUnsigned_iff_digits? {radix : Nat} (positive : 0 < radix) :
    parseUnsigned 32 radix text = .ok number ↔ (digits? radix text = some number ∨
      ∃ rest, text = '+' :: rest ∧ digits? radix rest = some number) ∧ number < 2 ^ 32 := by
  rw [parseUnsigned_eq_ok_iff positive]
  cases text with
  | nil => simp [integer?, digits?]
  | cons first rest =>
    by_cases plus : first = '+'
    · subst plus
      have unread : digits? radix ('+' :: rest) = none := by
        simp [digits?, digitsValue?, toDigit_plus]
      by_cases nonempty : rest = []
      · subst nonempty
        simp [integer?, digits?, digitsValue?, toDigit_plus]
      · rw [integer?_plus nonempty, unread]
        simp [digits?, nonempty]
    · by_cases minus : first = '-'
      · subst minus
        have unread : digits? radix ('-' :: rest) = none := by
          simp [digits?, digitsValue?, toDigit_minus]
        simp [unread]
      · rw [integer?_of_digits (by simp) (by simp [plus]) (by simp [minus])]
        simp [digits?, plus, minus]

theorem decodeUInt32FromStr_decimal (unmarked : marked? text = none) (diagType : DiagCodedType) :
    decodeUInt32FromStr text diagType = (match parseUnsigned 32 10 text with
      | .error _ =>
        .error (.parameterConversionError s!"Invalid value for UInt32: {String.ofList text}")
      | .ok number =>
        validateBitLenUnsigned 32 number (diagType.bitLen.getD 32) >>= fun _ =>
          .ok (toBeBytes 4 number)) := by
  have noRadix {lower upper : Char} (shift : upper.toNat + 32 = lower.toNat)
      (isMarker : lower ∈ ['x', 'X', 'o', 'O', 'b', 'B'] ∧ upper ∈ ['x', 'X', 'o', 'O', 'b', 'B']) :
      ¬['0', lower].isPrefixOf (text.map Char.toLower) = true := by
    intro starts
    obtain ⟨rest, rfl | rfl⟩ := exists_of_isPrefixOf starts shift
    · rw [marked?, if_pos isMarker.1] at unmarked
      cases unmarked
    · rw [marked?, if_pos isMarker.2] at unmarked
      cases unmarked
  unfold decodeUInt32FromStr
  dsimp only
  rw [if_neg (@noRadix 'x' 'X' (by decide) (by decide)),
    if_neg (@noRadix 'o' 'O' (by decide) (by decide)),
    if_neg (@noRadix 'b' 'B' (by decide) (by decide))]
  rfl

theorem decodeUInt32FromStr_decimal_eq_ok_iff (unmarked : marked? text = none) :
    decodeUInt32FromStr text field.diagCodedType = .ok data ↔
      ∃ number, (digits? 10 text = some number ∨
          ∃ rest, text = '+' :: rest ∧ digits? 10 rest = some number) ∧
        number < 2 ^ field.bitLength ∧ data = toBeBytes 4 number := by
  have fits {number : Nat} (small : number < 2 ^ field.bitLength) : number < 2 ^ 32 :=
    small.trans_le (Nat.pow_le_pow_right (by decide) field.narrow)
  rw [decodeUInt32FromStr_decimal unmarked, bitLen_getD]
  cases parsed : parseUnsigned 32 10 text with
  | error error =>
    simp only [reduceCtorEq, false_iff, not_exists, not_and]
    intro number written small
    have read := (parseUnsigned_iff_digits? (by decide)).mpr ⟨written, fits small⟩
    rw [parsed] at read
    cases read
  | ok number =>
    dsimp only
    rw [checkedBytes_eq_ok_iff]
    constructor
    · intro accepted
      exact ⟨number, ((parseUnsigned_iff_digits? (by decide)).mp parsed).1, accepted⟩
    · rintro ⟨other, written, small, same⟩
      have read := (parseUnsigned_iff_digits? (by decide)).mpr ⟨written, fits small⟩
      obtain rfl := Except.ok.inj (parsed.symm.trans read)
      exact ⟨small, same⟩

theorem notPanicked_decimal (unmarked : marked? text = none) :
    NotPanicked (decodeUInt32FromStr text field.diagCodedType) := by
  rw [decodeUInt32FromStr_decimal unmarked, bitLen_getD]
  cases parseUnsigned 32 10 text with
  | error error =>
    intro message
    simp
  | ok number => exact notPanicked_checkedBytes

end Outcome

section Condition

variable {field : UnsignedField} {conv : Conversions} {marker : Char} {rest text : Text}

theorem marked?_eq_some (isMarked : marked? text = some (marker, rest)) :
    text = '0' :: marker :: rest ∧ marker ∈ ['x', 'X', 'o', 'O', 'b', 'B'] := by
  unfold marked? at isMarked
  split at isMarked
  · split_ifs at isMarked with isMarker
    cases isMarked
    exact ⟨rfl, isMarker⟩
  · cases isMarked

theorem parsesText_iff_decode : field.ParsesText conv text ↔
    NotPanicked (decodeUInt32FromStr text field.diagCodedType) ∧
      ∀ data, decodeUInt32FromStr text field.diagCodedType = .ok data ↔
        ∃ number, unsignedNumber? text = some number ∧ number < 2 ^ field.bitLength ∧
          data = toBeBytes 4 number := by
  constructor
  · intro parses
    exact ⟨parses.noPanic, parses.reads⟩
  · intro both
    exact ⟨both.1, both.2⟩

theorem forall_reads_iff {bound : Nat} (small : bound ≤ 2 ^ 32) {first second : Nat → Prop} :
    (∀ data, (∃ number, first number ∧ number < bound ∧ data = toBeBytes 4 number) ↔
        ∃ number, second number ∧ number < bound ∧ data = toBeBytes 4 number) ↔
      ∀ number, number < bound → (first number ↔ second number) := by
  have injective {number other : Nat} (below : number < bound) (otherBelow : other < bound)
      (same : toBeBytes 4 number = toBeBytes 4 other) : number = other := by
    have values := congrArg value same
    rwa [value_toBeBytes, value_toBeBytes, Nat.mod_eq_of_lt (by omega),
      Nat.mod_eq_of_lt (by omega)] at values
  constructor
  · intro same number below
    constructor
    · intro holds
      obtain ⟨other, its, otherBelow, bytes⟩ := (same _).mp ⟨number, holds, below, rfl⟩
      rwa [injective below otherBelow bytes]
    · intro holds
      obtain ⟨other, its, otherBelow, bytes⟩ := (same _).mpr ⟨number, holds, below, rfl⟩
      rwa [injective below otherBelow bytes]
  · intro same data
    constructor
    · rintro ⟨number, holds, below, rfl⟩
      exact ⟨number, (same number below).mp holds, below, rfl⟩
    · rintro ⟨number, holds, below, rfl⟩
      exact ⟨number, (same number below).mpr holds, below, rfl⟩

theorem parsesText_decimal_iff (unmarked : marked? text = none) :
    field.ParsesText conv text ↔ ∀ rest number, text = '+' :: rest →
      digits? 10 rest = some number → 2 ^ field.bitLength ≤ number := by
  have width : 2 ^ field.bitLength ≤ 2 ^ 32 := Nat.pow_le_pow_right (by decide) field.narrow
  have meant : unsignedNumber? text = digits? 10 text := by rw [unsignedNumber?, unmarked]
  rw [parsesText_iff_decode, and_iff_right (notPanicked_decimal unmarked)]
  simp only [decodeUInt32FromStr_decimal_eq_ok_iff unmarked, meant]
  rw [forall_reads_iff width]
  constructor
  · intro same rest number signed read
    by_contra small
    have unread : digits? 10 text = none := by
      simp [signed, digits?, digitsValue?, toDigit_plus]
    have written := (same number (Nat.lt_of_not_le small)).mp (.inr ⟨rest, signed, read⟩)
    rw [unread] at written
    cases written
  · intro wide number small
    constructor
    · rintro (written | ⟨rest, signed, read⟩)
      · exact written
      · exact absurd small (Nat.not_lt.mpr (wide rest number signed read))
    · exact .inl

theorem parsesText_lower_iff {lower : Char} {radix : Nat} (positive : 0 < radix)
    {nonDigit invalid : String} (isMarked : marked? ('0' :: lower :: rest) = some (lower, rest))
    (isRadix : radixOf lower = radix)
    (branch : decodeUInt32FromStr ('0' :: lower :: rest) field.diagCodedType =
      decodeU32WithOptionalPrefix lower radix nonDigit invalid ('0' :: lower :: rest)) :
    field.ParsesText conv ('0' :: lower :: rest) ↔ ∀ number,
      digits? radix rest = some number → number < 2 ^ field.bitLength ∨ 2 ^ 32 ≤ number := by
  have width : 2 ^ field.bitLength ≤ 2 ^ 32 := Nat.pow_le_pow_right (by decide) field.narrow
  have meant : unsignedNumber? ('0' :: lower :: rest) = digits? radix rest := by
    simp only [unsignedNumber?, isMarked, isRadix]
  rw [parsesText_iff_decode, branch,
    and_iff_right (notPanicked_decodeU32WithOptionalPrefix lower radix nonDigit invalid _)]
  simp only [decodeU32WithOptionalPrefix_eq_ok_iff positive, meant]
  cases digits? radix rest with
  | none => simp
  | some number =>
    simp only [Option.some.injEq, exists_eq_left', forall_eq']
    constructor
    · intro same
      by_cases long : 2 ^ 32 ≤ number
      · exact .inr long
      · exact .inl ((same _).mp ⟨Nat.lt_of_not_le long, rfl⟩).1
    · intro fits data
      constructor
      · rintro ⟨short, rfl⟩
        exact ⟨fits.resolve_right (Nat.not_le.mpr short), rfl⟩
      · rintro ⟨small, rfl⟩
        exact ⟨small.trans_le width, rfl⟩

theorem parsesText_upper_iff {lower upper : Char} {radix : Nat} (ne : upper ≠ lower)
    (noDigit : toDigit upper radix = none)
    {nonDigit invalid : String} (isMarked : marked? ('0' :: upper :: rest) = some (upper, rest))
    (isRadix : radixOf upper = radix)
    (branch : decodeUInt32FromStr ('0' :: upper :: rest) field.diagCodedType =
      decodeU32WithOptionalPrefix lower radix nonDigit invalid ('0' :: upper :: rest)) :
    field.ParsesText conv ('0' :: upper :: rest) ↔ ∀ number,
      digits? radix rest = some number → 2 ^ field.bitLength ≤ number := by
  have meant : unsignedNumber? ('0' :: upper :: rest) = digits? radix rest := by
    simp only [unsignedNumber?, isMarked, isRadix]
  rw [parsesText_iff_decode, branch,
    and_iff_right (notPanicked_decodeU32WithOptionalPrefix lower radix nonDigit invalid _)]
  simp only [decodeU32WithOptionalPrefix_upper ne noDigit, meant, reduceCtorEq, false_iff,
    not_exists, not_and]
  constructor
  · intro refused number read
    by_contra small
    exact refused _ number read (Nat.lt_of_not_le small) rfl
  · intro wide data number read small _
    exact absurd small (Nat.not_lt.mpr (wide number read))

theorem digitsValue?_padLastDigit (digits : Text) : digitsValue? 16 0 (padLastDigit digits) =
    (digitsValue? 16 0 digits).map fun number =>
      if digits.length % 2 = 0 then number else number / 16 * 256 + number % 16 := by
  by_cases even : digits.length % 2 = 0
  · simp [padLastDigit, even]
  · obtain ⟨front, last, rfl⟩ : ∃ front last, digits = front ++ [last] := by
      apply List.eq_nil_or_concat' digits |>.resolve_left
      rintro rfl
      simp at even
    have padded : padLastDigit (front ++ [last]) = front ++ ['0', last] := by
      rw [padLastDigit, if_neg even]
      simp
    rw [padded, digitsValue?_append, digitsValue?_append]
    cases digitsValue? 16 0 front with
    | none => rfl
    | some number =>
      have zero : toDigit '0' 16 = some 0 := by decide
      simp only [Option.bind_some, digitsValue?, zero, Option.bind_eq_bind]
      cases read : toDigit last 16 with
      | none => rfl
      | some digit =>
        have bounded := toDigit_lt read
        simp only [Option.bind_some, Option.map_some, if_neg even, Option.some.injEq]
        omega

theorem parsesText_hex_iff (hex : marker = 'x' ∨ marker = 'X') :
    field.ParsesText conv ('0' :: marker :: rest) ↔
      HexCondition field.bitLength ('0' :: marker :: rest) rest := by
  have width : 2 ^ field.bitLength ≤ 2 ^ 32 := Nat.pow_le_pow_right (by decide) field.narrow
  have meant : unsignedNumber? ('0' :: marker :: rest) = digits? 16 rest := by
    obtain rfl | rfl := hex <;> rfl
  have outcome : field.ParsesText conv ('0' :: marker :: rest) ↔
      (∀ number, digitsValue? 16 0 (listedDigits ('0' :: marker :: rest)) = some number →
          (listedDigits ('0' :: marker :: rest)).length ≤ 8) ∧
        ∀ number, number < 2 ^ field.bitLength →
          (digitsValue? 16 0 (listedDigits ('0' :: marker :: rest)) = some number ∧
              (listedDigits ('0' :: marker :: rest)).length ≤ 8 ↔
            digits? 16 rest = some number) := by
    rw [parsesText_iff_decode, ← forall_reads_iff width, meant, decodeUInt32FromStr_hex hex]
    cases digitsValue? 16 0 (listedDigits ('0' :: marker :: rest)) with
    | none =>
      have fine : NotPanicked (.error (.parameterConversionError "Non-hex character found")) := by
        intro message
        simp
      simp [fine]
    | some number =>
      simp only [Option.some.injEq, forall_eq', and_assoc, exists_eq_left']
      split_ifs with short
      · simp only [short, true_and, checkedBytes_eq_ok_iff, notPanicked_checkedBytes]
      · have panics : ¬NotPanicked (.error (.panicked "padded to u32 length")) := by
          intro fine
          exact fine _ rfl
        simp [panics, short]
  rw [outcome, HexCondition]
  split_ifs with separated
  · have unread : digits? 16 rest = none := by
      obtain ⟨c, mem, separates⟩ := List.any_eq_true.mp separated
      have notDigit : toDigit c 16 = none := by
        have either : c = ' ' ∨ c = ',' := by simpa [isSeparator] using separates
        obtain rfl | rfl := either <;> rfl
      have inRest : c ∈ rest := by
        simp only [List.mem_cons] at mem
        obtain rfl | rfl | mem := mem
        · cases notDigit
        · obtain rfl | rfl := hex <;> cases separates
        · exact mem
      rw [digits?]
      split
      · rfl
      · have unreadable : ¬(digitsValue? 16 0 rest).isSome := by
          rw [digitsValue?_isSome_iff, List.all_eq_true]
          intro all
          have isDigit := all c inRest
          rw [notDigit] at isDigit
          cases isDigit
        simpa using unreadable
    simp only [unread, reduceCtorEq, iff_false, not_and, Nat.not_le]
    constructor
    · rintro ⟨short, refused⟩ number read
      refine ⟨short number read, ?_⟩
      by_contra small
      have long := refused number (Nat.lt_of_not_le small) read
      have few := short number read
      omega
    · intro condition
      refine ⟨fun number read => (condition number read).1, ?_⟩
      intro number small read
      exact absurd small (Nat.not_lt.mpr (condition number read).2)
  · have together : ('0' :: marker :: rest).any isSeparator = false := by
      simpa using separated
    rw [listedDigits_of_hex hex together, digitsValue?_padLastDigit, length_padLastDigit]
    cases read : digitsValue? 16 0 rest with
    | none =>
      have unread : digits? 16 rest = none := by
        rw [digits?]
        split
        · rfl
        · exact read
      simp [unread]
    | some number =>
      simp only [Option.map_some, Option.some.injEq, forall_eq']
      by_cases empty : rest = []
      · subst empty
        cases read
        have positive := Nat.two_pow_pos field.bitLength
        simp only [ne_eq, not_true_eq_false, false_and, iff_false, not_and]
        intro short same
        have zero := (same 0 positive).mp ⟨rfl, by decide⟩
        cases zero
      · have meantHere : digits? 16 rest = some number := by
          rw [digits?, if_neg empty, read]
        simp only [meantHere, Option.some.injEq, ne_eq, empty, not_false_eq_true, true_and]
        constructor
        · rintro ⟨short, same⟩
          refine ⟨by omega, ?_⟩
          by_contra wrong
          simp only [not_or, Nat.not_lt, Nat.not_le] at wrong
          obtain ⟨odd, large, small⟩ := wrong
          have moved := ((same number small).mpr rfl).1
          rw [if_neg odd] at moved
          omega
        · rintro ⟨short, kept⟩
          refine ⟨by omega, ?_⟩
          intro other small
          split_ifs with even
          · constructor
            · exact And.left
            · intro same
              exact ⟨same, by omega⟩
          · obtain even' | few | wide := kept
            · exact absurd even' even
            · omega
            · omega

/-- Unsigned text is read as its number exactly under the condition. -/
theorem parsesText_iff (field : UnsignedField) (conv : Conversions) (text : Text) :
    field.ParsesText conv text ↔ UnsignedCondition field.bitLength text := by
  rw [UnsignedCondition]
  cases isMarked : marked? text with
  | none => exact parsesText_decimal_iff isMarked
  | some found =>
    obtain ⟨marker, rest⟩ := found
    obtain ⟨rfl, isMarker⟩ := marked?_eq_some isMarked
    simp only [List.mem_cons, List.not_mem_nil, or_false] at isMarker
    obtain rfl | rfl | rfl | rfl | rfl | rfl := isMarker
    · exact parsesText_hex_iff (.inl rfl)
    · exact parsesText_hex_iff (.inr rfl)
    · exact parsesText_lower_iff (by decide) isMarked rfl rfl
    · exact @parsesText_upper_iff field conv rest 'o' 'O' 8 (by decide) rfl
        "Non-octal character found" "Invalid octal value: " isMarked rfl rfl
    · exact parsesText_lower_iff (by decide) isMarked rfl rfl
    · exact @parsesText_upper_iff field conv rest 'b' 'B' 2 (by decide) rfl
        "Non-binary character found" "Invalid binary value: " isMarked rfl rfl

def unsignedWord : UnsignedField := ⟨16, by decide, by decide, none, false, true⟩

/-- `0x123` is read as `0x1203`. -/
theorem not_parsesText : ¬∀ (field : UnsignedField) (conv : Conversions) (text : Text),
    field.ParsesText conv text := by
  intro everyTextParsed
  have accepted := ((everyTextParsed unsignedWord integerConversions "0x123".toList).reads
    (toBeBytes 4 0x123)).mpr ⟨0x123, by decide +kernel, by decide, rfl⟩
  have read : decodeNumericValFromStr integerConversions "0x123".toList ⟨.uint32⟩
      unsignedWord.diagCodedType = .ok [0x00, 0x00, 0x12, 0x03] := by decide +kernel
  rw [read] at accepted
  revert accepted
  decide +kernel

end Condition

end DiagnosticAdapter.Kernel
