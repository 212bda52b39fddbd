import DiagnosticAdapter.Kernel.Text

/-!
# The integer that a text writes

The integer parsers of all widths read the same number, where it lies in their range.
-/

namespace DiagnosticAdapter.Kernel

/-- The number that the digits write after those read so far, of any size. -/
def digitsValue? (radix : Nat) : Nat → Text → Option Nat
  | number, [] => some number
  | number, c :: rest => do
    let digit ← toDigit c radix
    digitsValue? radix (number * radix + digit) rest

def integer? (radix : Nat) : Text → Option Int
  | [] | ['+'] | ['-'] => none
  | '+' :: digits => (digitsValue? radix 0 digits).map Int.ofNat
  | '-' :: digits => (digitsValue? radix 0 digits).map fun number => -Int.ofNat number
  | digits => (digitsValue? radix 0 digits).map Int.ofNat

section Digits

variable {radix limit number result : Nat} {overflow : ParseIntError}

theorem le_of_digitsValue? (positive : 0 < radix) {digits : Text}
    (read : digitsValue? radix number digits = some result) : number ≤ result := by
  induction digits generalizing number with
  | nil =>
    cases read
    exact le_rfl
  | cons c rest ih =>
    rw [digitsValue?, Option.bind_eq_bind, Option.bind_eq_some_iff] at read
    obtain ⟨digit, _, read⟩ := read
    have below := ih read
    have scaled := Nat.le_mul_of_pos_right number positive
    omega

theorem parseDigits_eq_ok_iff (positive : 0 < radix) (within : number ≤ limit) (digits : Text) :
    parseDigits radix limit overflow number digits = .ok result ↔
      digitsValue? radix number digits = some result ∧ result ≤ limit := by
  induction digits generalizing number with
  | nil =>
    rw [parseDigits, digitsValue?]
    constructor
    · intro read
      cases read
      exact ⟨rfl, within⟩
    · intro read
      cases read.1
      rfl
  | cons c rest ih =>
    rw [parseDigits, digitsValue?, Option.bind_eq_bind]
    cases toDigit c radix with
    | none => simp
    | some digit =>
      rw [Option.bind_some]
      dsimp only
      by_cases beyond : number * radix + digit > limit
      · rw [if_pos beyond]
        constructor
        · intro read
          cases read
        · intro read
          have below := le_of_digitsValue? positive read.1
          omega
      · rw [if_neg beyond]
        exact ih (by omega)

end Digits

theorem toDigit_minus (radix : Nat) : toDigit '-' radix = none := by
  rw [toDigit]
  rfl

theorem digitsValue?_minus (radix number : Nat) (rest : Text) :
    digitsValue? radix number ('-' :: rest) = none := by
  rw [digitsValue?, toDigit_minus]
  rfl

section Widths

variable {bits radix : Nat} (positive : 0 < radix)

section

variable {digits : Text} (nonempty : digits ≠ [])

include nonempty

theorem integer?_of_digits (noPlus : ∀ rest, digits ≠ '+' :: rest)
    (noMinus : ∀ rest, digits ≠ '-' :: rest) :
    integer? radix digits = (digitsValue? radix 0 digits).map Int.ofNat := by
  unfold integer?
  split <;> simp_all

theorem integer?_plus :
    integer? radix ('+' :: digits) = (digitsValue? radix 0 digits).map Int.ofNat := by
  rw [integer?]
  exact nonempty

theorem integer?_minus : integer? radix ('-' :: digits) =
      (digitsValue? radix 0 digits).map fun number => -Int.ofNat number := by
  rw [integer?]
  exact nonempty

end

theorem nonpos_of_minus {text : Text} (minus : text.head? = some '-') {number : Int}
    (value : integer? radix text = some number) : number ≤ 0 := by
  obtain ⟨digits, rfl⟩ := List.head?_eq_some_iff.1 minus
  by_cases nonempty : digits = []
  · subst nonempty
    cases value
  · rw [integer?_minus nonempty, Option.map_eq_some_iff] at value
    obtain ⟨result, _, rfl⟩ := value
    simp

include positive

theorem map_parseDigits_eq_ok_iff {limit : Nat} {overflow : ParseIntError} (digits : Text)
    {sign : Nat → Int} {number : Int} :
    sign <$> parseDigits radix limit overflow 0 digits = .ok number ↔
      ∃ result, digitsValue? radix 0 digits = some result ∧ result ≤ limit ∧
        sign result = number := by
  constructor
  · intro read
    cases parsed : parseDigits radix limit overflow 0 digits with
    | error failure =>
      rw [parsed] at read
      cases read
    | ok result =>
      rw [parsed] at read
      cases read
      obtain ⟨value, within⟩ := (parseDigits_eq_ok_iff positive (Nat.zero_le _) digits).1 parsed
      exact ⟨result, value, within, rfl⟩
  · intro read
    obtain ⟨result, value, within, rfl⟩ := read
    rw [(parseDigits_eq_ok_iff positive (Nat.zero_le _) digits).2 ⟨value, within⟩]
    rfl

theorem parseSigned_eq_ok_iff (text : Text) (number : Int) :
    parseSigned bits radix text = .ok number ↔
      integer? radix text = some number ∧ -2 ^ (bits - 1) ≤ number ∧ number < 2 ^ (bits - 1) := by
  have bound : 0 < 2 ^ (bits - 1) := Nat.two_pow_pos _
  have cast : ((2 ^ (bits - 1) : Nat) : Int) = 2 ^ (bits - 1) := by norm_cast
  have within : ∀ (digits : Text) (sign : Nat → Int) {limit : Nat},
      (∀ result, result ≤ limit ↔ -2 ^ (bits - 1) ≤ sign result ∧ sign result < 2 ^ (bits - 1)) →
      ((∃ result, digitsValue? radix 0 digits = some result ∧ result ≤ limit ∧
          sign result = number) ↔
        (∃ result, digitsValue? radix 0 digits = some result ∧ sign result = number) ∧
          -2 ^ (bits - 1) ≤ number ∧ number < 2 ^ (bits - 1)) := by
    intro digits sign limit same
    constructor
    · rintro ⟨result, value, inside, rfl⟩
      exact ⟨⟨result, value, rfl⟩, (same result).1 inside⟩
    · rintro ⟨⟨result, value, rfl⟩, inside⟩
      exact ⟨result, value, (same result).2 inside, rfl⟩
  unfold parseSigned
  split
  · simp [integer?]
  · simp [integer?]
  · simp [integer?]
  · rename_i digits nonempty
    rw [integer?_plus nonempty, map_parseDigits_eq_ok_iff positive, Option.map_eq_some_iff]
    exact within digits Int.ofNat fun result => by simp only [Int.ofNat_eq_natCast]; omega
  · rename_i digits nonempty
    rw [integer?_minus nonempty, map_parseDigits_eq_ok_iff positive, Option.map_eq_some_iff]
    exact within digits _ fun result => by simp only [Int.ofNat_eq_natCast]; omega
  · rename_i notEmpty _ _ noPlus noMinus
    rw [integer?_of_digits notEmpty noPlus noMinus, map_parseDigits_eq_ok_iff positive,
      Option.map_eq_some_iff]
    exact within text Int.ofNat fun result => by simp only [Int.ofNat_eq_natCast]; omega

theorem parseUnsigned_eq_ok_iff (text : Text) (number : Nat) :
    parseUnsigned bits radix text = .ok number ↔
      integer? radix text = some (number : Int) ∧ text.head? ≠ some '-' ∧ number < 2 ^ bits := by
  have bound : 0 < 2 ^ bits := Nat.two_pow_pos _
  unfold parseUnsigned
  split
  · simp [integer?]
  · simp [integer?]
  · simp [integer?]
  · rename_i digits nonempty
    rw [integer?_plus nonempty, parseDigits_eq_ok_iff positive (Nat.zero_le _),
      Option.map_eq_some_iff]
    constructor
    · intro read
      exact ⟨⟨number, read.1, rfl⟩, by simp, by omega⟩
    · intro read
      obtain ⟨⟨result, value, same⟩, _, below⟩ := read
      obtain rfl := Int.ofNat.inj same
      exact ⟨value, by omega⟩
  · rename_i notEmpty _ notMinus noPlus
    by_cases signed : ∃ rest, text = '-' :: rest
    · obtain ⟨rest, rfl⟩ := signed
      rw [parseDigits_eq_ok_iff positive (Nat.zero_le _), digitsValue?_minus]
      simp
    · have noMinus : ∀ rest, text ≠ '-' :: rest := fun rest same => signed ⟨rest, same⟩
      have head : text.head? ≠ some '-' := by
        intro first
        obtain ⟨rest, same⟩ := List.head?_eq_some_iff.1 first
        exact noMinus rest same
      rw [integer?_of_digits notEmpty noPlus noMinus,
        parseDigits_eq_ok_iff positive (Nat.zero_le _), Option.map_eq_some_iff]
      constructor
      · intro read
        exact ⟨⟨number, read.1, rfl⟩, head, by omega⟩
      · intro read
        obtain ⟨⟨result, value, same⟩, _, below⟩ := read
        obtain rfl := Int.ofNat.inj same
        exact ⟨value, by omega⟩

end Widths

end DiagnosticAdapter.Kernel
