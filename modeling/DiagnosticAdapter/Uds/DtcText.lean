import DiagnosticAdapter.Kernel.UnsignedText
import DiagnosticAdapter.Lookup.Spelling

/-!
# The text of a trouble code

A trouble code is written as its three bytes in hexadecimal digits, or as system, group and five
such digits.
-/

namespace DiagnosticAdapter.Uds

open Bits Codec Kernel

def utf8Len (text : Text) : Nat := (text.map Char.utf8Size).sum

/-- `str::get(count..)`; `count` has to end a character. -/
def getFrom : Nat → Text → Option Text
  | 0, text => some text
  | _, [] => none
  | count, c :: rest => if c.utf8Size ≤ count then getFrom (count - c.utf8Size) rest else none

/-- `trim_start_matches("0x")` -/
def trimHexPrefixes : Text → Text
  | '0' :: 'x' :: rest => trimHexPrefixes rest
  | text => text

def system? : Char → Option Nat
  | 'p' => some 0
  | 'c' => some 1
  | 'b' => some 2
  | 'u' => some 3
  | _ => none

def group? : Char → Option Nat
  | '0' => some 0
  | '1' => some 1
  | '2' => some 2
  | '3' => some 3
  | _ => none

section Decode

variable (toLowercase : Text → Text)

def saeToDtcCode (saeDtc : Text) : Except DiagServiceError Nat :=
  if utf8Len saeDtc ≠ 7 then
    .error (.invalidRequest s!"Invalid SAE dtc code '{String.ofList saeDtc}'")
  else
    let saeDtc := toLowercase saeDtc
    let text := String.ofList saeDtc
    match saeDtc[0]? with
    | none => .error (.invalidRequest s!"Invalid SAE dtc code '{text}', missing system")
    | some letter =>
      match system? letter with
      | none => .error (.invalidRequest s!"Unknown system digit in SAE dtc code '{text}'")
      | some system =>
        match saeDtc[1]? with
        | none => .error (.invalidRequest s!"Invalid SAE dtc code '{text}', missing group")
        | some digit =>
          match group? digit with
          | none => .error (.invalidRequest s!"Unknown group digit in SAE dtc code '{text}'")
          | some group =>
            match getFrom 2 saeDtc with
            | none =>
              .error (.invalidRequest s!"Invalid SAE dtc code '{text}', missing hex part")
            | some hexPart =>
              match parseUnsigned 32 16 hexPart with
              | .error _ =>
                .error (.invalidRequest s!"Invalid hex characters in SAE dtc code '{text}'")
              | .ok code => .ok (system <<< 22 ||| group <<< 20 ||| code)

def dtcOfBytes (dtcCode : Text) (bytes : List UInt8) : Except DiagServiceError Nat :=
  if (0 :: bytes).length = 4 then .ok (value (0 :: bytes))
  else .error (.invalidRequest (s!"Failed to decode DTC code: {String.ofList dtcCode}. " ++
    s!"Error: {(0 :: bytes).map UInt8.toNat}"))

def decodeDtcFromStr (dtcCode : Text) : Except DiagServiceError Nat :=
  match utf8Len dtcCode with
  | 6 => (decodeHex dtcCode).bind (dtcOfBytes dtcCode)
  | 8 => (decodeHex (trimHexPrefixes dtcCode)).bind (dtcOfBytes dtcCode)
  | 7 => saeToDtcCode toLowercase dtcCode
  | _ => .error (.invalidRequest (s!"Invalid DTC format: {String.ofList dtcCode}. Should be " ++
      "either SAE format or raw DTC code with optional 0x prefix."))

end Decode

/-- A character that a parser accepts in a code, in lower case. -/
abbrev Legible (c : Char) : Prop := (toDigit c 16).isSome ∨ c = '+' ∨ c = 'p' ∨ c = 'u'

/-- What `to_lowercase` does to texts of ASCII, and that every other character leaves one that no
code contains. -/
structure LowersAscii (toLowercase : Text → Text) : Prop where
  ascii : ∀ text, (∀ c ∈ text, c.toNat < 128) → toLowercase text = text.map Char.toLower
  other : ∀ text, ∀ c ∈ text, 128 ≤ c.toNat → ∃ x ∈ toLowercase text, ¬Legible x

/-- In lower case, a system's letter, a group's digit and five characters, of which the digits
write the rest of the number. -/
def Sae (text : Text) (number : Nat) (five digits : Text) : Prop :=
  ∃ letter digit system group code, text.map Char.toLower = letter :: digit :: five ∧
    five.length = 5 ∧ system? letter = some system ∧ group? digit = some group ∧
    digitsValue? 16 0 digits = some code ∧ number = system * 2 ^ 22 + group * 2 ^ 20 + code

inductive Form where
  | digits
  | prefixed
  | sae

/-- The code that a text of the form writes: six digits, alone or with `0x` in front, or a letter,
a group and five digits. -/
def Form.Writes : Form → Text → Nat → Prop
  | .digits, text, number => text.length = 6 ∧ digitsValue? 16 0 text = some number
  | .prefixed, text, number => ∃ digits, text = '0' :: 'x' :: digits ∧ digits.length = 6 ∧
    digitsValue? 16 0 digits = some number
  | .sae, text, number => ∃ digits, Sae text number digits digits

/-- In place of the first of the five digits stands a sign. -/
def Signed (text : Text) : Prop := ∃ number digits, Sae text number ('+' :: digits) digits

/-- The code is read as the grammar says. -/
structure Conforms (toLowercase : Text → Text) (text : Text) : Prop where
  accepted : (∃ number, decodeDtcFromStr toLowercase text = .ok number) ↔
    ∃ (form : Form) (number : Nat), form.Writes text number
  bounded : ∀ number, decodeDtcFromStr toLowercase text = .ok number → number < 2 ^ 24
  sae : ∀ number digits, Form.sae.Writes text number → Form.digits.Writes digits number →
    decodeDtcFromStr toLowercase text = .ok number ∧
      decodeDtcFromStr toLowercase digits = .ok number
  injective : ∀ (form : Form) other number number', form.Writes text number →
    form.Writes other number' →
    decodeDtcFromStr toLowercase text = decodeDtcFromStr toLowercase other →
    text.map Char.toLower = other.map Char.toLower

section Digits

variable {text digits other : Text} {c : Char} {number digit : Nat}

theorem forall_ascii (holds : Char → Prop) (each : ∀ n : Fin 128, holds (Char.ofNat n))
    (ascii : c.toNat < 128) : holds c := by
  have seen := each ⟨c.toNat, ascii⟩
  rwa [Char.ofNat_toNat] at seen

theorem ascii_of_toDigit (read : (toDigit c 16).isSome) : c.toNat < 128 := by
  by_contra other
  have above : ¬(c ≤ '9' ∨ c ≤ 'z' ∨ c ≤ 'Z') := by
    simp only [Char.le_def, UInt32.le_iff_toNat_le]
    simp only [Char.toNat] at other
    have nine : '9'.val.toNat = 57 := rfl
    have lower : 'z'.val.toNat = 122 := rfl
    have upper : 'Z'.val.toNat = 90 := rfl
    omega
  simp only [not_or] at above
  simp [toDigit, above] at read

theorem toLower_of_not_ascii (other : ¬c.toNat < 128) : c.toLower = c := by
  have notUpper : ¬c.val ≤ 'Z'.val := by
    rw [UInt32.le_iff_toNat_le]
    simp only [Char.toNat] at other
    have upper : 'Z'.val.toNat = 90 := rfl
    omega
  exact dif_neg fun upper => notUpper upper.2

theorem ascii_of_legible (legible : Legible c) : c.toNat < 128 := by
  obtain digit | rfl | rfl | rfl := legible
  · exact ascii_of_toDigit digit
  all_goals decide

theorem ascii_of_map_toLower (legible : ∀ c ∈ text.map Char.toLower, Legible c) :
    ∀ c ∈ text, c.toNat < 128 := by
  intro c mem
  by_contra other
  have lower := ascii_of_legible (legible _ (List.mem_map_of_mem mem))
  rw [toLower_of_not_ascii other] at lower
  exact other lower

theorem utf8Len_of_ascii (ascii : ∀ c ∈ text, c.toNat < 128) : utf8Len text = text.length := by
  induction text with
  | nil => rfl
  | cons c rest ih =>
    rw [List.forall_mem_cons] at ascii
    have rests := ih ascii.2
    have size : c.utf8Size = 1 := by
      rw [Char.utf8Size_eq_one_iff, UInt32.le_iff_toNat_le]
      exact Nat.le_of_lt_succ ascii.1
    simp only [utf8Len, List.map_cons, List.sum_cons, List.length_cons] at rests ⊢
    rw [size, rests, Nat.add_comm]

theorem ascii_of_isHex (hex : isHex text) : ∀ c ∈ text, c.toNat < 128 := by
  intro c member
  exact ascii_of_toDigit (List.all_eq_true.mp hex c member)

theorem isHex_of_digitsValue? (read : digitsValue? 16 0 digits = some number) : isHex digits :=
  digitsValue?_isSome_iff.mp (by rw [read]; rfl)

theorem toLower_of_toDigit (read : toDigit c 16 = some digit) :
    c.toLower = "0123456789abcdef".toList.getD digit '0' := by
  have table := forall_ascii (fun c => (toDigit c 16).all fun digit =>
    c.toLower = "0123456789abcdef".toList.getD digit '0') (by decide +kernel)
    (ascii_of_toDigit (by rw [read]; rfl))
  simpa [read] using table

/-- The first digit and the number of the others. -/
theorem digitsValue?_cons (read : digitsValue? 16 0 (c :: digits) = some number) :
    toDigit c 16 = some (number / 16 ^ digits.length) ∧
      digitsValue? 16 0 digits = some (number % 16 ^ digits.length) ∧
      number < 16 ^ (c :: digits).length := by
  induction digits generalizing c number with
  | nil =>
    rw [digitsValue?, Option.bind_eq_bind, Option.bind_eq_some_iff] at read
    obtain ⟨digit, isDigit, read⟩ := read
    cases read
    have small := toDigit_lt isDigit
    simpa [isDigit, digitsValue?, Nat.mod_one] using small
  | cons d rest ih =>
    rw [digitsValue?, Option.bind_eq_bind, Option.bind_eq_some_iff] at read
    obtain ⟨digit, isDigit, read⟩ := read
    obtain ⟨low, below, rfl⟩ := digitsValue?_eq_some_iff.mp read
    have small := toDigit_lt isDigit
    have bound := (ih below).2.2
    have positive : 0 < 16 ^ (d :: rest).length := by positivity
    obtain ⟨quotient, remainder⟩ := (Nat.div_mod_unique positive).mpr
      ⟨Nat.add_comm low _, bound⟩
    rw [Nat.zero_mul, Nat.zero_add, Nat.mul_comm digit, quotient, remainder]
    refine ⟨isDigit, below, ?_⟩
    rw [List.length_cons (a := c), pow_succ]
    nlinarith

theorem digitsValue?_lt (read : digitsValue? 16 0 digits = some number) :
    number < 16 ^ digits.length := by
  cases digits with
  | nil =>
    cases read
    decide
  | cons c rest => exact (digitsValue?_cons read).2.2

theorem lt_of_digitsValue? (fits : digits.length ≤ 5)
    (read : digitsValue? 16 0 digits = some number) : number < 2 ^ 20 :=
  (digitsValue?_lt read).trans_le (Nat.pow_le_pow_right (by decide : 0 < 16) fits)

/-- Digits are determined by their number, but for the case. -/
theorem map_toLower_of_digitsValue? (length : digits.length = other.length)
    (read : digitsValue? 16 0 digits = some number)
    (again : digitsValue? 16 0 other = some number) :
    digits.map Char.toLower = other.map Char.toLower := by
  induction digits generalizing other number with
  | nil => rw [List.eq_nil_of_length_eq_zero length.symm]
  | cons c rest ih =>
    obtain _ | ⟨d, others⟩ := other
    · cases length
    have lengths : rest.length = others.length := Nat.succ.inj length
    obtain ⟨first, behind, _⟩ := digitsValue?_cons read
    obtain ⟨first', behind', _⟩ := digitsValue?_cons again
    rw [← lengths] at first' behind'
    rw [List.map_cons, List.map_cons, toLower_of_toDigit first, toLower_of_toDigit first',
      ih lengths behind behind']

end Digits

section Parsers

variable {text digits five : Text} {number system group code : Nat} {toLowercase : Text → Text}

theorem decodeBytes_eq_ok_iff (even : utf8Len digits % 2 = 0) :
    (decodeHex digits).bind (dtcOfBytes text) = .ok number ↔
      digits.length = 6 ∧ digitsValue? 16 0 digits = some number := by
  rw [decodeHex_eq]
  by_cases hex : isHex digits
  · rw [utf8Len_of_ascii (ascii_of_isHex hex)] at even
    obtain ⟨low, read⟩ := Option.isSome_iff_exists.mp (digitsValue?_isSome_iff.mpr hex)
    have bytes := value_hexPairs even read
    rw [if_pos hex, padLastDigit, if_pos even, read]
    by_cases six : digits.length = 6
    · simp [dtcOfBytes, Except.bind, length_hexPairs, six, value, bytes]
    · have short : ¬digits.length / 2 + 1 = 4 := by omega
      simp only [Except.bind, dtcOfBytes, List.length_cons, length_hexPairs, if_neg short, six,
        reduceCtorEq, false_and]
  · rw [if_neg hex]
    constructor
    · intro read
      cases read
    · intro read
      exact absurd (isHex_of_digitsValue? read.2) hex

theorem utf8Len_prefixed (text : Text) : utf8Len ('0' :: 'x' :: text) = utf8Len text + 2 := by
  simp only [utf8Len, List.map_cons, List.sum_cons, ← Nat.add_assoc]
  exact Nat.add_comm 2 _

/-- What is cut off are prefixes of two bytes. -/
theorem utf8Len_trimHexPrefixes (text : Text) :
    utf8Len text % 2 = utf8Len (trimHexPrefixes text) % 2 ∧
      (trimHexPrefixes text = text ∨ utf8Len (trimHexPrefixes text) < utf8Len text) := by
  fun_induction trimHexPrefixes text with
  | case1 rest ih =>
    rw [utf8Len_prefixed]
    refine ⟨by omega, .inr ?_⟩
    obtain ⟨_, same | fewer⟩ := ih
    · rw [same]
      omega
    · omega
  | case2 text noPrefix => exact ⟨rfl, .inl rfl⟩

theorem trimHexPrefixes_of_isHex (hex : isHex digits) : trimHexPrefixes digits = digits := by
  rw [trimHexPrefixes.eq_def]
  split
  · simp [isHex, toDigit] at hex
  · rfl

theorem decodePrefixed_eq_ok_iff (eight : utf8Len text = 8) :
    (decodeHex (trimHexPrefixes text)).bind (dtcOfBytes text) = .ok number ↔
      Form.prefixed.Writes text number := by
  have even : utf8Len (trimHexPrefixes text) % 2 = 0 := by
    rw [← (utf8Len_trimHexPrefixes text).1, eight]
  rw [decodeBytes_eq_ok_iff even]
  constructor
  · rintro ⟨six, read⟩
    have hex := isHex_of_digitsValue? read
    have size := utf8Len_of_ascii (ascii_of_isHex hex)
    rw [six] at size
    fun_cases trimHexPrefixes text with
    | case1 rest =>
      rw [utf8Len_prefixed] at eight
      rw [trimHexPrefixes] at six read size
      obtain same | fewer := (utf8Len_trimHexPrefixes rest).2
      · rw [same] at six read
        exact ⟨rest, rfl, six, read⟩
      · omega
    | case2 =>
      rename_i noPrefix
      rw [trimHexPrefixes.eq_2 text noPrefix] at size
      omega
  · rintro ⟨digits, rfl, six, read⟩
    rw [trimHexPrefixes, trimHexPrefixes_of_isHex (isHex_of_digitsValue? read)]
    exact ⟨six, read⟩

theorem parseUnsigned_hex_iff : parseUnsigned 32 16 text = .ok number ↔
    ∃ digits, (text = digits ∨ text = '+' :: digits) ∧ digits ≠ [] ∧
      digitsValue? 16 0 digits = some number ∧ number < 2 ^ 32 := by
  simp only [parseUnsigned_iff_digits? (by decide : 0 < 16), digits?, Option.ite_none_left_eq_some]
  constructor
  · rintro ⟨⟨nonempty, read⟩ | ⟨digits, rfl, nonempty, read⟩, bound⟩
    · exact ⟨text, .inl rfl, nonempty, read, bound⟩
    · exact ⟨digits, .inr rfl, nonempty, read, bound⟩
  · rintro ⟨digits, rfl | rfl, nonempty, read, bound⟩
    · exact ⟨.inl ⟨nonempty, read⟩, bound⟩
    · exact ⟨.inr ⟨digits, rfl, nonempty, read⟩, bound⟩

theorem getFrom_two {letter digit : Char} (known : system? letter = some system)
    (isGroup : group? digit = some group) : getFrom 2 (letter :: digit :: five) = some five := by
  have first : letter.utf8Size = 1 := by
    rw [system?.eq_def] at known
    split at known <;> first | rfl | cases known
  have second : digit.utf8Size = 1 := by
    rw [group?.eq_def] at isGroup
    split at isGroup <;> first | rfl | cases isGroup
  simp [getFrom, first, second]

theorem saeToDtcCode_eq_ok_iff : saeToDtcCode toLowercase text = .ok number ↔
    utf8Len text = 7 ∧ ∃ letter digit rest system group code,
      toLowercase text = letter :: digit :: rest ∧ system? letter = some system ∧
      group? digit = some group ∧ parseUnsigned 32 16 rest = .ok code ∧
      system <<< 22 ||| group <<< 20 ||| code = number := by
  rw [saeToDtcCode]
  generalize toLowercase text = lower
  by_cases seven : utf8Len text = 7
  · obtain _ | ⟨letter, _ | ⟨digit, rest⟩⟩ := lower
    · simp [seven]
    · cases known : system? letter <;> simp [seven, known]
    · cases known : system? letter with
      | none => simp [seven, known]
      | some system =>
        cases isGroup : group? digit with
        | none => simp [seven, known, isGroup]
        | some group =>
          cases read : parseUnsigned 32 16 rest <;>
            simp [seven, known, isGroup, getFrom_two known isGroup, read]
  · simp [seven]

theorem system?_spec {letter : Char} (known : system? letter = some system) :
    letter = "pcbu".toList.getD system 'p' ∧ system < 4 ∧ Legible letter := by
  rw [system?.eq_def] at known
  split at known <;> cases known <;> exact ⟨rfl, by decide, by decide⟩

theorem group?_spec {digit : Char} (isGroup : group? digit = some group) :
    digit = "0123".toList.getD group '0' ∧ group < 4 ∧ Legible digit := by
  rw [group?.eq_def] at isGroup
  split at isGroup <;> cases isGroup <;> exact ⟨rfl, by decide, by decide⟩

theorem legible_of_spelled (spelled : five = digits ∨ five = '+' :: digits)
    (read : digitsValue? 16 0 digits = some code) : ∀ c ∈ five, Legible c := by
  have plain : ∀ c ∈ digits, Legible c := by
    intro c mem
    exact .inl (List.all_eq_true.mp (isHex_of_digitsValue? read) c mem)
  obtain rfl | rfl := spelled
  · exact plain
  · exact List.forall_mem_cons.mpr ⟨.inr (.inl rfl), plain⟩

theorem Sae.utf8Len_eq (sae : Sae text number five digits)
    (spelled : five = digits ∨ five = '+' :: digits) :
    (∀ c ∈ text, c.toNat < 128) ∧ utf8Len text = 7 := by
  obtain ⟨letter, digit, system, group, code, lower, length, known, isGroup, read, _⟩ := sae
  have ascii : ∀ c ∈ text, c.toNat < 128 := by
    apply ascii_of_map_toLower
    rw [lower, List.forall_mem_cons, List.forall_mem_cons]
    exact ⟨(system?_spec known).2.2, (group?_spec isGroup).2.2, legible_of_spelled spelled read⟩
  have count := congrArg List.length lower
  rw [List.length_map, List.length_cons, List.length_cons, length] at count
  exact ⟨ascii, (utf8Len_of_ascii ascii).trans count⟩

theorem fits (spelled : five = digits ∨ five = '+' :: digits) (length : five.length = 5) :
    digits.length ≤ 5 ∧ digits ≠ [] := by
  obtain rfl | rfl := spelled
  · exact ⟨length.le, List.ne_nil_of_length_eq_add_one length⟩
  · have four : digits.length = 4 := Nat.succ.inj length
    exact ⟨four.le.trans (by decide), List.ne_nil_of_length_eq_add_one four⟩

/-- The parts do not overlap. -/
theorem composed (group_lt : group < 4) (code_lt : code < 2 ^ 20) :
    system <<< 22 ||| group <<< 20 ||| code = system * 2 ^ 22 + group * 2 ^ 20 + code := by
  have inner : group * 2 ^ 20 < 2 ^ 22 := by omega
  have outer : 2 ^ 22 * system + group * 2 ^ 20 = 2 ^ 20 * (4 * system + group) := by ring
  rw [Nat.shiftLeft_eq, Nat.shiftLeft_eq, Nat.mul_comm system, ← Nat.two_pow_add_eq_or_of_lt inner,
    outer, ← Nat.two_pow_add_eq_or_of_lt code_lt]

/-- What is read in place of the third form. -/
theorem saeToDtcCode_iff (lowers : LowersAscii toLowercase) :
    saeToDtcCode toLowercase text = .ok number ↔ ∃ five digits,
      (five = digits ∨ five = '+' :: digits) ∧ Sae text number five digits := by
  rw [saeToDtcCode_eq_ok_iff]
  constructor
  · rintro ⟨seven, letter, digit, five, system, group, code, lower, known, isGroup, parsed, rfl⟩
    obtain ⟨digits, spelled, _, read, _⟩ := parseUnsigned_hex_iff.mp parsed
    have legible : ∀ c ∈ toLowercase text, Legible c := by
      rw [lower, List.forall_mem_cons, List.forall_mem_cons]
      exact ⟨(system?_spec known).2.2, (group?_spec isGroup).2.2, legible_of_spelled spelled read⟩
    have ascii : ∀ c ∈ text, c.toNat < 128 := by
      intro c mem
      by_contra above
      obtain ⟨x, present, illegible⟩ := lowers.other text c mem (Nat.le_of_not_lt above)
      exact illegible (legible x present)
    rw [utf8Len_of_ascii ascii] at seven
    rw [lowers.ascii text ascii] at lower
    have count := congrArg List.length lower
    rw [List.length_map, seven, List.length_cons, List.length_cons] at count
    have length : five.length = 5 := by omega
    exact ⟨five, digits, spelled, letter, digit, system, group, code, lower, length, known, isGroup,
      read, composed (group?_spec isGroup).2.1 (lt_of_digitsValue? (fits spelled length).1 read)⟩
  · rintro ⟨five, digits, spelled, sae⟩
    obtain ⟨ascii, seven⟩ := sae.utf8Len_eq spelled
    obtain ⟨letter, digit, system, group, code, lower, length, known, isGroup, read, rfl⟩ := sae
    obtain ⟨short, nonempty⟩ := fits spelled length
    have bound := lt_of_digitsValue? short read
    rw [← lowers.ascii text ascii] at lower
    exact ⟨seven, letter, digit, five, system, group, code, lower, known, isGroup,
      parseUnsigned_hex_iff.mpr ⟨digits, spelled, nonempty, read, by omega⟩,
      composed (group?_spec isGroup).2.1 bound⟩

end Parsers

section Grammar

variable {text : Text} {number : Nat} {form : Form} {toLowercase : Text → Text}

def Form.size : Form → Nat
  | .digits => 6
  | .prefixed => 8
  | .sae => 7

def Form.Accepts (form : Form) (text : Text) (number : Nat) : Prop :=
  form.Writes text number ∨ form = .sae ∧ ∃ digits, Sae text number ('+' :: digits) digits

theorem accepts_sae_iff : Form.sae.Accepts text number ↔ ∃ five digits,
    (five = digits ∨ five = '+' :: digits) ∧ Sae text number five digits := by
  constructor
  · rintro (⟨digits, sae⟩ | ⟨_, digits, sae⟩)
    · exact ⟨digits, digits, .inl rfl, sae⟩
    · exact ⟨_, digits, .inr rfl, sae⟩
  · rintro ⟨_, digits, rfl | rfl, sae⟩
    · exact .inl ⟨_, sae⟩
    · exact .inr ⟨rfl, digits, sae⟩

theorem Form.Accepts.utf8Len_eq (accepts : form.Accepts text number) :
    utf8Len text = form.size := by
  have digits_size {digits : Text} {number : Nat} (six : digits.length = 6)
      (read : digitsValue? 16 0 digits = some number) : utf8Len digits = 6 := by
    rw [utf8Len_of_ascii (ascii_of_isHex (isHex_of_digitsValue? read)), six]
  cases form with
  | digits =>
    obtain ⟨six, read⟩ | ⟨⟨⟩, _⟩ := accepts
    exact digits_size six read
  | prefixed =>
    obtain ⟨digits, rfl, six, read⟩ | ⟨⟨⟩, _⟩ := accepts
    rw [utf8Len_prefixed, digits_size six read]
    rfl
  | sae =>
    obtain ⟨five, digits, spelled, sae⟩ := accepts_sae_iff.mp accepts
    exact (sae.utf8Len_eq spelled).2

theorem decodeDtcFromStr_eq_ok_iff (lowers : LowersAscii toLowercase) :
    decodeDtcFromStr toLowercase text = .ok number ↔ ∃ form : Form, form.Accepts text number := by
  have ofSize (form : Form) (size : utf8Len text = form.size) :
      decodeDtcFromStr toLowercase text = .ok number ↔ form.Accepts text number := by
    rw [decodeDtcFromStr, size]
    cases form with
    | digits =>
      exact (decodeBytes_eq_ok_iff (by rw [size]; rfl)).trans (or_iff_left (by simp)).symm
    | prefixed => exact (decodePrefixed_eq_ok_iff size).trans (or_iff_left (by simp)).symm
    | sae => exact (saeToDtcCode_iff lowers).trans accepts_sae_iff.symm
  constructor
  · intro read
    have known : ∃ form : Form, utf8Len text = form.size := by
      rw [decodeDtcFromStr] at read
      split at read
      case h_1 six => exact ⟨.digits, six⟩
      case h_2 eight => exact ⟨.prefixed, eight⟩
      case h_3 seven => exact ⟨.sae, seven⟩
      case h_4 => cases read
    obtain ⟨form, size⟩ := known
    exact ⟨form, (ofSize form size).mp read⟩
  · rintro ⟨form, accepts⟩
    exact (ofSize form accepts.utf8Len_eq).mpr accepts

theorem Form.Accepts.lt (accepts : form.Accepts text number) : number < 2 ^ 24 := by
  cases form with
  | digits =>
    obtain ⟨length, read⟩ | ⟨⟨⟩, _⟩ := accepts
    exact (digitsValue?_lt read).trans_eq (by rw [length]; rfl)
  | prefixed =>
    obtain ⟨digits, _, length, read⟩ | ⟨⟨⟩, _⟩ := accepts
    exact (digitsValue?_lt read).trans_eq (by rw [length]; rfl)
  | sae =>
    obtain ⟨five, digits, spelled, sae⟩ := accepts_sae_iff.mp accepts
    obtain ⟨_, _, system, group, code, _, length, known, isGroup, read, rfl⟩ := sae
    have bound := lt_of_digitsValue? (fits spelled length).1 read
    have system_lt := (system?_spec known).2.1
    have group_lt := (group?_spec isGroup).2.1
    omega

/-- A text of a form is determined by its code, but for the case. -/
theorem Form.Writes.toLower_eq {other : Text} (writes : form.Writes text number)
    (same : form.Writes other number) : text.map Char.toLower = other.map Char.toLower := by
  cases form with
  | digits => exact map_toLower_of_digitsValue? (writes.1.trans same.1.symm) writes.2 same.2
  | prefixed =>
    obtain ⟨digits, rfl, length, read⟩ := writes
    obtain ⟨others, rfl, length', read'⟩ := same
    simp only [List.map_cons, map_toLower_of_digitsValue? (length.trans length'.symm) read read']
  | sae =>
    obtain ⟨digits, _, _, system, group, code, lower, length, known, isGroup, read, rfl⟩ := writes
    obtain ⟨digits', _, _, system', group', code', lower', length', known', isGroup', read',
      equal⟩ := same
    have bound := lt_of_digitsValue? length.le read
    have bound' := lt_of_digitsValue? length'.le read'
    obtain ⟨letter, _, _⟩ := system?_spec known
    obtain ⟨letter', _, _⟩ := system?_spec known'
    obtain ⟨digit, group_lt, _⟩ := group?_spec isGroup
    obtain ⟨digit', group_lt', _⟩ := group?_spec isGroup'
    obtain ⟨rfl, rfl, rfl⟩ : system = system' ∧ group = group' ∧ code = code' := by omega
    -- what is in lower case stays so
    have lowered (text : Text) :
        (text.map Char.toLower).map Char.toLower = text.map Char.toLower := by
      simp [Lookup.toLower_toLower]
    rw [← lowered text, ← lowered other, lower, lower', letter, letter', digit, digit']
    simp only [List.map_cons, map_toLower_of_digitsValue? (length.trans length'.symm) read read']

theorem not_writes_of_signed (signed : Signed text) : ¬form.Writes text number := by
  obtain ⟨code, digits, sae⟩ := signed
  have seven := (sae.utf8Len_eq (.inr rfl)).2
  intro writes
  have size := (Form.Accepts.utf8Len_eq (.inl writes)).symm.trans seven
  cases form with
  | digits | prefixed => cases size
  | sae =>
    obtain ⟨_, _, _, _, _, lower, _⟩ := sae
    obtain ⟨_, _, _, _, _, _, again, _, _, _, read, _⟩ := writes
    cases lower.symm.trans again
    simp [digitsValue?, toDigit_plus] at read

end Grammar

theorem conforms_iff {toLowercase : Text → Text} (lowers : LowersAscii toLowercase) (text : Text) :
    Conforms toLowercase text ↔ ¬Signed text := by
  constructor
  · rintro conforms signed
    obtain ⟨code, digits, sae⟩ := signed
    have accepted := (decodeDtcFromStr_eq_ok_iff lowers).mpr ⟨.sae, .inr ⟨rfl, digits, sae⟩⟩
    obtain ⟨form, number, writes⟩ := conforms.accepted.mp ⟨code, accepted⟩
    exact not_writes_of_signed ⟨code, digits, sae⟩ writes
  · intro unsigned
    have reads (form : Form) (text : Text) (number : Nat) (writes : form.Writes text number) :
        decodeDtcFromStr toLowercase text = .ok number :=
      (decodeDtcFromStr_eq_ok_iff lowers).mpr ⟨form, .inl writes⟩
    constructor
    case accepted =>
      constructor
      · rintro ⟨number, read⟩
        obtain ⟨form, accepts⟩ := (decodeDtcFromStr_eq_ok_iff lowers).mp read
        refine ⟨form, number, accepts.resolve_right fun signed => ?_⟩
        obtain ⟨_, digits, sae⟩ := signed
        exact unsigned ⟨number, digits, sae⟩
      · rintro ⟨form, number, writes⟩
        exact ⟨number, reads form text number writes⟩
    case bounded =>
      intro number read
      obtain ⟨form, accepts⟩ := (decodeDtcFromStr_eq_ok_iff lowers).mp read
      exact accepts.lt
    case sae =>
      intro number digits writes six
      exact ⟨reads .sae text number writes, reads .digits digits number six⟩
    case injective =>
      intro form other number number' writes again same
      rw [reads form text number writes, reads form other number' again] at same
      obtain rfl := Except.ok.inj same
      exact writes.toLower_eq again

theorem lowersAscii_map : LowersAscii (List.map Char.toLower) where
  ascii _ _ := rfl
  other _ c mem above := by
    have other := Nat.not_lt.mpr above
    refine ⟨c, List.mem_map.mpr ⟨c, mem, toLower_of_not_ascii other⟩, fun legible => ?_⟩
    exact other (ascii_of_legible legible)

theorem conforms_iff_network :
    Conforms (List.map Char.toLower) ['U', '3', 'f', 'F', '0', '1', 'a'] :=
  (conforms_iff lowersAscii_map _).mpr fun ⟨_, _, _, _, _, _, _, same, _⟩ => by cases same

/-- `P0+1234` is read as `P01234` would be, which is no code. -/
theorem not_conforms_signed :
    ¬∀ toLowercase text, LowersAscii toLowercase → Conforms toLowercase text := by
  intro everyTextConforms
  have conforms :=
    everyTextConforms (List.map Char.toLower) ['P', '0', '+', '1', '2', '3', '4'] lowersAscii_map
  obtain ⟨form, number, writes⟩ := conforms.accepted.mp ⟨0x1234, rfl⟩
  exact not_writes_of_signed
    ⟨0x1234, ['1', '2', '3', '4'], 'p', '0', 0, 0, 0x1234, rfl, rfl, rfl, rfl, rfl, rfl⟩ writes

end DiagnosticAdapter.Uds
