import DiagnosticAdapter.Codec.PlainField
import DiagnosticAdapter.Codec.StandardWrite
import DiagnosticAdapter.Kernel.IntegerText
import DiagnosticAdapter.Kernel.MatchingRequest

/-!
# Constants in requests and responses

`process_coded_constants` writes the value of a constant, `map_param_coded_const_from_uds`
compares it with what it reads.  The encoder tries to read the text as a number first, the
decoder reads it by its data type.
-/

namespace DiagnosticAdapter.Kernel

open Bits Codec Effects Decoder

variable {conv : Conversions}

def writtenConst (conv : Conversions) (diagType : DiagCodedType) (text : Text) :
    Except DiagServiceError (List UInt8) := do
  let json ← constJsonValue conv text diagType.baseDatatype
  jsonValueToUdsData conv diagType none none json

def typedConst (conv : Conversions) (diagType : DiagCodedType) (text : Text) :
    Except DiagServiceError (List UInt8) := do
  let json ← strToJsonValue conv text diagType.baseDatatype
  jsonValueToUdsData conv diagType none none json

def lastBytes (bitLength : Nat) (data : List UInt8) : List UInt8 :=
  data.drop (data.length - byteLen bitLength)

namespace Parameter

variable (param : Parameter conv) (name : Text)

def AcceptsConst (payload : List UInt8) : Prop :=
  ∃ final, mapParamCodedConstFromUds name (.new param 0) (.new payload) = .ok () final

/-- The encoder makes payloads of the constants that the decoder can take, and only such. -/
structure ConstAgrees : Prop where
  encodes : (∃ payload, param.AcceptsConst name payload) →
    ∃ payload, processCodedConstants [param] = .ok payload ∧ param.AcceptsConst name payload
  accepts : ∀ payload, processCodedConstants [param] = .ok payload → param.AcceptsConst name payload

end Parameter

section Constants

variable {param : Parameter conv} {name text : Text} {diagType : DiagCodedType}
  {slt : StandardLengthType}
  (specific : param.specificData = .codedConst ⟨some (.ok diagType), some text⟩)
  (standard : diagType.type_ = .standardLength slt) (unmasked : slt.bitMask = none)

include specific

theorem processCodedConstants_eq_ok_iff (payload : List UInt8) :
    processCodedConstants [param] = .ok payload ↔
      ∃ data, writtenConst conv diagType text = .ok data ∧
        diagType.encode data [] param.bytePosition param.bitPosition = .ok payload := by
  have single : processCodedConstants [param] =
      encodeCodedConst param ⟨some (.ok diagType), some text⟩ [] := by
    rw [processCodedConstants, List.foldlM_cons, specific]
    exact bind_pure _
  rw [single]
  simp only [encodeCodedConst, writtenConst, except_bind_eq_ok_iff]
  constructor
  · intro encoded
    obtain ⟨json, read, data, converted, written⟩ := encoded
    exact ⟨data, ⟨json, read, converted⟩, written⟩
  · intro encoded
    obtain ⟨data, ⟨json, read, converted⟩, written⟩ := encoded
    exact ⟨json, read, data, converted, written⟩

include standard unmasked

theorem acceptsConst_iff (payload : List UInt8) : param.AcceptsConst name payload ↔
      param.bytePosition + byteLen slt.bitLength ≤ payload.length ∧
        ∃ data, typedConst conv diagType text = .ok data ∧ diagType.readField slt param.bitPosition
            (DiagCodedType.fieldBytes slt payload param.bytePosition) =
              .ok (lastBytes slt.bitLength data, slt.bitLength) := by
  have inContext : (ParamContext.new param 0).parameter.specificData =
      .codedConst ⟨some (.ok diagType), some text⟩ := specific
  have stores := stores_codedConst (shows_new payload) inContext rfl name
  have plain : (Content.constant diagType (some text) : Content conv).unmasked? = some slt := by
    simp [Content.unmasked?, standard, unmasked]
  have position : (ParamContext.new param 0).absBytePos = param.bytePosition := Nat.zero_add _
  rw [position] at stores
  have taken : param.AcceptsConst name payload ↔ ∃ container next,
      (Content.constant diagType (some text) : Content conv).read payload
        (DecodeState.new payload : DecodeState conv).data param.bytePosition param.bitPosition =
          .ok (container, next) := by
    constructor
    · intro accepted
      obtain ⟨final, ran⟩ := accepted
      obtain ⟨container, next, read, _⟩ := (stores final).1 ran
      exact ⟨container, next, read⟩
    · intro readable
      obtain ⟨container, next, read⟩ := readable
      exact ⟨_, (stores _).2 ⟨container, next, read, rfl⟩⟩
  rw [taken]
  simp only [Content.read_unmasked_eq_ok_iff plain, Content.fieldValue?, plain,
    Option.bind_eq_bind, Option.bind_some, Option.bind_eq_some_iff, toOption_eq_some_iff]
  constructor
  · intro read
    obtain ⟨container, next, enough, _, read, field, expected, converted, made⟩ := read
    split at made
    · rename_i same
      refine ⟨enough, ?_⟩
      simp only [expectedConst, except_bind_eq_ok_iff] at converted
      obtain ⟨json, parsed, data, bytes, cut⟩ := converted
      cases cut
      obtain ⟨length, _⟩ := DiagCodedType.length_of_readField unmasked field
      obtain ⟨_, _, _, _, counted⟩ := (DiagCodedType.readField_eq_ok_iff unmasked _ _).1 field
      have bits : read.2 = slt.bitLength := congrArg Prod.snd counted
      refine ⟨data, except_bind_eq_ok_iff.2 ⟨json, parsed, bytes⟩, field.trans ?_⟩
      rw [lastBytes, ← length, ← same]
      exact congrArg _ (Prod.ext rfl bits)
    · cases made
  · intro accepted
    obtain ⟨enough, data, typed, field⟩ := accepted
    simp only [typedConst, except_bind_eq_ok_iff] at typed
    obtain ⟨json, parsed, bytes⟩ := typed
    obtain ⟨length, _⟩ := DiagCodedType.length_of_readField unmasked field
    refine ⟨_, _, enough, rfl, _, field, lastBytes slt.bitLength data, ?_, if_pos rfl⟩
    simp only [expectedConst, except_bind_eq_ok_iff]
    refine ⟨json, parsed, data, bytes, ?_⟩
    dsimp only at length
    rw [length]
    rfl

/-- The decoder can take the last bytes of the value, where they exist and the field can
hold them. -/
theorem exists_acceptsConst_iff (aligned : diagType.validateBitPos param.bitPosition = .ok ())
    (valid : diagType.baseDatatype.validateBitLen slt.bitLength = .ok ())
    (position : param.bitPosition ≤ 7) :
    (∃ payload, param.AcceptsConst name payload) ↔
      ∃ data, typedConst conv diagType text = .ok data ∧
        param.bitPosition + slt.bitLength ≤ 8 * byteLen slt.bitLength ∧
        byteLen slt.bitLength ≤ data.length ∧
        value (lastBytes slt.bitLength data) < 2 ^ slt.bitLength := by
  have bound : 2 ^ slt.bitLength ≤ 2 ^ (8 * byteLen slt.bitLength) := by
    apply Nat.pow_le_pow_right (by decide)
    rw [byteLen]
    omega
  constructor
  · intro taken
    obtain ⟨payload, accepted⟩ := taken
    obtain ⟨enough, data, typed, field⟩ := (acceptsConst_iff specific standard unmasked _).1 accepted
    obtain ⟨_, _, _, fits, read⟩ := (DiagCodedType.readField_eq_ok_iff unmasked _ _).1 field
    have cut : (DiagCodedType.fieldBytes slt payload param.bytePosition).length =
        byteLen slt.bitLength := by
      rw [DiagCodedType.fieldBytes, List.length_take, List.length_drop]
      omega
    rw [cut] at fits
    have same := congrArg Prod.fst read
    dsimp only at same
    have length := congrArg List.length same
    rw [lastBytes, List.length_drop, length_toBeBytes] at length
    refine ⟨data, typed, fits, by omega, ?_⟩
    have small := Nat.mod_lt (value (normalizeByteOrder (DiagCodedType.fieldBytes slt payload
      param.bytePosition) diagType.byteOrder) / 2 ^ param.bitPosition)
      (Nat.two_pow_pos slt.bitLength)
    rw [same, value_toBeBytes_of_lt (small.trans_le bound)]
    exact small
  · intro readable
    obtain ⟨data, typed, fits, enough, small⟩ := readable
    obtain ⟨field, length, read⟩ := DiagCodedType.exists_readField unmasked aligned valid position
      fits small
    refine ⟨List.replicate param.bytePosition 0 ++ field, ?_⟩
    have cut : DiagCodedType.fieldBytes slt (List.replicate param.bytePosition 0 ++ field)
        param.bytePosition = field := by
      rw [DiagCodedType.fieldBytes, List.drop_left' (List.length_replicate), ← length,
        List.take_length]
    have same : toBeBytes (byteLen slt.bitLength) (value (lastBytes slt.bitLength data)) =
        lastBytes slt.bitLength data := by
      apply eq_of_value_eq
      · rw [length_toBeBytes, lastBytes, List.length_drop]
        omega
      · exact value_toBeBytes_of_lt (small.trans_le bound)
    rw [acceptsConst_iff specific standard unmasked, cut, read, same]
    refine ⟨?_, data, typed, rfl⟩
    rw [List.length_append, List.length_replicate, length]

theorem constAgrees_of_misplaced
    (misplaced : diagType.validateBitPos param.bitPosition = .ok () → ¬param.bitPosition ≤ 7) :
    param.ConstAgrees name := by
  constructor
  · intro taken
    obtain ⟨payload, accepted⟩ := taken
    obtain ⟨_, data, _, field⟩ := (acceptsConst_iff specific standard unmasked _).1 accepted
    obtain ⟨aligned, _, position, _⟩ := (DiagCodedType.readField_eq_ok_iff unmasked _ _).1 field
    exact absurd position (misplaced aligned)
  · intro payload encoded
    obtain ⟨data, _, written⟩ := (processCodedConstants_eq_ok_iff specific payload).1 encoded
    obtain ⟨aligned, _, position⟩ := DiagCodedType.checks_of_encode standard unmasked written
    exact absurd position (misplaced aligned)

theorem constAgrees_iff_of_unwritten (aligned : diagType.validateBitPos param.bitPosition = .ok ())
    (valid : diagType.baseDatatype.validateBitLen slt.bitLength = .ok ())
    (position : param.bitPosition ≤ 7)
    (unwritten : ∀ data, writtenConst conv diagType text ≠ .ok data) :
    param.ConstAgrees name ↔ ∀ data, typedConst conv diagType text = .ok data →
      param.bitPosition + slt.bitLength ≤ 8 * byteLen slt.bitLength →
        data.length < byteLen slt.bitLength ∨
          2 ^ slt.bitLength ≤ value (lastBytes slt.bitLength data) := by
  have refused (payload : List UInt8) : processCodedConstants [param] ≠ .ok payload := by
    intro encoded
    obtain ⟨data, written, _⟩ := (processCodedConstants_eq_ok_iff specific payload).1 encoded
    exact unwritten data written
  constructor
  · intro agrees data typed fits
    by_contra readable
    rw [not_or, Nat.not_lt, Nat.not_le] at readable
    obtain ⟨payload, encoded, _⟩ := agrees.encodes ((exists_acceptsConst_iff specific standard
      unmasked aligned valid position).2 ⟨data, typed, fits, readable⟩)
    exact refused payload encoded
  · intro unreadable
    constructor
    · intro taken
      obtain ⟨data, typed, fits, enough, small⟩ := (exists_acceptsConst_iff specific standard
        unmasked aligned valid position).1 taken
      rcases unreadable data typed fits with short | large <;> omega
    · intro payload encoded
      exact absurd encoded (refused payload)

theorem constAgrees_iff_of_written (aligned : diagType.validateBitPos param.bitPosition = .ok ())
    (valid : diagType.baseDatatype.validateBitLen slt.bitLength = .ok ())
    (position : param.bitPosition ≤ 7) {data bytes : List UInt8}
    (written : writtenConst conv diagType text = .ok data)
    (copied : copyData slt.bitLength data diagType.alignment = .ok bytes) :
    param.ConstAgrees name ↔ param.bitPosition + slt.bitLength ≤ 8 * byteLen slt.bitLength ∧
        ∃ typed, typedConst conv diagType text = .ok typed ∧ byteLen slt.bitLength ≤ typed.length ∧
          value bytes % 2 ^ slt.bitLength = value (lastBytes slt.bitLength typed) := by
  obtain ⟨payload, encoded, enough, reads⟩ := DiagCodedType.readField_of_encode standard unmasked
    aligned valid position copied param.bytePosition
  have only (other : List UInt8) : processCodedConstants [param] = .ok other ↔ other = payload := by
    rw [processCodedConstants_eq_ok_iff specific]
    constructor
    · intro made
      obtain ⟨_, again, encodedAgain⟩ := made
      cases written.symm.trans again
      cases encoded.symm.trans encodedAgain
      rfl
    · intro same
      rw [same]
      exact ⟨data, written, encoded⟩
  have agrees : param.ConstAgrees name ↔ param.AcceptsConst name payload := by
    constructor
    · intro agrees
      exact agrees.accepts payload ((only payload).2 rfl)
    · intro accepted
      constructor
      · intro _
        exact ⟨payload, (only payload).2 rfl, accepted⟩
      · intro other made
        rw [(only other).1 made]
        exact accepted
  rw [agrees, acceptsConst_iff specific standard unmasked]
  have cut : (DiagCodedType.fieldBytes slt payload param.bytePosition).length =
      byteLen slt.bitLength := by
    rw [DiagCodedType.fieldBytes, List.length_take, List.length_drop]
    omega
  have bound : value bytes % 2 ^ slt.bitLength < 2 ^ (8 * byteLen slt.bitLength) := by
    apply (Nat.mod_lt _ (Nat.two_pow_pos _)).trans_le
    apply Nat.pow_le_pow_right (by decide)
    rw [byteLen]
    omega
  constructor
  · intro accepted
    obtain ⟨_, typed, isTyped, field⟩ := accepted
    obtain ⟨_, _, _, fits, _⟩ := (DiagCodedType.readField_eq_ok_iff unmasked _ _).1 field
    rw [cut] at fits
    have same := congrArg Prod.fst (Except.ok.inj ((reads fits).symm.trans field))
    dsimp only at same
    have length := congrArg List.length same
    rw [lastBytes, List.length_drop, length_toBeBytes] at length
    refine ⟨fits, typed, isTyped, by omega, ?_⟩
    rw [← same, value_toBeBytes_of_lt bound]
  · intro condition
    obtain ⟨fits, typed, isTyped, long, same⟩ := condition
    refine ⟨enough, typed, isTyped, ?_⟩
    rw [reads fits]
    congr 2
    apply eq_of_value_eq
    · rw [length_toBeBytes, lastBytes, List.length_drop]
      omega
    · rw [value_toBeBytes_of_lt bound, same]

end Constants

section Numbers

variable {text : Text}

theorem exists_number_of_tryParse {json : JsonValue}
    (parsed : tryParseStrAsJsonNumber conv text = .ok json) : ∃ number, json = .number number := by
  simp only [tryParseStrAsJsonNumber] at parsed
  split at parsed
  · cases parsed
    exact ⟨_, rfl⟩
  · split at parsed
    · cases parsed
      exact ⟨_, rfl⟩
    · split at parsed
      · cases parsed
      · split at parsed
        · cases parsed
          exact ⟨_, rfl⟩
        · cases parsed

theorem tryParse_cases (conv : Conversions) (text : Text) :
    (∃ number, integer? 10 text = some number ∧ -2 ^ 63 ≤ number ∧ number < 2 ^ 63 ∧
      tryParseStrAsJsonNumber conv text = .ok (.number (.ofInt number))) ∨
    (∃ number : Nat, integer? 10 text = some (number : Int) ∧ 2 ^ 63 ≤ number ∧ number < 2 ^ 64 ∧
      tryParseStrAsJsonNumber conv text = .ok (.number (.posInt number))) ∨
    ((∀ number, integer? 10 text = some number → number < -2 ^ 63 ∨ 2 ^ 64 ≤ number) ∧
      ∀ json, tryParseStrAsJsonNumber conv text = .ok json →
        ∃ bytes, json = .number (.float bytes)) := by
  simp only [tryParseStrAsJsonNumber]
  cases signed : parseSigned 64 10 text with
  | ok number =>
    obtain ⟨value, above, below⟩ := (parseSigned_eq_ok_iff (by decide) text number).1 signed
    exact .inl ⟨number, value, above, below, rfl⟩
  | error failure =>
    have outside (number : Int) (value : integer? 10 text = some number) :
        number < -2 ^ 63 ∨ 2 ^ 63 ≤ number := by
      by_contra inside
      rw [not_or] at inside
      have parsed : parseSigned 64 10 text = .ok number :=
        (parseSigned_eq_ok_iff (by decide) text number).2 ⟨value, by omega, by omega⟩
      rw [signed] at parsed
      cases parsed
    cases unsigned : parseUnsigned 64 10 text with
    | ok number =>
      obtain ⟨value, _, below⟩ := (parseUnsigned_eq_ok_iff (by decide) text number).1 unsigned
      have large := outside number value
      exact .inr (.inl ⟨number, value, by omega, below, rfl⟩)
    | error failure =>
      refine .inr (.inr ⟨fun number value => ?_, fun json parsed => ?_⟩)
      · rcases outside number value with low | high
        · exact .inl low
        · by_contra inside
          rw [not_or] at inside
          have plain : text.head? ≠ some '-' := by
            intro minus
            have nonpos := nonpos_of_minus minus value
            omega
          have parsed : parseUnsigned 64 10 text = .ok number.toNat :=
            (parseUnsigned_eq_ok_iff (by decide) text number.toNat).2
              ⟨by rw [Int.toNat_of_nonneg (by omega)]; exact value, plain, by omega⟩
          rw [unsigned] at parsed
          cases parsed
      · dsimp only at parsed
        split at parsed
        · cases parsed
        · split at parsed
          · cases parsed
            exact ⟨_, rfl⟩
          · cases parsed

theorem asI64_ofInt {number : Int} (small : number < 2 ^ 63) :
    (JsonNumber.ofInt number).asI64 = some number := by
  rw [JsonNumber.ofInt]
  split
  · rw [JsonNumber.asI64, if_pos (by omega)]
    exact congrArg some (Int.toNat_of_nonneg (by assumption))
  · rfl

theorem tryParse_asI64_iff (number : Int) :
    (∃ json, tryParseStrAsJsonNumber conv text = .ok (.number json) ∧ json.asI64 = some number) ↔
      integer? 10 text = some number ∧ -2 ^ 63 ≤ number ∧ number < 2 ^ 63 := by
  rcases tryParse_cases conv text with ⟨found, value, above, below, parsed⟩ |
    ⟨found, value, above, below, parsed⟩ | ⟨outside, float⟩
  · have read := asI64_ofInt below
    rw [parsed, value]
    constructor
    · intro found
      obtain ⟨json, same, number⟩ := found
      cases same
      rw [read] at number
      cases number
      exact ⟨rfl, above, below⟩
    · intro found
      cases found.1
      exact ⟨_, rfl, read⟩
  · rw [parsed, value]
    constructor
    · intro found
      obtain ⟨json, same, number⟩ := found
      cases same
      rw [JsonNumber.asI64, if_neg (by omega)] at number
      cases number
    · intro found
      cases found.1
      omega
  · constructor
    · intro found
      obtain ⟨json, parsed, number⟩ := found
      obtain ⟨bytes, same⟩ := float _ parsed
      cases same
      cases number
    · intro found
      rcases outside number found.1 with low | high <;> omega

theorem tryParse_asU64_iff (number : Nat) :
    (∃ json, tryParseStrAsJsonNumber conv text = .ok (.number json) ∧ json.asU64 = some number) ↔
      integer? 10 text = some (number : Int) ∧ number < 2 ^ 64 := by
  rcases tryParse_cases conv text with ⟨found, value, above, below, parsed⟩ |
    ⟨found, value, above, below, parsed⟩ | ⟨outside, float⟩
  · rw [parsed, value, JsonNumber.ofInt]
    constructor
    · intro found
      obtain ⟨json, same, number⟩ := found
      split at same
      · cases same
        cases number
        exact ⟨congrArg some (Int.toNat_of_nonneg (by assumption)).symm, by omega⟩
      · cases same
        cases number
    · intro same
      cases same.1
      rw [if_pos (by omega)]
      exact ⟨_, rfl, rfl⟩
  · rw [parsed, value]
    constructor
    · intro found
      obtain ⟨json, same, number⟩ := found
      cases same
      cases number
      exact ⟨rfl, below⟩
    · intro same
      obtain rfl := Int.ofNat.inj (Option.some.inj same.1)
      exact ⟨_, rfl, rfl⟩
  · constructor
    · intro found
      obtain ⟨json, parsed, number⟩ := found
      obtain ⟨bytes, same⟩ := float _ parsed
      cases same
      cases number
    · intro found
      rcases outside number found.1 with low | high <;> omega

end Numbers

section Bytes

variable {text : Text} {diagType : DiagCodedType} {slt : StandardLengthType}
  (standard : diagType.type_ = .standardLength slt) (positive : 0 < slt.bitLength)

def textBytes (base : DataType) (text : Text) : Except DiagServiceError (List UInt8) :=
  match base with
  | .byteField => decodeHexWithOptionalPrefix text
  | _ => .ok (String.ofList text).toUTF8.toList

include standard in
theorem bitLen_getD_of_standard : diagType.bitLen.getD 32 = slt.bitLength := by
  rw [DiagCodedType.bitLen, standard]
  rfl

theorem validateBitLenSigned_eq_ok_iff {typeBits bitLen : Nat} {number : Int} :
    validateBitLenSigned typeBits number bitLen = .ok () ↔ 0 < bitLen ∧
      -2 ^ (min bitLen typeBits - 1) ≤ number ∧ number < 2 ^ (min bitLen typeBits - 1) := by
  have bound : (if bitLen < typeBits then 2 ^ (bitLen - 1) else 2 ^ (typeBits - 1) : Int) =
      2 ^ (min bitLen typeBits - 1) := by
    split
    · rw [Nat.min_eq_left (by omega)]
    · rw [Nat.min_eq_right (by omega)]
  simp only [validateBitLenSigned, bound]
  split_ifs <;> simp <;> omega

theorem validateBitLenUnsigned_eq_ok_iff {typeBits number bitLen : Nat} :
    validateBitLenUnsigned typeBits number bitLen = .ok () ↔ 0 < bitLen ∧
      number < 2 ^ min bitLen typeBits := by
  have bound : (if bitLen < typeBits then 2 ^ bitLen - 1 else 2 ^ typeBits - 1) =
      2 ^ min bitLen typeBits - 1 := by
    split
    · rw [Nat.min_eq_left (by omega)]
    · rw [Nat.min_eq_right (by omega)]
  have positive := Nat.two_pow_pos (min bitLen typeBits)
  simp only [validateBitLenUnsigned, bound]
  split_ifs <;> simp <;> omega

theorem signed_range_iff (bitLen : Nat) (number : Int) :
    (-2 ^ (min bitLen 64 - 1) ≤ number ∧ number < 2 ^ (min bitLen 64 - 1)) ∧
        (-2 ^ 31 ≤ number ∧ number < 2 ^ 31) ↔
      -2 ^ (min bitLen 32 - 1) ≤ number ∧ number < 2 ^ (min bitLen 32 - 1) := by
  rcases Nat.le_total bitLen 32 with narrow | wide
  · have bound : (2 : Int) ^ (bitLen - 1) ≤ 2 ^ 31 :=
      pow_le_pow_right₀ (by decide) (by omega)
    rw [Nat.min_eq_left (by omega), Nat.min_eq_left narrow]
    omega
  · have bound : (2 : Int) ^ 31 ≤ 2 ^ (min bitLen 64 - 1) :=
      pow_le_pow_right₀ (by decide) (by omega)
    rw [Nat.min_eq_right wide]
    omega

theorem unsigned_range_iff (bitLen number : Nat) :
    number < 2 ^ min bitLen 64 ∧ number < 2 ^ 32 ↔ number < 2 ^ min bitLen 32 := by
  rcases Nat.le_total bitLen 32 with narrow | wide
  · have bound : 2 ^ bitLen ≤ 2 ^ 32 := Nat.pow_le_pow_right (by decide) narrow
    rw [Nat.min_eq_left (by omega), Nat.min_eq_left narrow]
    omega
  · have bound : 2 ^ 32 ≤ 2 ^ min bitLen 64 := Nat.pow_le_pow_right (by decide) (by omega)
    rw [Nat.min_eq_right wide]
    omega

include standard positive

theorem int32_bytes_iff (base : diagType.baseDatatype = .int32) (json : JsonNumber)
    (data : List UInt8) :
    jsonValueToUdsData conv diagType none none (.number json) = .ok data ↔
      ∃ number, json.asI64 = some number ∧ -2 ^ (min slt.bitLength 32 - 1) ≤ number ∧
        number < 2 ^ (min slt.bitLength 32 - 1) ∧ data = i32ToBeBytes number := by
  simp only [jsonValueToUdsData, Option.filter_none, base, numericJsonValueToByteVector,
    processNumericJsonValue, bitLen_getD_of_standard standard, except_bind_eq_ok_iff]
  cases json.asI64 with
  | none => simp
  | some number =>
    simp only [except_bind_eq_ok_iff, Option.some.injEq, exists_eq_left']
    constructor
    · intro converted
      obtain ⟨_, ⟨_, checked, made⟩, _, _, same⟩ := converted
      cases same
      split at made
      · rename_i narrow
        cases made
        obtain ⟨_, range⟩ := validateBitLenSigned_eq_ok_iff.1 checked
        obtain ⟨above, below⟩ := (signed_range_iff slt.bitLength number).1 ⟨range, narrow⟩
        exact ⟨above, below, rfl⟩
      · cases made
    · intro found
      obtain ⟨above, below, rfl⟩ := found
      obtain ⟨range, narrow⟩ := (signed_range_iff slt.bitLength number).2 ⟨above, below⟩
      refine ⟨i32ToBeBytes number,
        ⟨(), validateBitLenSigned_eq_ok_iff.2 ⟨positive, range⟩, if_pos narrow⟩, (), ?_, rfl⟩
      rw [validateDataLength, if_neg (by simp [i32ToBeBytes]), if_neg (by simp)]

theorem uint32_bytes_iff (base : diagType.baseDatatype = .uint32) (json : JsonNumber)
    (data : List UInt8) :
    jsonValueToUdsData conv diagType none none (.number json) = .ok data ↔
      ∃ number, json.asU64 = some number ∧ number < 2 ^ min slt.bitLength 32 ∧
        data = toBeBytes 4 number := by
  simp only [jsonValueToUdsData, Option.filter_none, base, numericJsonValueToByteVector,
    processNumericJsonValue, bitLen_getD_of_standard standard, except_bind_eq_ok_iff]
  cases json.asU64 with
  | none => simp
  | some number =>
    simp only [except_bind_eq_ok_iff, Option.some.injEq, exists_eq_left']
    constructor
    · intro converted
      obtain ⟨_, ⟨_, checked, made⟩, _, _, same⟩ := converted
      cases same
      split at made
      · rename_i narrow
        cases made
        obtain ⟨_, range⟩ := validateBitLenUnsigned_eq_ok_iff.1 checked
        exact ⟨(unsigned_range_iff slt.bitLength number).1 ⟨range, narrow⟩, rfl⟩
      · cases made
    · intro found
      obtain ⟨small, rfl⟩ := found
      obtain ⟨range, narrow⟩ := (unsigned_range_iff slt.bitLength number).2 small
      refine ⟨toBeBytes 4 number,
        ⟨(), validateBitLenUnsigned_eq_ok_iff.2 ⟨positive, range⟩, if_pos narrow⟩, (), ?_, rfl⟩
      rw [validateDataLength, if_neg (by simp), if_neg (by simp)]

theorem int32_const_iff (base : diagType.baseDatatype = .int32) (data : List UInt8) :
    (writtenConst conv diagType text = .ok data ↔ typedConst conv diagType text = .ok data) ∧
      (typedConst conv diagType text = .ok data ↔ ∃ number, integer? 10 text = some number ∧
        -2 ^ (min slt.bitLength 32 - 1) ≤ number ∧ number < 2 ^ (min slt.bitLength 32 - 1) ∧
        data = i32ToBeBytes number) := by
  have bound : (2 : Int) ^ (min slt.bitLength 32 - 1) ≤ 2 ^ 31 :=
    pow_le_pow_right₀ (by decide) (by omega)
  have typed : typedConst conv diagType text = .ok data ↔ ∃ number, integer? 10 text = some number ∧
      -2 ^ (min slt.bitLength 32 - 1) ≤ number ∧ number < 2 ^ (min slt.bitLength 32 - 1) ∧
      data = i32ToBeBytes number := by
    simp only [typedConst, except_bind_eq_ok_iff, strToJsonValue, base]
    constructor
    · intro converted
      obtain ⟨json, read, bytes⟩ := converted
      split at read
      · cases read
      · rename_i number parsed
        cases read
        obtain ⟨value, above, below⟩ := (parseSigned_eq_ok_iff (by decide) text number).1 parsed
        obtain ⟨_, same, range⟩ := (int32_bytes_iff standard positive base _ data).1 bytes
        rw [asI64_ofInt (by omega)] at same
        cases same
        exact ⟨number, value, range⟩
    · intro found
      obtain ⟨number, value, above, below, same⟩ := found
      have parsed : parseSigned 32 10 text = .ok number :=
        (parseSigned_eq_ok_iff (by decide) text number).2 ⟨value, by omega, by omega⟩
      rw [parsed]
      exact ⟨_, rfl, (int32_bytes_iff standard positive base _ data).2
        ⟨number, asI64_ofInt (by omega), above, below, same⟩⟩
  refine ⟨?_, typed⟩
  constructor
  · intro written
    rw [writtenConst, except_bind_eq_ok_iff] at written
    obtain ⟨json, read, bytes⟩ := written
    rw [constJsonValue] at read
    split at read
    · rename_i parsed
      cases read
      obtain ⟨number, rfl⟩ := exists_number_of_tryParse parsed
      obtain ⟨value, same, range⟩ := (int32_bytes_iff standard positive base _ data).1 bytes
      exact typed.2 ⟨value, ((tryParse_asI64_iff value).1 ⟨number, parsed, same⟩).1, range⟩
    · exact except_bind_eq_ok_iff.2 ⟨json, read, bytes⟩
  · intro isTyped
    obtain ⟨number, value, above, below, same⟩ := typed.1 isTyped
    obtain ⟨json, parsed, read⟩ := (tryParse_asI64_iff number).2 ⟨value, by omega, by omega⟩
    rw [writtenConst, constJsonValue, parsed]
    exact (int32_bytes_iff standard positive base _ data).2 ⟨number, read, above, below, same⟩

theorem uint32_const_iff (base : diagType.baseDatatype = .uint32) (data : List UInt8) :
    (writtenConst conv diagType text = .ok data ↔ ∃ number : Nat,
      integer? 10 text = some (number : Int) ∧ number < 2 ^ min slt.bitLength 32 ∧
      data = toBeBytes 4 number) ∧
    (typedConst conv diagType text = .ok data ↔ text.head? ≠ some '-' ∧ ∃ number : Nat,
      integer? 10 text = some (number : Int) ∧ number < 2 ^ min slt.bitLength 32 ∧
      data = toBeBytes 4 number) := by
  have bound : 2 ^ min slt.bitLength 32 ≤ 2 ^ 32 := Nat.pow_le_pow_right (by decide) (by omega)
  constructor
  · constructor
    · intro written
      rw [writtenConst, except_bind_eq_ok_iff] at written
      obtain ⟨json, read, bytes⟩ := written
      rw [constJsonValue] at read
      split at read
      · rename_i parsed
        cases read
        obtain ⟨number, rfl⟩ := exists_number_of_tryParse parsed
        obtain ⟨value, same, range⟩ := (uint32_bytes_iff standard positive base _ data).1 bytes
        exact ⟨value, ((tryParse_asU64_iff value).1 ⟨number, parsed, same⟩).1, range⟩
      · simp only [strToJsonValue, base] at read
        split at read
        · cases read
        · rename_i number parsed
          cases read
          obtain ⟨value, _, _⟩ := (parseUnsigned_eq_ok_iff (by decide) text number).1 parsed
          obtain ⟨_, same, range⟩ := (uint32_bytes_iff standard positive base _ data).1 bytes
          cases same
          exact ⟨number, value, range⟩
    · intro found
      obtain ⟨number, value, small, same⟩ := found
      obtain ⟨json, parsed, read⟩ := (tryParse_asU64_iff number).2 ⟨value, by omega⟩
      rw [writtenConst, constJsonValue, parsed]
      exact (uint32_bytes_iff standard positive base _ data).2 ⟨number, read, small, same⟩
  · simp only [typedConst, except_bind_eq_ok_iff, strToJsonValue, base]
    constructor
    · intro converted
      obtain ⟨json, read, bytes⟩ := converted
      split at read
      · cases read
      · rename_i number parsed
        cases read
        obtain ⟨value, plain, _⟩ := (parseUnsigned_eq_ok_iff (by decide) text number).1 parsed
        obtain ⟨_, same, range⟩ := (uint32_bytes_iff standard positive base _ data).1 bytes
        cases same
        exact ⟨plain, number, value, range⟩
    · intro found
      obtain ⟨plain, number, value, small, same⟩ := found
      have parsed : parseUnsigned 32 10 text = .ok number :=
        (parseUnsigned_eq_ok_iff (by decide) text number).2 ⟨value, plain, by omega⟩
      rw [parsed]
      exact ⟨_, rfl, (uint32_bytes_iff standard positive base _ data).2 ⟨number, rfl, small, same⟩⟩

omit standard positive in
theorem text_const_iff (isText : diagType.baseDatatype = .asciiString ∨
      diagType.baseDatatype = .utf8String ∨ diagType.baseDatatype = .unicode2String ∨
      diagType.baseDatatype = .byteField) :
    typedConst conv diagType text = textBytes diagType.baseDatatype text ∧
      ∀ data, writtenConst conv diagType text = .ok data ↔
        (tryParseStrAsJsonNumber conv text).toOption = none ∧
          textBytes diagType.baseDatatype text = .ok data := by
  have bytes (json : JsonValue) : jsonValueToUdsData conv diagType none none json =
      json.asStr.elim (jsonValueToUdsData conv diagType none none json)
        (textBytes diagType.baseDatatype) := by
    cases json with
    | string text =>
      rcases isText with base | base | base | base <;>
        simp [jsonValueToUdsData, base, JsonValue.asStr, textBytes]
    | _ => rfl
  have typed : typedConst conv diagType text = textBytes diagType.baseDatatype text := by
    have read : strToJsonValue conv text diagType.baseDatatype = .ok (.string text) := by
      rcases isText with base | base | base | base <;> rw [base] <;> rfl
    rw [typedConst, read]
    exact bytes (.string text)
  refine ⟨typed, fun data => ?_⟩
  rw [writtenConst, constJsonValue]
  cases parsed : tryParseStrAsJsonNumber conv text with
  | ok json =>
    obtain ⟨number, rfl⟩ := exists_number_of_tryParse parsed
    have refused : ∀ data, jsonValueToUdsData conv diagType none none (.number number) ≠
        .ok data := by
      intro data converted
      rcases isText with base | base | base | base <;>
        simp [jsonValueToUdsData, base, JsonValue.asStr] at converted
    constructor
    · intro converted
      exact absurd converted (refused data)
    · intro found
      cases found.1
  | error failure =>
    rw [← typed, typedConst]
    constructor
    · intro converted
      exact ⟨rfl, converted⟩
    · intro found
      exact found.2

end Bytes

section Kept

variable {bitLength : Nat}

theorem copied_right_iff {data bytes : List UInt8}
    (copied : copyData bitLength data .right = .ok bytes) :
    value bytes % 2 ^ bitLength = value (lastBytes bitLength data) ↔
      Survives bitLength (value (lastBytes bitLength data)) := by
  obtain ⟨result, again, length, bits⟩ := copyData_right_spec bitLength data
  cases copied.symm.trans again
  have last (j : Nat) : (value (lastBytes bitLength data)).testBit j =
      (decide (j < 8 * byteLen bitLength) && (value data).testBit j) := by
    rw [lastBytes, value_drop, Nat.testBit_mod_two_pow]
    by_cases inData : j < 8 * data.length
    · congr 1
      simp only [decide_eq_decide]
      omega
    · simp [testBit_value_of_length_le (Nat.le_of_not_lt inData)]
  have kept (j : Nat) : (value bytes % 2 ^ bitLength).testBit j = (decide (j < bitLength) &&
      (value (lastBytes bitLength data)).testBit j && !decide (Cleared bitLength j)) := by
    rw [Nat.testBit_mod_two_pow, bits, last]
    simp only [Bool.and_assoc]
  rw [Survives, ← DiagCodedType.forall_not_cleared_iff]
  constructor
  · intro same
    have small : value (lastBytes bitLength data) < 2 ^ bitLength := by
      rw [← same]
      exact Nat.mod_lt _ (Nat.two_pow_pos _)
    refine ⟨small, fun j set cleared => ?_⟩
    have bit := kept j
    rw [same, set] at bit
    simp [cleared] at bit
  · intro survives
    obtain ⟨small, clear⟩ := survives
    apply Nat.eq_of_testBit_eq
    intro j
    rw [kept]
    by_cases set : (value (lastBytes bitLength data)).testBit j = true
    · have inField : j < bitLength := by
        by_contra outside
        rw [Nat.testBit_lt_two_pow (small.trans_le (Nat.pow_le_pow_right (by decide)
          (Nat.le_of_not_lt outside)))] at set
        cases set
      simp [set, inField, clear j set]
    · simp [set]

theorem toNat_two_pow (count : Nat) : ((2 : Int) ^ count).toNat = 2 ^ count := by
  have cast : ((2 ^ count : Nat) : Int) = 2 ^ count := by norm_cast
  rw [← cast, Int.toNat_natCast]

theorem value_lastBytes_number (narrow : bitLength ≤ 32) (number : Int) :
    value (lastBytes bitLength (i32ToBeBytes number)) =
      (number % 2 ^ (8 * byteLen bitLength)).toNat := by
  have width : 8 * byteLen bitLength ≤ 32 := by
    rw [byteLen]
    omega
  have divides : (2 : Int) ^ (8 * byteLen bitLength) ∣ 2 ^ 32 := pow_dvd_pow 2 width
  have nonneg : 0 ≤ number % 2 ^ 32 := Int.emod_nonneg _ (by decide)
  have below : number % 2 ^ 32 < 2 ^ 32 := Int.emod_lt_of_pos _ (by decide)
  have count : i32ToBeBytes number = toBeBytes 4 (number % 2 ^ 32).toNat := rfl
  have remaining : 8 * (4 - (4 - byteLen bitLength)) = 8 * byteLen bitLength := by omega
  rw [lastBytes, value_drop, count, length_toBeBytes, remaining,
    value_toBeBytes_of_lt (by omega), ← Int.emod_emod_of_dvd number divides]
  rw [Int.toNat_emod nonneg (Int.le_of_lt (Int.pow_pos (by decide))), toNat_two_pow]

theorem survives_number_iff (positive : 0 < bitLength) {number : Int}
    (above : -2 ^ (bitLength - 1) ≤ number) (below : number < 2 ^ bitLength) :
    Survives bitLength (number % 2 ^ (8 * byteLen bitLength)).toNat ↔
      bitLength % 8 = 0 ∨ 0 ≤ number ∧ number % 256 < 2 ^ (bitLength % 8) := by
  have field := toNat_two_pow bitLength
  have last := toNat_two_pow (bitLength % 8)
  have lastPositive : (0 : Int) < 2 ^ (bitLength % 8) := Int.pow_pos (by decide)
  have half : (2 : Int) ^ bitLength = 2 * 2 ^ (bitLength - 1) := by
    rw [← pow_succ', Nat.sub_add_cancel positive]
  have wide : (2 : Int) ^ bitLength ≤ 2 ^ (8 * byteLen bitLength) := by
    apply pow_le_pow_right₀ (by decide)
    rw [byteLen]
    omega
  rw [Survives]
  rcases Int.lt_or_le number 0 with negative | nonneg
  · have wrapped : number % 2 ^ (8 * byteLen bitLength) = number + 2 ^ (8 * byteLen bitLength) := by
      rw [← Int.add_emod_right, Int.emod_eq_of_lt (by omega) (by omega)]
    rw [wrapped]
    by_cases whole : bitLength % 8 = 0
    · have filled : 8 * byteLen bitLength = bitLength := by
        rw [byteLen]
        omega
      rw [filled]
      simp only [whole, true_or, and_true, iff_true]
      omega
    · have wider : 2 * (2 : Int) ^ bitLength ≤ 2 ^ (8 * byteLen bitLength) := by
        rw [← pow_succ']
        apply pow_le_pow_right₀ (by decide)
        rw [byteLen]
        omega
      constructor
      · intro survives
        omega
      · intro condition
        omega
  · rw [Int.emod_eq_of_lt nonneg (by omega)]
    constructor
    · intro survives
      omega
    · intro condition
      omega

end Kept

/-- Whether the decoder finds a number where the encoder has written it. -/
structure HoldsNumber (bitLength bitPos : Nat) (number : Int) : Prop where
  narrow : bitLength ≤ 32
  fits : bitPos + bitLength ≤ 8 * byteLen bitLength
  kept : bitLength % 8 = 0 ∨ 0 ≤ number ∧ number % 256 < 2 ^ (bitLength % 8)

/-- Numbers that the field can take are held; a text that is no number fills the field, and
its first bytes are its last ones; the decoder cannot take a text that is a number. -/
def ConstCondition (conv : Conversions) (base : DataType) (bitLength bitPos : Nat)
    (text : Text) : Prop :=
  match base with
  | .int32 => bitPos ≤ 7 → ∀ number, integer? 10 text = some number →
      -2 ^ (min bitLength 32 - 1) ≤ number → number < 2 ^ (min bitLength 32 - 1) →
        HoldsNumber bitLength bitPos number
  | .uint32 => bitPos ≤ 7 → ∀ number : Nat, integer? 10 text = some (number : Int) →
      number < 2 ^ min bitLength 32 → text.head? ≠ some '-' ∧ HoldsNumber bitLength bitPos number
  | base => bitPos = 0 → ∀ data, textBytes base text = .ok data →
      if (tryParseStrAsJsonNumber conv text).toOption.isSome then
        data.length < byteLen bitLength ∨ 2 ^ bitLength ≤ value (lastBytes bitLength data)
      else byteLen bitLength ≤ data.length ∧
        value (clearBitsAboveBitLen bitLength (data.take (byteLen bitLength))) % 2 ^ bitLength =
          value (lastBytes bitLength data)

section Condition

variable {param : Parameter conv} {name text : Text} {diagType : DiagCodedType}
  {slt : StandardLengthType}
  (specific : param.specificData = .codedConst ⟨some (.ok diagType), some text⟩)
  (standard : diagType.type_ = .standardLength slt) (unmasked : slt.bitMask = none)
  (valid : diagType.baseDatatype.validateBitLen slt.bitLength = .ok ())

include specific standard unmasked valid

theorem constAgrees_iff_of_number
    (numeric : diagType.baseDatatype = .int32 ∨ diagType.baseDatatype = .uint32)
    (position : param.bitPosition ≤ 7) {number : Int}
    (above : -2 ^ (slt.bitLength - 1) ≤ number) (below : number < 2 ^ slt.bitLength)
    (written : writtenConst conv diagType text = .ok (i32ToBeBytes number))
    (only : ∀ typed, typedConst conv diagType text = .ok typed → typed = i32ToBeBytes number) :
    param.ConstAgrees name ↔ typedConst conv diagType text = .ok (i32ToBeBytes number) ∧
      HoldsNumber slt.bitLength param.bitPosition number := by
  have positive := DiagCodedType.validateBitLen_pos valid
  have right := DiagCodedType.alignment_numeric numeric
  have length : (i32ToBeBytes number).length = 4 := length_toBeBytes _ _
  have short : byteLen slt.bitLength ≤ 4 ↔ slt.bitLength ≤ 32 := by
    rw [byteLen]
    omega
  obtain ⟨bytes, copied⟩ := exists_copyData slt.bitLength (i32ToBeBytes number) diagType.alignment
  rw [constAgrees_iff_of_written specific standard unmasked
    (DiagCodedType.validateBitPos_numeric numeric _) valid position written copied]
  rw [right] at copied
  have held := copied_right_iff copied
  constructor
  · intro agrees
    obtain ⟨fits, typed, isTyped, enough, same⟩ := agrees
    obtain rfl := only typed isTyped
    have narrow := short.1 (length ▸ enough)
    rw [held, value_lastBytes_number narrow, survives_number_iff positive above below] at same
    exact ⟨isTyped, narrow, fits, same⟩
  · intro holds
    obtain ⟨isTyped, narrow, fits, kept⟩ := holds
    refine ⟨fits, _, isTyped, length.symm ▸ short.2 narrow, ?_⟩
    rw [held, value_lastBytes_number narrow, survives_number_iff positive above below]
    exact kept

theorem constAgrees_of_refused (aligned : diagType.validateBitPos param.bitPosition = .ok ())
    (position : param.bitPosition ≤ 7)
    (unwritten : ∀ data, writtenConst conv diagType text ≠ .ok data)
    (untyped : ∀ data, typedConst conv diagType text ≠ .ok data) : param.ConstAgrees name := by
  rw [constAgrees_iff_of_unwritten specific standard unmasked aligned valid position unwritten]
  intro data typed
  exact absurd typed (untyped data)

theorem constAgrees_int32_iff (base : diagType.baseDatatype = .int32)
    (position : param.bitPosition ≤ 7) :
    param.ConstAgrees name ↔ ∀ number, integer? 10 text = some number →
      -2 ^ (min slt.bitLength 32 - 1) ≤ number → number < 2 ^ (min slt.bitLength 32 - 1) →
        HoldsNumber slt.bitLength param.bitPosition number := by
  have positive := DiagCodedType.validateBitLen_pos valid
  have consts : ∀ data, (writtenConst conv diagType text = .ok data ↔
      typedConst conv diagType text = .ok data) ∧ _ := int32_const_iff standard positive base
  have half : (2 : Int) ^ (min slt.bitLength 32 - 1) ≤ 2 ^ (slt.bitLength - 1) :=
    pow_le_pow_right₀ (by decide) (by omega)
  have whole : (2 : Int) ^ (slt.bitLength - 1) ≤ 2 ^ slt.bitLength :=
    pow_le_pow_right₀ (by decide) (by omega)
  by_cases taken : ∃ number, integer? 10 text = some number ∧
      -2 ^ (min slt.bitLength 32 - 1) ≤ number ∧ number < 2 ^ (min slt.bitLength 32 - 1)
  · obtain ⟨number, value, above, below⟩ := taken
    have typed := (consts _).2.2 ⟨number, value, above, below, rfl⟩
    have only (other : List UInt8) (isTyped : typedConst conv diagType text = .ok other) :
        other = i32ToBeBytes number := Except.ok.inj (isTyped.symm.trans typed)
    rw [constAgrees_iff_of_number specific standard unmasked valid (.inl base) position
      (by omega) (by omega) ((consts _).1.2 typed) only]
    constructor
    · intro agrees other same _ _
      cases value.symm.trans same
      exact agrees.2
    · intro holds
      exact ⟨typed, holds number value above below⟩
  · have untyped (data : List UInt8) : typedConst conv diagType text ≠ .ok data := by
      intro typed
      obtain ⟨number, value, above, below, _⟩ := (consts data).2.1 typed
      exact taken ⟨number, value, above, below⟩
    have unwritten (data : List UInt8) : writtenConst conv diagType text ≠ .ok data := by
      intro written
      exact untyped data ((consts data).1.1 written)
    constructor
    · intro _ number value above below
      exact absurd ⟨number, value, above, below⟩ taken
    · intro _
      exact constAgrees_of_refused specific standard unmasked valid
        (DiagCodedType.validateBitPos_numeric (.inl base) _) position unwritten untyped

theorem constAgrees_uint32_iff (base : diagType.baseDatatype = .uint32)
    (position : param.bitPosition ≤ 7) :
    param.ConstAgrees name ↔ ∀ number : Nat, integer? 10 text = some (number : Int) →
      number < 2 ^ min slt.bitLength 32 →
        text.head? ≠ some '-' ∧ HoldsNumber slt.bitLength param.bitPosition number := by
  have positive := DiagCodedType.validateBitLen_pos valid
  have consts : ∀ data, (writtenConst conv diagType text = .ok data ↔ _) ∧
      (typedConst conv diagType text = .ok data ↔ _) := uint32_const_iff standard positive base
  have word : 2 ^ min slt.bitLength 32 ≤ 2 ^ 32 := Nat.pow_le_pow_right (by decide) (by omega)
  have field : 2 ^ min slt.bitLength 32 ≤ 2 ^ slt.bitLength :=
    Nat.pow_le_pow_right (by decide) (by omega)
  have negative : (0 : Int) < 2 ^ (slt.bitLength - 1) := Int.pow_pos (by decide)
  by_cases taken : ∃ number : Nat, integer? 10 text = some (number : Int) ∧
      number < 2 ^ min slt.bitLength 32
  · obtain ⟨number, value, small⟩ := taken
    have bytes : toBeBytes 4 number = i32ToBeBytes number := by
      rw [i32ToBeBytes, Int.emod_eq_of_lt (by omega) (by omega), Int.toNat_natCast]
    have written := (consts _).1.2 ⟨number, value, small, bytes.symm⟩
    have typed : typedConst conv diagType text = .ok (i32ToBeBytes number) ↔
        text.head? ≠ some '-' := by
      rw [(consts _).2]
      exact and_iff_left ⟨number, value, small, bytes.symm⟩
    have only (other : List UInt8) (isTyped : typedConst conv diagType text = .ok other) :
        other = i32ToBeBytes number := by
      obtain ⟨_, again, same, _, rfl⟩ := (consts other).2.1 isTyped
      obtain rfl := Int.ofNat.inj (Option.some.inj (value.symm.trans same))
      exact bytes
    have below : (number : Int) < 2 ^ slt.bitLength := by
      exact_mod_cast small.trans_le field
    rw [constAgrees_iff_of_number specific standard unmasked valid (.inr base) position
      (by omega) below written only, typed]
    constructor
    · intro agrees other same _
      obtain rfl := Int.ofNat.inj (Option.some.inj (value.symm.trans same))
      exact agrees
    · intro holds
      exact holds number value small
  · have unwritten (data : List UInt8) : writtenConst conv diagType text ≠ .ok data := by
      intro written
      obtain ⟨number, value, small, _⟩ := (consts data).1.1 written
      exact taken ⟨number, value, small⟩
    have untyped (data : List UInt8) : typedConst conv diagType text ≠ .ok data := by
      intro typed
      obtain ⟨_, number, value, small, _⟩ := (consts data).2.1 typed
      exact taken ⟨number, value, small⟩
    constructor
    · intro _ number value small
      exact absurd ⟨number, value, small⟩ taken
    · intro _
      exact constAgrees_of_refused specific standard unmasked valid
        (DiagCodedType.validateBitPos_numeric (.inr base) _) position unwritten untyped

variable (name) in
theorem constAgrees_text_iff (isText : diagType.baseDatatype = .asciiString ∨
      diagType.baseDatatype = .utf8String ∨ diagType.baseDatatype = .unicode2String ∨
      diagType.baseDatatype = .byteField) :
    param.ConstAgrees name ↔ (param.bitPosition = 0 → ∀ data,
      textBytes diagType.baseDatatype text = .ok data →
        if (tryParseStrAsJsonNumber conv text).toOption.isSome then
          data.length < byteLen slt.bitLength ∨
            2 ^ slt.bitLength ≤ value (lastBytes slt.bitLength data)
        else byteLen slt.bitLength ≤ data.length ∧
          value (clearBitsAboveBitLen slt.bitLength (data.take (byteLen slt.bitLength))) %
            2 ^ slt.bitLength = value (lastBytes slt.bitLength data)) := by
  obtain ⟨typed, written⟩ : typedConst conv diagType text = _ ∧
    ∀ data, writtenConst conv diagType text = .ok data ↔ _ := text_const_iff isText
  have left : diagType.alignment = .left := by
    rcases isText with base | base | base | base <;> rw [DiagCodedType.alignment, base]
  have aligned : diagType.validateBitPos param.bitPosition = .ok () ↔ param.bitPosition = 0 := by
    rcases isText with base | base | base | base <;>
      simp [DiagCodedType.validateBitPos, base]
  by_cases front : param.bitPosition = 0
  · have fits : param.bitPosition + slt.bitLength ≤ 8 * byteLen slt.bitLength := by
      rw [front, byteLen]
      omega
    cases made : textBytes diagType.baseDatatype text with
    | error failure =>
      have untyped (data : List UInt8) : typedConst conv diagType text ≠ .ok data := by
        rw [typed, made]
        exact fun same => by cases same
      have unwritten (data : List UInt8) : writtenConst conv diagType text ≠ .ok data := by
        intro isWritten
        cases made.symm.trans ((written data).1 isWritten).2
      constructor
      · intro _ _ data same
        cases same
      · intro _
        exact constAgrees_of_refused specific standard unmasked valid (aligned.2 front)
          (by omega) unwritten untyped
    | ok data =>
      rw [made] at typed
      cases parsed : tryParseStrAsJsonNumber conv text with
      | ok json =>
        have unwritten (other : List UInt8) : writtenConst conv diagType text ≠ .ok other := by
          intro isWritten
          have refused := ((written other).1 isWritten).1
          rw [parsed] at refused
          cases refused
        rw [constAgrees_iff_of_unwritten specific standard unmasked (aligned.2 front) valid
          (by omega) unwritten]
        constructor
        · intro unreadable _ other same
          cases same
          exact unreadable data typed fits
        · intro condition other isTyped _
          cases typed.symm.trans isTyped
          exact condition front data rfl
      | error failure =>
        have isWritten : writtenConst conv diagType text = .ok data :=
          (written data).2 ⟨by rw [parsed]; rfl, made⟩
        obtain ⟨bytes, copied⟩ := exists_copyData slt.bitLength data diagType.alignment
        rw [constAgrees_iff_of_written specific standard unmasked (aligned.2 front) valid
          (by omega) isWritten copied]
        rw [left] at copied
        constructor
        · intro agrees _ other same
          cases same
          obtain ⟨_, _, isTyped, enough, same⟩ := agrees
          cases typed.symm.trans isTyped
          cases copied.symm.trans (copyData_left enough)
          exact ⟨enough, same⟩
        · intro condition
          obtain ⟨enough, same⟩ := condition front data rfl
          cases copied.symm.trans (copyData_left enough)
          exact ⟨fits, data, typed, enough, same⟩
  · constructor
    · intro _ isFront
      exact absurd isFront front
    · intro _
      exact constAgrees_of_misplaced specific standard unmasked fun isAligned =>
        absurd (aligned.1 isAligned) front

/-- Encoder and decoder agree on a constant exactly under this condition. -/
theorem constAgrees_iff
    (noFloat : diagType.baseDatatype ≠ .float32 ∧ diagType.baseDatatype ≠ .float64) :
    param.ConstAgrees name ↔ ConstCondition conv diagType.baseDatatype slt.bitLength
      param.bitPosition text := by
  have far (misplaced : ¬param.bitPosition ≤ 7) : param.ConstAgrees name :=
    constAgrees_of_misplaced specific standard unmasked fun _ => misplaced
  cases base : diagType.baseDatatype with
  | int32 =>
    rw [ConstCondition]
    by_cases position : param.bitPosition ≤ 7
    · rw [constAgrees_int32_iff specific standard unmasked valid base position]
      exact ⟨fun holds _ => holds, fun holds => holds position⟩
    · exact ⟨fun _ near => absurd near position, fun _ => far position⟩
  | uint32 =>
    rw [ConstCondition]
    by_cases position : param.bitPosition ≤ 7
    · rw [constAgrees_uint32_iff specific standard unmasked valid base position]
      exact ⟨fun holds _ => holds, fun holds => holds position⟩
    · exact ⟨fun _ near => absurd near position, fun _ => far position⟩
  | float32 => exact absurd base noFloat.1
  | float64 => exact absurd base noFloat.2
  | asciiString =>
    have condition := constAgrees_text_iff name specific standard unmasked valid (.inl base)
    rw [base] at condition
    exact condition
  | utf8String =>
    have condition := constAgrees_text_iff name specific standard unmasked valid (.inr (.inl base))
    rw [base] at condition
    exact condition
  | unicode2String =>
    have condition :=
      constAgrees_text_iff name specific standard unmasked valid (.inr (.inr (.inl base)))
    rw [base] at condition
    exact condition
  | byteField =>
    have condition :=
      constAgrees_text_iff name specific standard unmasked valid (.inr (.inr (.inr base)))
    rw [base] at condition
    exact condition

end Condition

namespace IntegerDatabase

def constParam (diagType : DiagCodedType) (text : String) : Parameter integerConversions :=
  ⟨.ok .codedConst, some "const".toList, none, some 0, none,
    .codedConst ⟨some (.ok diagType), some text.toList⟩⟩

theorem serviceId_constAgrees : (constParam (number 8) "34").ConstAgrees "const".toList := by
  apply (constAgrees_iff rfl rfl rfl rfl ⟨by decide, by decide⟩).2
  intro _ found value _
  have same : found = 34 := by
    have read : integer? 10 "34".toList = some 34 := by decide
    exact Int.ofNat.inj (Option.some.inj (value.symm.trans read))
  subst same
  exact ⟨by decide, by decide, by decide, by decide⟩

/-- The decoder reads the digits as one byte, the encoder as a number. -/
theorem hexDigits_not_constAgrees :
    ¬(constParam ⟨.byteField, .standardLength ⟨8, none, false⟩, true⟩ "12").ConstAgrees
      "const".toList := by
  intro agrees
  obtain ⟨payload, encoded, _⟩ := agrees.encodes ⟨[0x12], _, rfl⟩
  cases encoded

end IntegerDatabase

end DiagnosticAdapter.Kernel
