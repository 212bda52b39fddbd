import DiagnosticAdapter.Kernel.CodedConst

/-!
# The round trip of a signed number

A signed number is written with the bits that its field has and read back without the sign:
only a field of 32 bits returns a negative one.
-/

namespace DiagnosticAdapter.Kernel

open Bits Codec Effects

structure SignedField where
  bitLength : Nat
  positive : 1 ≤ bitLength
  narrow : bitLength ≤ 32
  condensed : Bool
  isHighLowByteOrder : Bool

/-- An integer in JSON; what does not fit 64 bits is a float. -/
def jsonInteger (nearest : Int → List UInt8) (number : Int) : JsonValue :=
  .number (if -2 ^ 63 ≤ number ∧ number < 2 ^ 64 then .ofInt number else .float (nearest number))

namespace SignedField

variable (field : SignedField)

def standardLength : StandardLengthType := ⟨field.bitLength, none, field.condensed⟩

def diagCodedType : DiagCodedType :=
  ⟨.int32, .standardLength field.standardLength, field.isHighLowByteOrder⟩

def InRange (number : Int) : Prop :=
  -2 ^ (field.bitLength - 1) ≤ number ∧ number ≤ 2 ^ (field.bitLength - 1) - 1

/-- The bits of the field are not set in the payload. -/
def Vacant (udsPayload : List UInt8) (bytePos bitPos : Nat) : Prop :=
  ∀ i, i < field.bitLength → (value (field.diagCodedType.cutOut udsPayload bytePos
      (byteLen (bitPos + field.bitLength)))).testBit (bitPos + i) = false

/-- The numbers of the range are accepted, and those return from every free place. -/
structure RoundTrips (conv : Conversions) (physType : Option PhysicalType)
    (nearest : Int → List UInt8) (bitPos : Nat) (number : Int) : Prop where
  accepts : (∃ data, jsonValueToUdsData conv field.diagCodedType none physType
    (jsonInteger nearest number) = .ok data) ↔ field.InRange number
  returns : ∀ data, jsonValueToUdsData conv field.diagCodedType none physType
      (jsonInteger nearest number) = .ok data →
    ∀ udsPayload bytePos, field.Vacant udsPayload bytePos bitPos →
      ∃ after read bitLen, field.diagCodedType.encode data udsPayload bytePos bitPos = .ok after ∧
        field.diagCodedType.decode after bytePos bitPos = .ok (read, bitLen) ∧
        udsDataToSerializable conv .int32 none read = .ok (.int32 number)

variable {field} {conv : Conversions} {physType : Option PhysicalType}
  {nearest : Int → List UInt8} {bytePos bitPos : Nat} {number : Int}
  {data udsPayload : List UInt8}

theorem vacant_nil (bytePos bitPos : Nat) : field.Vacant [] bytePos bitPos := by
  intro i inField
  rw [DiagCodedType.value_cutOut_beyond (Nat.zero_le _), Nat.zero_testBit]

theorem valid : field.diagCodedType.baseDatatype.validateBitLen
    field.standardLength.bitLength = .ok () := by
  have narrow := field.narrow
  exact (DiagCodedType.validateBitLen_numeric (.inl rfl) _).mpr
    ⟨field.positive, by simp only [standardLength]; omega⟩

theorem decode_encode (fits : bitPos + field.bitLength ≤ 8 * byteLen field.bitLength)
    (vacant : field.Vacant udsPayload bytePos bitPos) {bytes : List UInt8}
    (copied : copyData field.bitLength data .right = .ok bytes) :
    ∃ after read, field.diagCodedType.encode data udsPayload bytePos bitPos = .ok after ∧
      field.diagCodedType.decode after bytePos bitPos = .ok (read, field.bitLength) ∧
      read.length = byteLen field.bitLength ∧ value read = value bytes % 2 ^ field.bitLength := by
  have position : bitPos ≤ 7 := by
    rw [byteLen] at fits
    omega
  have positive := field.positive
  have packs := (@DiagCodedType.packInput_unmasked field.diagCodedType field.standardLength rfl rfl
    valid _ _ copied).1
  obtain ⟨after, encoded, long, effect⟩ := @DiagCodedType.encode_standardLength_spec
    field.diagCodedType field.standardLength data bitPos _ rfl
    (DiagCodedType.validateBitPos_numeric (.inl rfl) bitPos) packs position positive (by simp)
    udsPayload bytePos
  have enough : bytePos + byteLen field.standardLength.bitLength ≤ after.length := by
    simp only [byteLen] at long ⊢
    omega
  obtain ⟨read, decoded, length, bits⟩ := @DiagCodedType.decode_unmasked_spec
    field.diagCodedType field.standardLength rfl (.inl rfl) rfl valid after bytePos bitPos position
    enough fits
  refine ⟨after, read, encoded, decoded, length, ?_⟩
  have width : byteLen (bitPos + field.bitLength) = byteLen field.bitLength := by
    simp only [byteLen] at fits ⊢
    omega
  apply Nat.eq_of_testBit_eq
  intro j
  rw [bits, Nat.testBit_mod_two_pow]
  by_cases inField : j < field.bitLength
  · have free := vacant j inField
    have written := effect.inside j inField
    simp only [standardLength, width] at free written
    simp only [standardLength, written, free, Bool.false_and, Bool.false_or]
    rfl
  · simp [standardLength, inField]

theorem jsonValueToUdsData_jsonInteger_eq_ok_iff :
    jsonValueToUdsData conv field.diagCodedType none physType (jsonInteger nearest number) =
        .ok data ↔ field.InRange number ∧ data = i32ToBeBytes number := by
  have anyType : jsonValueToUdsData conv field.diagCodedType none physType
      (jsonInteger nearest number) =
        jsonValueToUdsData conv field.diagCodedType none none (jsonInteger nearest number) := by
    rfl
  have width : min field.standardLength.bitLength 32 = field.bitLength :=
    Nat.min_eq_left field.narrow
  have small : (2 : Int) ^ (field.bitLength - 1) ≤ 2 ^ 31 := by
    have narrow := field.narrow
    exact pow_le_pow_right₀ (by decide) (by omega)
  rw [anyType, jsonInteger,
    @int32_bytes_iff conv field.diagCodedType field.standardLength rfl field.positive rfl,
    width, InRange]
  constructor
  · rintro ⟨found, read, above, below, rfl⟩
    suffices same : found = number by
      subst same
      exact ⟨⟨above, Int.le_sub_one_of_lt below⟩, rfl⟩
    split_ifs at read with wide
    · by_cases long : number < 2 ^ 63
      · rw [asI64_ofInt long, Option.some.injEq] at read
        exact read.symm
      · rw [JsonNumber.ofInt, if_pos (by omega), JsonNumber.asI64, if_neg (by omega)] at read
        cases read
    · cases read
  · rintro ⟨⟨above, below⟩, rfl⟩
    refine ⟨number, ?_, above, Int.lt_of_le_sub_one below, rfl⟩
    rw [if_pos (by omega), asI64_ofInt (by omega)]

theorem read_number_iff (inRange : field.InRange number) {bytes : List UInt8}
    (copied : copyData field.bitLength (i32ToBeBytes number) .right = .ok bytes)
    {read : List UInt8} (held : value read = value bytes % 2 ^ field.bitLength) :
    i32FromBeBytes (padMsbToLen read 4) = number ↔ field.bitLength = 32 ∨ 0 ≤ number ∧
        (field.bitLength % 8 = 0 ∨ number % 256 < 2 ^ (field.bitLength % 8)) := by
  have narrow := field.narrow
  have positive := field.positive
  obtain ⟨above, below⟩ := inRange
  have half : (2 : Int) ^ field.bitLength = 2 * 2 ^ (field.bitLength - 1) := by
    rw [← pow_succ', Nat.sub_add_cancel positive]
  have survives := survives_number_iff positive above (by omega)
  rw [← value_lastBytes_number narrow, ← copied_right_iff copied, ← held] at survives
  rw [i32FromBeBytes, NumberDop.value_padMsbToLen]
  have wraps : value (lastBytes field.bitLength (i32ToBeBytes number)) =
      (number % 2 ^ (8 * byteLen field.bitLength)).toNat := value_lastBytes_number narrow number
  have bound : value read < 2 ^ field.bitLength := by
    rw [held]
    exact Nat.mod_lt _ (Nat.two_pow_pos _)
  by_cases full : field.bitLength = 32
  · rw [full] at survives wraps above below
    have same : value read = (number % 2 ^ 32).toNat := (survives.mpr (.inl rfl)).trans wraps
    simp only [full, true_or, iff_true, same]
    split_ifs <;> omega
  · have short : value read < 2 ^ 31 := by
      have shorter : 2 ^ field.bitLength ≤ 2 ^ 31 := Nat.pow_le_pow_right (by decide) (by omega)
      omega
    have wide : (2 : Int) ^ field.bitLength ≤ 2 ^ (8 * byteLen field.bitLength) := by
      apply pow_le_pow_right₀ (by decide)
      rw [byteLen]
      omega
    rw [if_pos short]
    constructor
    · intro same
      have nonneg : 0 ≤ number := by omega
      have kept : value read = value (lastBytes field.bitLength (i32ToBeBytes number)) := by
        rw [wraps, Int.emod_eq_of_lt nonneg (by omega)]
        omega
      exact .inr ⟨nonneg, (survives.mp kept).imp_right And.right⟩
    · rintro (filled | ⟨nonneg, condition⟩)
      · exact absurd filled full
      · have kept := survives.mpr (condition.imp_right (And.intro nonneg))
        rw [kept, wraps, Int.emod_eq_of_lt nonneg (by omega)]
        omega

/-- A signed number returns exactly from a field of 32 bits, or when it is not negative and the
encoder does not clear bits of its lowest byte. -/
theorem roundTrips_iff (conv : Conversions) (physType : Option PhysicalType)
    (nearest : Int → List UInt8) (number : Int)
    (fits : bitPos + field.bitLength ≤ 8 * byteLen field.bitLength) :
    field.RoundTrips conv physType nearest bitPos number ↔
      (field.InRange number → field.bitLength = 32 ∨ 0 ≤ number ∧
        (field.bitLength % 8 = 0 ∨ number % 256 < 2 ^ (field.bitLength % 8))) := by
  obtain ⟨bytes, copied⟩ := exists_copyData field.bitLength (i32ToBeBytes number) .right
  have shown {read : List UInt8} (length : read.length = byteLen field.bitLength) :
      udsDataToSerializable conv .int32 none read =
        .ok (.int32 (i32FromBeBytes (padMsbToLen read 4))) := by
    have positive := field.positive
    have narrow := field.narrow
    have given : read.isEmpty = false := by
      rw [List.isEmpty_eq_false_iff_exists_mem]
      apply List.exists_mem_of_length_pos
      rw [length, byteLen]
      omega
    have atMostFour : ¬read.length > 4 := by
      rw [length, byteLen]
      omega
    simp only [udsDataToSerializable, given, Option.filter_none, DiagDataValue.new,
      if_neg atMostFour]
    simp
  constructor
  · intro returns inRange
    obtain ⟨after, read, bitLen, encoded, decoded, shows⟩ := returns.returns _
      (jsonValueToUdsData_jsonInteger_eq_ok_iff.mpr ⟨inRange, rfl⟩) [] 0 (vacant_nil 0 bitPos)
    obtain ⟨written, its, writes, reads, length, held⟩ :=
      decode_encode fits (vacant_nil 0 bitPos) copied
    obtain rfl := Except.ok.inj (encoded.symm.trans writes)
    obtain ⟨rfl, -⟩ := Prod.mk.inj (Except.ok.inj (decoded.symm.trans reads))
    rw [shown length, Except.ok.injEq, DiagDataValue.int32.injEq] at shows
    exact (read_number_iff inRange copied held).mp shows
  · intro condition
    constructor
    · simp [jsonValueToUdsData_jsonInteger_eq_ok_iff]
    · intro data accepted udsPayload bytePos vacant
      obtain ⟨inRange, rfl⟩ := jsonValueToUdsData_jsonInteger_eq_ok_iff.mp accepted
      obtain ⟨after, read, encoded, decoded, length, held⟩ := decode_encode fits vacant copied
      refine ⟨after, read, _, encoded, decoded, ?_⟩
      rw [shown length, (read_number_iff inRange copied held).mpr (condition inRange)]

def byteField : SignedField := ⟨8, by decide, by decide, false, true⟩

theorem roundTrips_iff_byte : byteField.RoundTrips integerConversions none (fun _ => []) 0 (-1) ↔
    (byteField.InRange (-1) → byteField.bitLength = 32 ∨ (0 : Int) ≤ -1 ∧
      (byteField.bitLength % 8 = 0 ∨ (-1 : Int) % 256 < 2 ^ (byteField.bitLength % 8))) :=
  roundTrips_iff integerConversions none (fun _ => []) (-1) (by decide)

/-- `-1` in one byte is read as `255`. -/
theorem not_roundTrips_byte : ¬∀ (conv : Conversions) (field : SignedField)
    (physType : Option PhysicalType) (nearest : Int → List UInt8) (bitPos : Nat) (number : Int),
    bitPos + field.bitLength ≤ 8 * byteLen field.bitLength →
      field.RoundTrips conv physType nearest bitPos number := by
  intro everyFieldRoundTrips
  have roundTrips :=
    everyFieldRoundTrips integerConversions byteField none (fun _ => []) 0 (-1) (by decide)
  have returns := roundTrips.returns [255, 255, 255, 255] rfl [] 0 (vacant_nil 0 0)
  obtain ⟨after, read, bitLen, encoded, decoded, shows⟩ := returns
  have written : byteField.diagCodedType.encode [255, 255, 255, 255] [] 0 0 = .ok [255] := by
    decide
  obtain rfl := Except.ok.inj (encoded.symm.trans written)
  have readBack : byteField.diagCodedType.decode [255] 0 0 = .ok ([255], 8) := by decide
  obtain ⟨rfl, -⟩ := Prod.mk.inj (Except.ok.inj (decoded.symm.trans readBack))
  have bytes : padMsbToLen [255] 4 = [0, 0, 0, 255] := rfl
  have shown : i32FromBeBytes [0, 0, 0, 255] = 255 := by decide
  have value : udsDataToSerializable integerConversions .int32 none [255] =
      .ok (.int32 (i32FromBeBytes (padMsbToLen [255] 4))) := rfl
  rw [value, bytes, shown] at shows
  cases shows

end SignedField

end DiagnosticAdapter.Kernel
