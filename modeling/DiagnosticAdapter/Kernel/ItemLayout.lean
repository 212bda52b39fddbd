import DiagnosticAdapter.Kernel.NumberDop

/-!
# Structures of numbers

Structures whose parameters are numbers and reserved bits at given positions: what the
encoder adds to a payload for one of them.
-/

namespace DiagnosticAdapter.Kernel

open Bits Codec

variable {conv : Conversions}

/-- A `Value` parameter with a number. -/
structure NumberParam (conv : Conversions) where
  shortName : Text
  semantic : Option Text
  bytePos : Nat
  bitPos : Option Nat
  physicalDefaultValue : Option Text
  dop : NumberDop conv

namespace NumberParam

variable (param : NumberParam conv)

def parameter : Parameter conv :=
  ⟨.ok .value, some param.shortName, param.semantic, some param.bytePos, param.bitPos,
    .value param.physicalDefaultValue (some (.normal param.dop.normalDop))⟩

def place : Place := param.dop.place param.bytePos (param.bitPos.getD 0)

/-- Whether the bits lie in the bytes that the decoder cuts out for them. -/
def Fits : Prop := param.bitPos.getD 0 + param.dop.bitLength ≤ 8 * byteLen param.dop.bitLength

def stop : Nat := param.bytePos + byteLen param.dop.bitLength

/-- The number that an object gives to the parameter, by its member or by the default. -/
def supplied (members : List (Text × JsonValue)) : Except DiagServiceError Nat := do
  let json ← resolveRequiredParam (members.lookup param.shortName) (.normal param.dop.normalDop)
    param.physicalDefaultValue param.parameter.nameOrDefault
  param.dop.number json

theorem supplied_of_lookup {param : NumberParam conv} {members : List (Text × JsonValue)}
    {json : JsonValue} (given : members.lookup param.shortName = some json) :
    param.supplied members = param.dop.number json := by
  rw [supplied, given]
  rfl

end NumberParam

structure ReservedParam where
  shortName : Text
  semantic : Option Text
  bytePos : Nat
  bitPos : Option Nat
  bitLength : Nat
  deriving DecidableEq, Repr

namespace ReservedParam

variable (param : ReservedParam)

def parameter : Parameter conv :=
  ⟨.ok .reserved, some param.shortName, param.semantic, some param.bytePos, param.bitPos,
    .reserved param.bitLength⟩

def stop : Nat := param.bytePos + byteLen param.bitLength

/-- Whether the bits lie in the bytes that the decoder cuts out for them. -/
def Fits : Prop := param.bitPos.getD 0 + param.bitLength ≤ 8 * byteLen param.bitLength

def Valid : Prop :=
  (reservedCodedType param.bitLength).validateBitPos (param.bitPos.getD 0) = .ok () ∧
    (reservedCodedType param.bitLength).baseDatatype.validateBitLen param.bitLength = .ok ()

end ReservedParam

inductive ItemParam (conv : Conversions) where
  | value (param : NumberParam conv)
  | reserved (param : ReservedParam)

namespace ItemParam

def shortName : ItemParam conv → Text
  | .value param => param.shortName
  | .reserved param => param.shortName

def parameter : ItemParam conv → Parameter conv
  | .value param => param.parameter
  | .reserved param => param.parameter

def Fits : ItemParam conv → Prop
  | .value param => param.Fits
  | .reserved param => param.Fits

instance (param : ItemParam conv) : Decidable param.Fits :=
  match param with
  | .value param => inferInstanceAs (Decidable (param.bitPos.getD 0 + _ ≤ _))
  | .reserved param => inferInstanceAs (Decidable (param.bitPos.getD 0 + _ ≤ _))

def Valid : ItemParam conv → Prop
  | .value param => 1 ≤ param.dop.bitLength ∧ param.dop.bitLength ≤ 64
  | .reserved param => param.Valid

def stop : ItemParam conv → Nat
  | .value param => param.stop
  | .reserved param => param.stop

/-- How far the encoder fills the payload for an item at `start`: reserved bits are
written as if the item were at the start of the payload. -/
def filledTo (start : Nat) : ItemParam conv → Nat
  | .value param => start + param.stop
  | .reserved param => param.stop

def number? : ItemParam conv → Option (NumberParam conv)
  | .value param => some param
  | .reserved _ => none

/-- The read position after the parameter; a reserved one does not move it. -/
def readPos (start : Nat) : ItemParam conv → Nat
  | .value param => param.stop
  | .reserved _ => start

end ItemParam

def numbersOf (params : List (ItemParam conv)) : List (NumberParam conv) :=
  params.filterMap ItemParam.number?

theorem mem_numbersOf {params : List (ItemParam conv)} {number : NumberParam conv} :
    number ∈ numbersOf params ↔ .value number ∈ params := by
  rw [numbersOf, List.mem_filterMap]
  constructor
  · intro found
    obtain ⟨param, mem, same⟩ := found
    cases param with
    | value param =>
      cases same
      exact mem
    | reserved param => cases same
  · intro mem
    exact ⟨_, mem, rfl⟩

section Reserved

variable {param : ReservedParam}

theorem positive_of_validateBitLen {base : DataType} {bitLen : Nat}
    (valid : base.validateBitLen bitLen = .ok ()) : 0 < bitLen := by
  apply Nat.pos_of_ne_zero
  intro zero
  rw [DataType.validateBitLen, if_pos zero] at valid
  cases valid

theorem packReserved {bitLength : Nat}
    (valid : (reservedCodedType bitLength).baseDatatype.validateBitLen bitLength = .ok ()) :
    ∃ bytes, (reservedCodedType bitLength).packStandardLen ⟨bitLength, none, false⟩
        (List.replicate bitLength 0) = .ok ⟨bytes, bitLength, none⟩ ∧ value bytes = 0 := by
  have positive := positive_of_validateBitLen valid
  by_cases wide : bitLength > 32
  · have base : (reservedCodedType bitLength).baseDatatype = .byteField := if_pos wide
    rw [base] at valid
    obtain ⟨_, bits⟩ := @clearBitsAboveBitLen_spec bitLength (List.replicate (byteLen bitLength) 0)
      (List.length_replicate ..)
    have enough : byteLen bitLength ≤ (List.replicate bitLength (0 : UInt8)).length := by
      rw [List.length_replicate, byteLen]
      omega
    have copied := copyData_left enough
    rw [List.take_replicate, Nat.min_eq_left (by simpa using enough)] at copied
    refine ⟨clearBitsAboveBitLen bitLength (List.replicate (byteLen bitLength) 0), ?_, ?_⟩
    · simp only [DiagCodedType.packStandardLen, valid, Option.filter_none, Option.map_none,
        packData, DiagCodedType.alignment, base, copied, bind, Except.bind,
        if_neg (Nat.ne_of_gt positive)]
      simp [pure, Except.pure]
    · apply Nat.eq_of_testBit_eq
      intro j
      rw [bits, value_replicate_zero]
      simp
  · have numeric : (reservedCodedType bitLength).baseDatatype = .uint32 := if_neg wide
    obtain ⟨bytes, packs, bits⟩ := @DiagCodedType.packStandardLen_unmasked_spec
      (reservedCodedType bitLength) ⟨bitLength, none, false⟩ (.inr numeric) rfl valid
      (List.replicate bitLength 0) (by rw [value_replicate_zero]; exact Nat.two_pow_pos _)
    refine ⟨bytes, packs, ?_⟩
    apply Nat.eq_of_testBit_eq
    intro j
    rw [bits, value_replicate_zero]
    simp

theorem valid_of_encodeReserved {inputData payload after : List UInt8}
    (encoded : (reservedCodedType param.bitLength).encode inputData payload param.bytePos
      (param.bitPos.getD 0) = .ok after) : param.Valid := by
  cases aligned : (reservedCodedType param.bitLength).validateBitPos (param.bitPos.getD 0) with
  | error error =>
    simp only [DiagCodedType.encode, aligned, bind, Except.bind] at encoded
    cases encoded
  | ok unit =>
    cases valid : (reservedCodedType param.bitLength).baseDatatype.validateBitLen
        param.bitLength with
    | ok unit => exact ⟨aligned, valid⟩
    | error error =>
      have packs : (reservedCodedType param.bitLength).packStandardLen
          ⟨param.bitLength, none, false⟩ inputData = .error error := by
        simp only [DiagCodedType.packStandardLen, valid]
        rfl
      rw [DiagCodedType.encode_of_pack_error rfl aligned packs] at encoded
      cases encoded

theorem reservedCodedType_byteOrder (bitLength : Nat) :
    (reservedCodedType bitLength).byteOrder ≠ .reorderPairs := by
  simp [reservedCodedType, DiagCodedType.byteOrder]

theorem mapReservedParamToUds_adds {payload after : List UInt8} (fits : param.Fits)
    (mapped : mapReservedParamToUds (param.parameter : Parameter conv) payload = .ok after) :
    param.Valid ∧ after.length = max payload.length param.stop ∧ Adds [] payload after := by
  have encoded : (reservedCodedType param.bitLength).encode (List.replicate param.bitLength 0)
      payload param.bytePos (param.bitPos.getD 0) = .ok after := mapped
  have valid := valid_of_encodeReserved encoded
  obtain ⟨bytes, packs, zero⟩ := packReserved valid.2
  have positive := positive_of_validateBitLen valid.2
  have position : param.bitPos.getD 0 ≤ 7 := by
    simp only [ReservedParam.Fits, byteLen] at fits
    omega
  obtain ⟨written, encoded', length, adds⟩ := DiagCodedType.encode_adds
    (reservedCodedType_byteOrder _) rfl position valid.1 packs positive payload param.bytePos
  obtain rfl := Except.ok.inj (encoded'.symm.trans encoded)
  refine ⟨valid, ?_, ?_⟩
  · rw [length]
    simp only [ReservedParam.Fits] at fits
    simp only [DiagCodedType.place, Place.stop, Place.byteCount, ReservedParam.stop, byteLen] at fits ⊢
    omega
  · intro cell
    rw [adds cell]
    simp [Place.Sets, zero]

end Reserved

section Encode

variable {strict : Bool} {depth start : Nat} {members : List (Text × JsonValue)}
  {payload after : List UInt8}

theorem NumberParam.place_stop {param : NumberParam conv} (fits : param.Fits) :
    param.place.stop = param.stop := by
  simp only [NumberParam.Fits, byteLen] at fits
  simp only [NumberParam.place, NumberDop.place, DiagCodedType.place, Place.stop,
    Place.byteCount, NumberParam.stop, byteLen]
  omega

theorem NumberParam.place_shift_stop {param : NumberParam conv} (fits : param.Fits) (start : Nat) :
    (param.place.shift start).stop = start + param.stop := by
  rw [← NumberParam.place_stop fits]
  exact Nat.add_assoc _ _ _

theorem encodeNumber_adds {param : NumberParam conv} (fits : param.Fits)
    (keeps : ∀ number, param.supplied members = .ok number → param.dop.Keeps number)
    (encoded : mapParamToUds strict (depth + 1) param.parameter (members.lookup param.shortName)
      payload start none = .ok after) :
    ∃ number, param.supplied members = .ok number ∧
      (1 ≤ param.dop.bitLength ∧ param.dop.bitLength ≤ 64) ∧
      after.length = max payload.length (start + param.stop) ∧
      Adds [⟨param.place.shift start, number⟩] payload after := by
  have mapped : (resolveRequiredParam (members.lookup param.shortName)
      (.normal param.dop.normalDop) param.physicalDefaultValue param.parameter.nameOrDefault >>=
        fun json => mapNormalDopToUds param.dop.normalDop json payload (start + param.bytePos)
          (param.bitPos.getD 0)) = .ok after := encoded
  cases resolved : resolveRequiredParam (members.lookup param.shortName)
      (.normal param.dop.normalDop) param.physicalDefaultValue param.parameter.nameOrDefault with
  | error error =>
    rw [resolved] at mapped
    cases mapped
  | ok json =>
    rw [resolved] at mapped
    have written : mapNormalDopToUds param.dop.normalDop json payload (start + param.bytePos)
        (param.bitPos.getD 0) = .ok after := mapped
    have position : param.bitPos.getD 0 ≤ 7 := by
      simp only [NumberParam.Fits, byteLen] at fits
      omega
    cases supplied : param.dop.number json with
    | error error =>
      simp only [NumberDop.number] at supplied
      simp only [mapNormalDopToUds, NumberDop.normalDop, bind, Except.bind] at written
      cases converted : jsonValueToUdsData conv param.dop.diagCodedType
          (some param.dop.compuMethod) param.dop.physicalType json with
      | error error =>
        rw [converted] at written
        cases written
      | ok data =>
        rw [converted] at supplied
        cases supplied
    | ok number =>
      have total : param.supplied members = .ok number := by
        rw [NumberParam.supplied, resolved]
        exact supplied
      obtain ⟨valid, length, adds⟩ :=
        NumberDop.mapNormalDopToUds_adds written supplied (keeps number total) position
      refine ⟨number, total, valid, ?_, adds⟩
      rw [← NumberParam.place_shift_stop fits start]
      exact length

/-- What the parameters of a structure at `start` have added to a payload. -/
structure ParamsAdded (params : List (ItemParam conv)) (members : List (Text × JsonValue))
    (start : Nat) (payload after : List UInt8) : Prop where
  valid : ∀ param ∈ params, param.Valid
  writes : ∃ writes, Adds writes payload after ∧
    List.Forall₂ (fun param write => write.place = param.place.shift start ∧
      param.supplied members = .ok write.number) (numbersOf params) writes
  grows : payload.length ≤ after.length
  filled : ∀ param ∈ params, param.filledTo start ≤ after.length
  bounded : ∀ bound, payload.length ≤ bound → (∀ param ∈ params, param.filledTo start ≤ bound) →
    after.length ≤ bound

/-- One round of the parameter loop of `map_struct_to_uds`. -/
def encodeItemParam (strict : Bool) (depth : Nat) (members : List (Text × JsonValue))
    (start : Nat) (payload : List UInt8) (param : ItemParam conv) :
    Except DiagServiceError (List UInt8) :=
  mapParamToUds strict depth param.parameter (members.lookup param.shortName) payload start none

def KeepsNumbers (params : List (ItemParam conv)) (members : List (Text × JsonValue)) : Prop :=
  ∀ param ∈ numbersOf params, ∀ number, param.supplied members = .ok number → param.dop.Keeps number

theorem ParamsAdded.append {first second : List (ItemParam conv)} {middle : List UInt8}
    (firstAdded : ParamsAdded first members start payload middle)
    (secondAdded : ParamsAdded second members start middle after) :
    ParamsAdded (first ++ second) members start payload after := by
  obtain ⟨firstWrites, firstAdds, firstPlaces⟩ := firstAdded.writes
  obtain ⟨secondWrites, secondAdds, secondPlaces⟩ := secondAdded.writes
  constructor
  · intro param mem
    obtain inFirst | inSecond := List.mem_append.mp mem
    · exact firstAdded.valid param inFirst
    · exact secondAdded.valid param inSecond
  · refine ⟨firstWrites ++ secondWrites, firstAdds.append secondAdds, ?_⟩
    rw [numbersOf, List.filterMap_append]
    exact List.rel_append firstPlaces secondPlaces
  · exact firstAdded.grows.trans secondAdded.grows
  · intro param mem
    obtain inFirst | inSecond := List.mem_append.mp mem
    · exact (firstAdded.filled param inFirst).trans secondAdded.grows
    · exact secondAdded.filled param inSecond
  · intro bound enough filled
    apply secondAdded.bounded bound
    · apply firstAdded.bounded bound enough
      intro param mem
      exact filled param (List.mem_append_left _ mem)
    · intro param mem
      exact filled param (List.mem_append_right _ mem)

theorem paramsAdded_singleton {param : ItemParam conv} {writes : List Write}
    (valid : param.Valid) (length : after.length = max payload.length (param.filledTo start))
    (adds : Adds writes payload after)
    (places : List.Forall₂ (fun param write => write.place = param.place.shift start ∧
      param.supplied members = .ok write.number) param.number?.toList writes) :
    ParamsAdded [param] members start payload after := by
  constructor
  · intro other mem
    rw [List.mem_singleton.mp mem]
    exact valid
  · refine ⟨writes, adds, ?_⟩
    rw [numbersOf, List.filterMap_cons]
    cases param with
    | value param | reserved param => exact places
  · omega
  · intro other mem
    rw [List.mem_singleton.mp mem, length]
    exact Nat.le_max_right _ _
  · intro bound enough filled
    rw [length]
    exact Nat.max_le.mpr ⟨enough, filled param List.mem_cons_self⟩

theorem paramsAdded_of_encodeItemParam {param : ItemParam conv} (fits : param.Fits)
    (keeps : KeepsNumbers [param] members)
    (encoded : encodeItemParam strict depth members start payload param = .ok after) :
    ParamsAdded [param] members start payload after := by
  cases depth with
  | zero => cases encoded
  | succ depth =>
    cases param with
    | value param =>
      obtain ⟨number, supplied, valid, length, adds⟩ :=
        encodeNumber_adds fits (keeps param List.mem_cons_self) encoded
      exact paramsAdded_singleton valid length adds (.cons ⟨rfl, supplied⟩ .nil)
    | reserved param =>
      obtain ⟨valid, length, adds⟩ := mapReservedParamToUds_adds fits encoded
      exact paramsAdded_singleton valid length adds .nil

variable {params : List (ItemParam conv)}

theorem paramsAdded_of_foldlM
    (fits : ∀ param ∈ params, param.Fits) (keeps : KeepsNumbers params members)
    (encoded : params.foldlM (encodeItemParam strict depth members start) payload = .ok after) :
    ParamsAdded params members start payload after := by
  induction params generalizing payload with
  | nil =>
    obtain rfl := Except.ok.inj encoded
    exact ⟨by simp, ⟨[], adds_nil payload, .nil⟩, Nat.le_refl _, by simp,
      fun _ enough _ => enough⟩
  | cons param params ih =>
    rw [List.foldlM_cons] at encoded
    cases first : encodeItemParam strict depth members start payload param with
    | error error =>
      rw [first] at encoded
      cases encoded
    | ok middle =>
      rw [first] at encoded
      have split : param :: params = [param] ++ params := rfl
      rw [split] at fits keeps ⊢
      simp only [KeepsNumbers, numbersOf, List.filterMap_append, List.mem_append] at keeps
      have one : ParamsAdded [param] members start payload middle := by
        apply paramsAdded_of_encodeItemParam (fits param List.mem_cons_self)
        · intro number mem
          exact keeps number (.inl mem)
        · exact first
      have rest : ParamsAdded params members start middle after := by
        apply ih
        · intro other mem
          exact fits other (List.mem_append_right _ mem)
        · intro number mem
          exact keeps number (.inr mem)
        · exact encoded
      exact one.append rest

/-- The payload holds the numbers of an object, for a structure at `start`. -/
def HoldsNumbers (params : List (ItemParam conv)) (members : List (Text × JsonValue))
    (payload : List UInt8) (start : Nat) : Prop :=
  ∀ param ∈ numbersOf params, ∃ number, param.supplied members = .ok number ∧
    param.dop.Keeps number ∧ (param.place.shift start).Reads payload number

theorem exists_mem_of_forall₂ {α β : Type} {related : α → β → Prop} {first : List α}
    {second : List β} (matched : List.Forall₂ related first second) {a : α} (mem : a ∈ first) :
    ∃ b ∈ second, related a b := by
  induction matched with
  | nil => simp at mem
  | @cons head partner _ _ both _ ih =>
    obtain rfl | inTail := List.mem_cons.mp mem
    · exact ⟨partner, List.mem_cons_self, both⟩
    · obtain ⟨b, inSecond, both⟩ := ih inTail
      exact ⟨b, List.mem_cons_of_mem _ inSecond, both⟩

theorem eq_or_of_pairwise {α : Type} {apart : α → α → Prop}
    (symm : ∀ first second, apart first second → apart second first) {items : List α}
    (pairwise : items.Pairwise apart) {item other : α} (mem : item ∈ items)
    (otherMember : other ∈ items) : other = item ∨ apart item other := by
  apply List.Pairwise.forall_of_forall_of_flip (R := fun first second : α =>
    second = first ∨ apart first second) _ _ _ mem otherMember
  · intro each _
    exact .inl rfl
  · exact pairwise.imp .inr
  · exact pairwise.imp fun each => .inr (symm _ _ each)

theorem others_of_pairwise {writes : List Write}
    (apart : writes.Pairwise fun first second => first.place.Apart second.place) {write : Write}
    (mem : write ∈ writes) : ∀ other ∈ writes, other = write ∨ write.place.Apart other.place := by
  intro other otherMember
  exact eq_or_of_pairwise (fun _ _ => Place.Apart.symm) apart mem otherMember

theorem ParamsAdded.holdsNumbers
    (added : ParamsAdded params members start payload after) (keeps : KeepsNumbers params members)
    (apart : (numbersOf params).Pairwise fun first second => first.place.Apart second.place)
    (vacant : payload.length ≤ start) : HoldsNumbers params members after start := by
  obtain ⟨writes, adds, matched⟩ := added.writes
  have places : writes.map Write.place =
      (numbersOf params).map fun param => param.place.shift start := by
    rw [← List.forall₂_eq_eq_eq, List.forall₂_map_left_iff, List.forall₂_map_right_iff]
    exact matched.flip.imp fun _ _ both => both.1
  have writesApart : writes.Pairwise fun first second => first.place.Apart second.place := by
    rw [← @List.pairwise_map _ _ Write.place Place.Apart, places, List.pairwise_map]
    exact apart.imp fun each => each.shift start
  intro param mem
  obtain ⟨write, written, place, supplied⟩ := exists_mem_of_forall₂ matched mem
  refine ⟨write.number, supplied, keeps param mem _ supplied, ?_⟩
  have behind : payload.length ≤ write.place.bytePos := by
    rw [place]
    exact vacant.trans (Nat.le_add_right _ _)
  rw [← place]
  exact adds.reads written (others_of_pairwise writesApart written) behind

theorem ParamsAdded.holds_eq (added : ParamsAdded params members start payload after) {cell : Cell}
    (before : cell.1 < start) : holds after cell = holds payload cell := by
  obtain ⟨writes, adds, matched⟩ := added.writes
  apply adds.holds_eq
  intro write written
  obtain ⟨param, _, place, _⟩ := exists_mem_of_forall₂ matched.flip written
  rw [place]
  exact before.trans_le (Nat.le_add_right _ _)

theorem paramsAdded_of_mapStructToUds {byteSize : Option Nat}
    {item : JsonValue} (fits : ∀ param ∈ params, param.Fits)
    (keeps : ∀ members, item.asObject = some members → KeepsNumbers params members)
    (encoded : mapStructToUds strict (mapParamToUds strict depth)
      ⟨some (params.map ItemParam.parameter), byteSize⟩ start item payload = .ok after) :
    ∃ members, item.asObject = some members ∧ ParamsAdded params members start payload after := by
  rw [mapStructToUds] at encoded
  cases object : item.asObject with
  | none =>
    rw [object] at encoded
    cases encoded
  | some members =>
    refine ⟨members, rfl, ?_⟩
    rw [object] at encoded
    have named : ∀ param : ItemParam conv, param.parameter.shortName = some param.shortName := by
      intro param
      cases param <;> rfl
    simp only [Option.getD_some, List.foldlM_map, named] at encoded
    cases expected : rejectUnexpectedKeys strict ((params.map ItemParam.parameter).filterMap
        Parameter.shortName) (members.map Prod.fst) with
    | error error =>
      rw [expected] at encoded
      cases encoded
    | ok unit =>
      rw [expected] at encoded
      exact paramsAdded_of_foldlM fits (keeps members object) encoded

end Encode

end DiagnosticAdapter.Kernel
