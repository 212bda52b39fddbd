import DiagnosticAdapter.Kernel.LimitIntervals

/-!
# Text tables in both directions

A text is written as the lower limit of the scale that carries it, and a number is read as the
text of the scale whose interval it lies in.
-/

namespace DiagnosticAdapter.Kernel

open Bits Codec Effects

structure IntegerLimit where
  limit : Dataformat.Limit
  bound : Int
  denotes : decimalNumber? (limit.value.getD []) = some bound
  finite : limit.intervalType ≠ .infinite

structure TableScale where
  scale : Dataformat.CompuScale
  text : Text
  lower : Option IntegerLimit
  upper : Option IntegerLimit
  isText : scale.text = some text
  isLower : scale.lowerLimit = lower.map (·.limit)
  isUpper : scale.upperLimit = upper.map (·.limit)

structure TableScale.Contains (scale : TableScale) (number : Int) : Prop where
  above : ∀ lower ∈ scale.lower,
    if lower.limit.intervalType = .open then lower.bound < number else lower.bound ≤ number
  below : ∀ upper ∈ scale.upper,
    if upper.limit.intervalType = .open then number < upper.bound else number ≤ upper.bound

def InRange (isSigned : Bool) (number : Int) : Prop :=
  leastInteger isSigned ≤ number ∧ number ≤ greatestInteger isSigned

structure TextTable where
  isSigned : Bool
  method : Dataformat.CompuMethod
  isTable : method.category = .textTable
  scales : List TableScale
  isScales : method.scales = scales.map (·.scale)
  distinct : (scales.map (·.text)).Nodup
  inhabited : ∀ scale ∈ scales, ∃ number, InRange isSigned number ∧ scale.Contains number
  disjoint : scales.Pairwise fun first second =>
    ∀ number, InRange isSigned number → first.Contains number → ¬second.Contains number

namespace TextTable

variable (conv : Conversions) (linear : LinearMethods) (table : TextTable) (own : TableScale)

/-- The text is written as a number of its own scale, from which it is read again. -/
def RoundTrips : Prop :=
  ∀ (diagType : DiagCodedType) (physType : Option PhysicalType),
    diagType.baseDatatype = integerType table.isSigned →
      ∃ number, InRange table.isSigned number ∧ own.Contains number ∧
        jsonValueToUdsData (compuConversions conv linear) diagType (some table.method) physType
          (.string own.text) = .ok (integerBytes table.isSigned number) ∧
        udsDataToSerializable (compuConversions conv linear) diagType.baseDatatype
          (some table.method) (integerBytes table.isSigned number) = .ok (.string own.text)

/-- The unquoted text is that of a scale whose lower limit the type holds and the own scale
contains, and the type holds the own limits. -/
structure Convertible : Prop where
  written : ∃ scale ∈ table.scales, scale.text = unquoted own.text ∧
    ∃ lower ∈ scale.lower, InRange table.isSigned lower.bound ∧ own.Contains lower.bound
  lowerFits : ∀ lower ∈ own.lower, leastInteger table.isSigned ≤ lower.bound
  upperFits : ∀ upper ∈ own.upper, upper.bound ≤ greatestInteger table.isSigned

end TextTable

section Scales

variable {conv : Conversions} {isSigned : Bool} {number : Int} {scale : TableScale}

theorem leastInteger_lt : -2 ^ 53 < leastInteger isSigned := by
  rw [leastInteger]
  split_ifs <;> decide

theorem greatestInteger_lt : greatestInteger isSigned < 2 ^ 53 := by
  rw [greatestInteger]
  split_ifs <;> decide

theorem withinLimits_integerValue_iff (inRange : InRange isSigned number) {Bounded : Type}
    {limitOf : Bounded → Limit} {boundOf : Bounded → Int}
    (denotes : ∀ bounded, decimalNumber? (limitOf bounded).value = some (boundOf bounded))
    {upper lower : Option Bounded} :
    (integerValue isSigned number).withinLimits (floatConversions conv) (upper.map limitOf)
        (lower.map limitOf) = true ↔
      (∀ bounded ∈ upper, KeepsUpper (leastInteger isSigned) (greatestInteger isSigned) number
          (limitOf bounded).intervalType (boundOf bounded)) ∧
        ∀ bounded ∈ lower, KeepsLower (leastInteger isSigned) (greatestInteger isSigned) number
          (limitOf bounded).intervalType (boundOf bounded) := by
  cases isSigned with
  | true =>
    have reads (text : Text) : ((floatConversions conv).limitToI32 text).map id =
        limitToInt (-2 ^ 31) (2 ^ 31 - 1) text := Option.map_id_apply
    exact @checkNumericLimits_iff (-2 ^ 31) (2 ^ 31 - 1) Int (· < ·) (· ≤ ·)
      (floatConversions conv).limitToI32 id number (by simp) (by simp) reads (by norm_num)
      (by norm_num) Bounded limitOf boundOf denotes upper lower
  | false =>
    have reads (text : Text) : ((floatConversions conv).limitToU32 text).map Int.ofNat =
        limitToInt 0 (2 ^ 32 - 1) text := map_toNat_limitToInt (by norm_num) text
    have nonneg : (number.toNat : Int) = number := Int.toNat_of_nonneg inRange.1
    have accepted := @checkNumericLimits_iff 0 (2 ^ 32 - 1) Nat (· < ·) (· ≤ ·)
      (floatConversions conv).limitToU32 Int.ofNat number.toNat (by simp) (by simp) reads
      (by norm_num) (by norm_num) Bounded limitOf boundOf denotes upper lower
    rw [Int.ofNat_eq_natCast, nonneg] at accepted
    exact accepted

def TableScale.Fits (scale : TableScale) (isSigned : Bool) : Prop :=
  (∀ lower ∈ scale.lower, leastInteger isSigned ≤ lower.bound) ∧
    ∀ upper ∈ scale.upper, upper.bound ≤ greatestInteger isSigned

instance (scale : TableScale) (isSigned : Bool) : Decidable (scale.Fits isSigned) :=
  inferInstanceAs (Decidable (_ ∧ _))

variable (conv isSigned number) in
def finds (scale : CompuScale) : Bool :=
  (integerValue isSigned number).withinLimits (floatConversions conv) scale.upperLimit
    scale.lowerLimit

theorem finds_iff (inRange : InRange isSigned number) :
    finds conv isSigned number scale.scale.into = true ↔
      scale.Contains number ∧ scale.Fits isSigned := by
  have upper : scale.scale.into.upperLimit = scale.upper.map (·.limit.into) := by
    rw [Dataformat.CompuScale.into, scale.isUpper, Option.map_map]
    rfl
  have lower : scale.scale.into.lowerLimit = scale.lower.map (·.limit.into) := by
    rw [Dataformat.CompuScale.into, scale.isLower, Option.map_map]
    rfl
  rw [finds, upper, lower, withinLimits_integerValue_iff inRange (fun limit : IntegerLimit =>
    limit.denotes)]
  obtain ⟨least, greatest⟩ := inRange
  constructor
  · rintro ⟨upperKept, lowerKept⟩
    refine ⟨⟨?_, ?_⟩, ?_, ?_⟩
    · intro limit given
      exact (lowerKept limit given).2
    · intro limit given
      exact (upperKept limit given).2
    · intro limit given
      exact (lowerKept limit given).1.1
    · intro limit given
      exact (upperKept limit given).1.2
  · rintro ⟨contains, lowerFits, upperFits⟩
    constructor
    · intro limit given
      have kept := contains.below limit given
      have fits := upperFits limit given
      refine ⟨⟨?_, fits⟩, kept⟩
      split_ifs at kept <;> omega
    · intro limit given
      have kept := contains.above limit given
      have fits := lowerFits limit given
      refine ⟨⟨fits, ?_⟩, kept⟩
      split_ifs at kept <;> omega

end Scales

theorem udsDataToSerializable_of_method {conv : Conversions} {method : conv.CompuMethod}
    (kept : conv.category method ≠ .identical) {dataType : DataType} {data : List UInt8}
    (given : data.isEmpty = false) :
    udsDataToSerializable conv dataType (some method) data =
      conv.compuLookup dataType method data := by
  rw [udsDataToSerializable, if_neg (by simp [given]), Option.filter_some,
    if_pos (decide_eq_true kept)]

theorem TableScale.compuLookupTextTable_eq (scale : TableScale) :
    compuLookupTextTable scale.scale.into = .ok (.string scale.text) := by
  have isText := scale.isText
  rw [← into_text, CompuScale.text] at isText
  rw [compuLookupTextTable]
  cases given : scale.scale.into.consts with
  | none =>
    rw [given] at isText
    cases isText
  | some consts =>
    rw [given, Option.bind_some] at isText
    dsimp only
    rw [isText]

namespace TextTable

section Directions

variable {conv : Conversions} {linear : LinearMethods} {table : TextTable} {own : TableScale}
  {diagType : DiagCodedType} {physType : Option PhysicalType} {number : Int}

theorem encodedScale_eq_some_iff {text : Text} {found : Dataformat.CompuScale} :
    encodedScale table.method.scales text = some found ↔
      ∃ scale ∈ table.scales, scale.text = text ∧ scale.lower.isSome ∧ scale.scale = found := by
  have selects (scale : TableScale) : (scale.scale.text = some text ∧
      scale.scale.lowerLimit.isSome) ↔ scale.text = text ∧ scale.lower.isSome := by
    rw [scale.isText, scale.isLower, Option.isSome_map, Option.some.injEq]
  rw [encodedScale, table.isScales, List.find?_map, Option.map_eq_some_iff]
  constructor
  · rintro ⟨scale, first, same⟩
    have holds := List.find?_some first
    obtain ⟨isText, isLower⟩ := (selects scale).mp (of_decide_eq_true holds)
    exact ⟨scale, List.mem_of_find?_eq_some first, isText, isLower, same⟩
  · rintro ⟨scale, mem, isText, isLower, same⟩
    have present : (table.scales.find? ((fun scale : Dataformat.CompuScale =>
        decide (scale.text = some text ∧ scale.lowerLimit.isSome)) ∘ TableScale.scale)).isSome := by
      rw [List.find?_isSome]
      exact ⟨scale, mem, decide_eq_true ((selects scale).mpr ⟨isText, isLower⟩)⟩
    obtain ⟨other, first⟩ := Option.isSome_iff_exists.mp present
    have holds := List.find?_some first
    have otherText := ((selects other).mp (of_decide_eq_true holds)).1
    have equal := List.inj_on_of_nodup_map table.distinct (List.mem_of_find?_eq_some first) mem
      (otherText.trans isText.symm)
    exact ⟨other, first, equal ▸ same⟩

theorem convert_eq_ok_iff (base : diagType.baseDatatype = integerType table.isSigned)
    {text : Text} {data : List UInt8} :
    jsonValueToUdsData (compuConversions conv linear) diagType (some table.method) physType
        (.string text) = .ok data ↔
      ∃ scale ∈ table.scales, scale.text = unquoted text ∧ ∃ lower ∈ scale.lower,
        InRange table.isSigned lower.bound ∧ data = integerBytes table.isSigned lower.bound := by
  have numeric : integerType table.isSigned = .int32 ∨ integerType table.isSigned = .uint32 ∨
      integerType table.isSigned = .float32 ∨ integerType table.isSigned = .float64 := by
    rw [integerType]
    split_ifs <;> simp
  rw [jsonValueToUdsData_textTable table.isTable, base, compuConvertTextTable,
    if_neg (not_not.mpr numeric), JsonValue.asStr, Option.map_some]
  dsimp only
  rw [Dataformat.CompuMethod.into, textTableLimit_eq]
  have reads (lower : IntegerLimit) (number : Int) :
      limitToInt (leastInteger table.isSigned) (greatestInteger table.isSigned)
          lower.limit.into.value = some number ↔
        InRange table.isSigned lower.bound ∧ lower.bound = number := by
    rw [Dataformat.Limit.into,
      limitToInt_of_decimalNumber? leastInteger_lt greatestInteger_lt lower.denotes,
      Option.ite_none_right_eq_some, Option.some.injEq]
    rfl
  constructor
  · intro converted
    cases found : encodedScale table.method.scales (unquoted text) with
    | none =>
      rw [found] at converted
      cases converted
    | some written =>
      obtain ⟨scale, mem, isText, isLower, rfl⟩ := encodedScale_eq_some_iff.mp found
      obtain ⟨lower, given⟩ := Option.isSome_iff_exists.mp isLower
      rw [found, Option.bind_some, scale.isLower, given] at converted
      obtain ⟨number, read, same⟩ := limitToUdsData_eq_ok_iff.mp converted
      obtain ⟨inRange, rfl⟩ := (reads lower number).mp read
      exact ⟨scale, mem, isText, lower, given, inRange, same⟩
  · rintro ⟨scale, mem, isText, lower, given, inRange, rfl⟩
    have found := encodedScale_eq_some_iff.mpr
      ⟨scale, mem, isText, Option.isSome_iff_exists.mpr ⟨lower, given⟩, rfl⟩
    rw [found, Option.bind_some, scale.isLower, given]
    apply limitToUdsData_eq_ok_iff.mpr
    exact ⟨lower.bound, (reads lower lower.bound).mpr ⟨inRange, rfl⟩, rfl⟩

theorem eq_of_contains {other : TableScale} (mem : own ∈ table.scales)
    (otherMember : other ∈ table.scales) (inRange : InRange table.isSigned number)
    (contains : own.Contains number) (otherContains : other.Contains number) : other = own := by
  have symmetric : Std.Symm fun first second : TableScale => ∀ number,
      InRange table.isSigned number → first.Contains number → ¬second.Contains number :=
    ⟨fun _ _ apart number inRange first second => apart number inRange second first⟩
  by_contra ne
  exact table.disjoint.forall otherMember mem ne number inRange otherContains contains

theorem find?_finds (mem : own ∈ table.scales) (inRange : InRange table.isSigned number)
    (contains : own.Contains number) :
    table.method.into.internalToPhys.scales.find? (finds conv table.isSigned number) =
      if own.Fits table.isSigned then some own.scale.into else none := by
  have scales : table.method.into.internalToPhys.scales =
      table.scales.map fun scale => scale.scale.into := by
    rw [Dataformat.CompuMethod.into, table.isScales, List.map_map]
    rfl
  rw [scales, List.find?_map]
  split_ifs with fits
  · have present : (table.scales.find? (finds conv table.isSigned number ∘
        fun scale => scale.scale.into)).isSome := by
      rw [List.find?_isSome]
      exact ⟨own, mem, (finds_iff inRange).mpr ⟨contains, fits⟩⟩
    obtain ⟨other, found⟩ := Option.isSome_iff_exists.mp present
    have holds := List.find?_some found
    have otherContains := ((finds_iff inRange).mp holds).1
    rw [found, eq_of_contains mem (List.mem_of_find?_eq_some found) inRange contains
      otherContains]
    rfl
  · rw [Option.map_eq_none_iff, List.find?_eq_none]
    intro other otherMember found
    obtain ⟨otherContains, otherFits⟩ := (finds_iff inRange).mp found
    rw [eq_of_contains mem otherMember inRange contains otherContains] at otherFits
    exact fits otherFits

theorem lookup_eq_ok_iff (base : diagType.baseDatatype = integerType table.isSigned)
    (mem : own ∈ table.scales) (inRange : InRange table.isSigned number)
    (contains : own.Contains number) :
    udsDataToSerializable (compuConversions conv linear) diagType.baseDatatype
        (some table.method) (integerBytes table.isSigned number) = .ok (.string own.text) ↔
      own.Fits table.isSigned := by
  have given : (integerBytes table.isSigned number).isEmpty = false := by
    rw [List.isEmpty_eq_false_iff_exists_mem]
    exact List.exists_mem_of_length_pos (by rw [length_integerBytes]; decide)
  have kept : (compuConversions conv linear).category table.method ≠ .identical := by
    change table.method.category ≠ _
    rw [table.isTable]
    decide
  have read := new_integerBytes inRange.1 inRange.2
  have found := @find?_finds conv table own number mem inRange contains
  have category : table.method.into.category = .textTable := table.isTable
  rw [udsDataToSerializable_of_method kept given, base]
  change compuLookup conv linear _ table.method.into _ = _ ↔ _
  rw [compuLookup, if_neg (by simp [category]), read]
  unfold finds at found
  simp only [bind, Except.bind, found]
  split_ifs with fits
  · dsimp only
    rw [category]
    simp [own.compuLookupTextTable_eq, fits]
  · have numeric : integerValue table.isSigned number ≠ .string own.text := by
      rw [integerValue]
      split_ifs <;> simp
    dsimp only
    simp [fits, numeric]

theorem integerBytes_inj {isSigned : Bool} {other : Int} (inRange : InRange isSigned number)
    (otherInRange : InRange isSigned other)
    (same : integerBytes isSigned number = integerBytes isSigned other) : number = other := by
  have read := new_integerBytes inRange.1 inRange.2
  rw [same, new_integerBytes otherInRange.1 otherInRange.2, Except.ok.injEq, integerValue,
    integerValue] at read
  cases isSigned with
  | true => simpa using read.symm
  | false =>
    have nonneg : 0 ≤ number := inRange.1
    have otherNonneg : 0 ≤ other := otherInRange.1
    simp only [Bool.false_eq_true, if_false, DiagDataValue.uint32.injEq] at read
    omega

/-- Without quotation marks in the text, the own lower limit is closed and the type holds both. -/
theorem convertible_iff_of_plain (mem : own ∈ table.scales)
    (plain : unquoted own.text = own.text) : table.Convertible own ↔
      (∃ lower ∈ own.lower, lower.limit.intervalType = .closed ∧
          leastInteger table.isSigned ≤ lower.bound) ∧
        ∀ upper ∈ own.upper, upper.bound ≤ greatestInteger table.isSigned := by
  constructor
  · rintro ⟨⟨scale, scaleMember, isText, lower, given, inRange, contains⟩, _, upperFits⟩
    rw [plain] at isText
    obtain rfl := List.inj_on_of_nodup_map table.distinct scaleMember mem isText
    refine ⟨⟨lower, given, ?_, inRange.1⟩, upperFits⟩
    have above := contains.above lower given
    cases kind : lower.limit.intervalType with
    | «open» =>
      rw [kind, if_pos rfl] at above
      exact absurd above (lt_irrefl _)
    | closed => rfl
    | infinite => exact absurd kind lower.finite
  · rintro ⟨⟨lower, given, closed, least⟩, upperFits⟩
    obtain ⟨number, inRange, contains⟩ := table.inhabited own mem
    have above := contains.above lower given
    rw [closed, if_neg (by decide)] at above
    have only {other : IntegerLimit} (otherGiven : other ∈ own.lower) : other = lower :=
      Option.mem_unique otherGiven given
    refine ⟨⟨own, mem, plain.symm, lower, given, ⟨least, above.trans inRange.2⟩, ?_, ?_⟩, ?_,
      upperFits⟩
    · intro other otherGiven
      rw [only otherGiven, closed, if_neg (by decide)]
    · intro upper upperGiven
      have below := contains.below upper upperGiven
      split_ifs at below ⊢ <;> omega
    · intro other otherGiven
      rw [only otherGiven]
      exact least

end Directions

/-- The texts that are written and read again. -/
theorem roundTrips_iff_convertible (conv : Conversions) (linear : LinearMethods)
    (table : TextTable) (index : Fin table.scales.length) :
    table.RoundTrips conv linear (table.scales.get index) ↔
      table.Convertible (table.scales.get index) := by
  have mem := List.get_mem table.scales index
  generalize table.scales.get index = own at mem
  constructor
  · intro roundTrips
    obtain ⟨number, inRange, contains, converted, looked⟩ :=
      roundTrips ⟨integerType table.isSigned, .standardLength ⟨32, none, false⟩, true⟩ none rfl
    obtain ⟨scale, scaleMember, isText, lower, given, lowerInRange, same⟩ :=
      (convert_eq_ok_iff rfl).mp converted
    obtain ⟨lowerFits, upperFits⟩ := (lookup_eq_ok_iff rfl mem inRange contains).mp looked
    have equal := integerBytes_inj inRange lowerInRange same
    exact ⟨⟨scale, scaleMember, isText, lower, given, lowerInRange, equal ▸ contains⟩, lowerFits,
      upperFits⟩
  · rintro ⟨⟨scale, scaleMember, isText, lower, given, inRange, contains⟩, lowerFits, upperFits⟩
      diagType physType base
    refine ⟨lower.bound, inRange, contains, ?_, ?_⟩
    · exact (convert_eq_ok_iff base).mpr ⟨scale, scaleMember, isText, lower, given, inRange, rfl⟩
    · exact (lookup_eq_ok_iff base mem inRange contains).mpr ⟨lowerFits, upperFits⟩

def positiveScale : TableScale where
  scale := ⟨none, some ⟨some "0".toList, .open⟩, some ⟨some "5".toList, .closed⟩, none,
    some ⟨none, some "on".toList, none⟩, none⟩
  text := "on".toList
  lower := some ⟨⟨some "0".toList, .open⟩, 0, by decide, by decide⟩
  upper := some ⟨⟨some "5".toList, .closed⟩, 5, by decide, by decide⟩
  isText := rfl
  isLower := rfl
  isUpper := rfl

def positiveTable : TextTable where
  isSigned := false
  method := ⟨.textTable, some ⟨some [positiveScale.scale]⟩⟩
  isTable := rfl
  scales := [positiveScale]
  isScales := rfl
  distinct := List.nodup_singleton _
  inhabited := by
    intro scale member
    obtain rfl := List.mem_singleton.mp member
    refine ⟨1, ⟨by decide, by decide⟩, ?_, ?_⟩
    · rintro lower given
      cases given
      decide
    · rintro upper given
      cases given
      decide
  disjoint := List.pairwise_singleton _ _

/-- An open limit is written although it is not in its scale. -/
theorem not_roundTrips_positive : ¬∀ (conv : Conversions) (linear : LinearMethods)
    (table : TextTable) (index : Fin table.scales.length),
    table.RoundTrips conv linear (table.scales.get index) := by
  intro everyScaleRoundTrips
  let linear : LinearMethods := ⟨fun _ _ _ _ => .ok [], fun _ _ _ _ => .ok (.string [])⟩
  obtain ⟨number, inRange, contains, converted, _⟩ :=
    everyScaleRoundTrips integerConversions linear positiveTable ⟨0, by decide⟩
      ⟨.uint32, .standardLength ⟨8, none, false⟩, true⟩ none rfl
  obtain ⟨scale, mem, _, lower, given, lowerInRange, same⟩ :=
    (convert_eq_ok_iff rfl).mp converted
  obtain rfl := List.mem_singleton.mp mem
  cases given
  have zero := integerBytes_inj inRange lowerInRange same
  have positive := contains.above _ rfl
  rw [zero] at positive
  revert positive
  decide

end TextTable

end DiagnosticAdapter.Kernel
