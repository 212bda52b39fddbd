import DiagnosticAdapter.Codec.Patches
import DiagnosticAdapter.Kernel.PayloadEncode

/-!
# Where the values of a structure are written

A structure is encoded behind what the payload holds already.  The values and length
keys are placed from the start of the structure; reserved and constant parameters, and
everything inside a constant structure, from the start of the payload.
-/

namespace DiagnosticAdapter.Kernel

open Bits Codec

variable {conv : Conversions}

/-- A value, reserved, constant or length key parameter; what it refers to is a number,
a structure, or nothing that a request can hold. -/
def Parameter.IsStructural (param : Parameter conv) : Prop :=
  (param.paramType = .ok .value ∨ param.paramType = .ok .reserved ∨
    param.paramType = .ok .physConst ∨ param.paramType = .ok .lengthKey) ∧
  match param.specificData with
  | .value _ (some (.endOfPdu _)) | .value _ (some (.mux _)) | .physConst _ (some (.mux _)) => False
  | _ => True

/-- All parameters are of these kinds, to any depth. -/
inductive StructureDop.IsStructural : StructureDop conv → Prop
  | intro (structDop : StructureDop conv)
      (params : ∀ param ∈ structDop.params.getD [], param.IsStructural)
      (inner : ∀ param ∈ structDop.params.getD [], ∀ inner, param.inner? = some inner →
        inner.IsStructural) :
      structDop.IsStructural

def normalPatches (normalDop : NormalDop conv) (value : JsonValue) (bytePos bitPos : Nat)
    (anchored : Bool) : Option (List Patch) := do
  let diagType ← normalDop.diagCodedType.toOption
  let udsData ← (jsonValueToUdsData conv diagType normalDop.compuMethod normalDop.physicalType
    value).toOption
  diagType.patches? udsData bytePos bitPos anchored

section Nested

variable (strict : Bool)
  (paramPatches : Parameter conv → Option JsonValue → Nat → Bool → Option (List Patch))

/-- The fields of a structure at `bytePos`. -/
def structPatches (structDop : StructureDop conv) (bytePos : Nat) (value : JsonValue)
    (anchored : Bool) : Option (List Patch) := do
  let members ← value.asObject
  let params := structDop.params.getD []
  (rejectUnexpectedKeys strict (params.filterMap Parameter.shortName)
    (members.map Prod.fst)).toOption
  List.flatten <$> params.mapM fun param => do
    let shortName ← param.shortName
    paramPatches param (members.lookup shortName) bytePos anchored

def dopPatches (param : Parameter conv) (dop : Option (DataOperation conv))
    (default : Option Text) (value : Option JsonValue) (bytePos : Nat) (anchored : Bool) :
    Option (List Patch) := do
  let dop ← dop
  let value ← (resolveRequiredParam value dop default param.nameOrDefault).toOption
  match dop with
  | .normal normalDop => normalPatches normalDop value bytePos param.bitPosition anchored
  | .struct structDop => structPatches strict paramPatches structDop bytePos value anchored
  | _ => none

/-- Only values and length keys add the position of their structure. -/
def paramKindPatches (param : Parameter conv) (value : Option JsonValue) (parentBytePos : Nat)
    (anchored : Bool) : Option (List Patch) :=
  match param.paramType, param.specificData with
  | .ok .value, .value default dop => dopPatches strict paramPatches param dop default value
      (parentBytePos + param.bytePosition) anchored
  | .ok .reserved, .reserved bitLength =>
    (reservedCodedType bitLength).patches? (List.replicate bitLength 0) param.bytePosition
      param.bitPosition false
  | .ok .physConst, .physConst constant dop =>
    dopPatches strict paramPatches param dop constant value param.bytePosition false
  | .ok .lengthKey, .lengthKeyRef (some (.normal normalDop)) => do
    let value ← value
    normalPatches normalDop value (parentBytePos + param.bytePosition) param.bitPosition anchored
  | _, _ => none

end Nested

/-- The fields that a parameter is written as, nested at most `depth` deep. -/
def paramPatches (strict : Bool) : Nat → Parameter conv → Option JsonValue → Nat → Bool →
    Option (List Patch)
  | 0, _, _, _, _ => none
  | depth + 1, param, value, parentBytePos, anchored =>
    paramKindPatches strict (paramPatches strict depth) param value parentBytePos anchored

/-- The outcome of writing the fields, if there are any to be written. -/
def written (start : Nat) (payload : List UInt8) (patches? : Option (List Patch)) :
    Option (List UInt8) :=
  patches?.map fun patches => applyAll start patches payload

section Written

variable {α : Type} {start : Nat}

theorem toOption_bind {payload : List UInt8} {outcome : Except DiagServiceError α}
    {next : α → Except DiagServiceError (List UInt8)} {plan : α → Option (List Patch)}
    (writes : ∀ result, (next result).toOption = written start payload (plan result)) :
    (outcome >>= next).toOption = written start payload (outcome.toOption >>= plan) := by
  cases outcome with
  | error failure => rfl
  | ok result => exact writes result

theorem toOption_foldlM {step : List UInt8 → α → Except DiagServiceError (List UInt8)}
    {plan : α → Option (List Patch)} {items : List α}
    (writes : ∀ item ∈ items, ∀ payload, (step payload item).toOption =
      written start payload (plan item)) (payload : List UInt8) :
    (items.foldlM step payload).toOption =
      written start payload ((items.mapM plan).map List.flatten) := by
  induction items generalizing payload with
  | nil => rfl
  | cons item rest ih =>
    have first := writes item (List.mem_cons_self ..) payload
    have later := ih fun other isOther =>
      writes other (List.mem_cons_of_mem _ isOther)
    rw [List.foldlM_cons, List.mapM_cons]
    cases planned : plan item with
    | none =>
      rw [planned] at first
      cases outcome : step payload item with
      | error failure => rfl
      | ok after =>
        rw [outcome] at first
        cases first
    | some patches =>
      rw [planned] at first
      cases outcome : step payload item with
      | error failure =>
        rw [outcome] at first
        cases first
      | ok after =>
        rw [outcome] at first
        cases first
        change (rest.foldlM step (applyAll start patches payload)).toOption = _
        rw [later]
        cases rest.mapM plan with
        | none => rfl
        | some others =>
          exact congrArg some (applyAll_append start patches others.flatten payload).symm

theorem mapNormalDopToUds_toOption (normalDop : NormalDop conv) (value : JsonValue)
    (payload : List UInt8) (start bytePos bitPos : Nat) (anchored : Bool) :
    (mapNormalDopToUds normalDop value payload (origin anchored start + bytePos) bitPos).toOption =
      written start payload (normalPatches normalDop value bytePos bitPos anchored) := by
  apply toOption_bind
  intro diagType
  apply toOption_bind
  intro udsData
  exact diagType.encode_toOption udsData payload start bytePos bitPos anchored

end Written

section Nested

variable {strict : Bool}
  {mapParam : Parameter conv → Option JsonValue → List UInt8 → Nat → Option ParameterMap →
    Except DiagServiceError (List UInt8)}
  {plan : Parameter conv → Option JsonValue → Nat → Bool → Option (List Patch)} {start : Nat}

variable (mapParam plan start) in
def WritesPlan (param : Parameter conv) : Prop :=
  ∀ value payload parentBytePos anchored,
    (mapParam param value payload (origin anchored start + parentBytePos) none).toOption =
      written start payload (plan param value parentBytePos anchored)

theorem mapStructToUds_toOption {structDop : StructureDop conv}
    (writes : ∀ param ∈ structDop.params.getD [], WritesPlan mapParam plan start param)
    (value : JsonValue) (payload : List UInt8) (bytePos : Nat) (anchored : Bool) :
    (mapStructToUds strict mapParam structDop (origin anchored start + bytePos) value
      payload).toOption =
      written start payload (structPatches strict plan structDop bytePos value anchored) := by
  rw [mapStructToUds, structPatches]
  cases value.asObject with
  | none => rfl
  | some members =>
    apply toOption_bind
    intro accepted
    apply toOption_foldlM
    intro param isParam payload
    cases param.shortName with
    | none => rfl
    | some shortName =>
      exact writes param isParam (members.lookup shortName) payload bytePos anchored

variable {param : Parameter conv} (structural : param.IsStructural)
  (inner : ∀ structDop, param.inner? = some structDop →
    ∀ param ∈ structDop.params.getD [], WritesPlan mapParam plan start param)
  (value : Option JsonValue) (payload : List UInt8)

include structural inner

theorem mapParamValueToUds_toOption (parentBytePos : Nat) (anchored : Bool)
    (isValue : param.paramType = .ok .value) :
    (mapParamValueToUds strict mapParam param value payload
      (origin anchored start + parentBytePos)).toOption =
      written start payload (paramKindPatches strict plan param value parentBytePos anchored) := by
  have data := structural.2
  rw [mapParamValueToUds, paramKindPatches, isValue]
  cases specific : param.specificData with
  | value default dop? =>
    simp only [specific, Parameter.inner?] at data inner
    cases dop? with
    | none => rfl
    | some dop =>
      apply toOption_bind
      intro value
      cases dop with
      | normal normalDop =>
        dsimp only
        rw [Nat.add_assoc]
        exact mapNormalDopToUds_toOption normalDop value payload start _ _ anchored
      | struct structDop =>
        dsimp only
        rw [Nat.add_comm, Nat.add_assoc]
        exact mapStructToUds_toOption (inner structDop rfl) value payload _ anchored
      | endOfPdu endOfPdu | mux muxDop => exact data.elim
      | _ => rfl
  | _ => rfl

theorem mapPhysConstParamToUds_toOption (parentBytePos : Nat) (anchored : Bool)
    (isPhysConst : param.paramType = .ok .physConst) :
    (mapPhysConstParamToUds strict mapParam param payload value).toOption =
      written start payload (paramKindPatches strict plan param value parentBytePos anchored) := by
  have data := structural.2
  rw [mapPhysConstParamToUds, paramKindPatches, isPhysConst]
  cases specific : param.specificData with
  | physConst constant dop? =>
    simp only [specific, Parameter.inner?] at data inner
    cases dop? with
    | none => rfl
    | some dop =>
      apply toOption_bind
      intro value
      -- the position of the structure is not added
      cases dop with
      | normal normalDop =>
        have encoded := mapNormalDopToUds_toOption normalDop value payload start
          param.bytePosition param.bitPosition false
        rw [origin_false, Nat.zero_add] at encoded
        exact encoded
      | struct structDop =>
        have encoded := @mapStructToUds_toOption _ strict _ _ _ _ (inner structDop rfl) value
          payload param.bytePosition false
        rw [origin_false, Nat.zero_add] at encoded
        exact encoded
      | mux muxDop => exact data.elim
      | _ => rfl
  | _ => rfl

theorem mapParamKindToUds_toOption (parentBytePos : Nat) (anchored : Bool) :
    (mapParamKindToUds strict mapParam param value payload (origin anchored start + parentBytePos)
      none).toOption =
      written start payload (paramKindPatches strict plan param value parentBytePos anchored) := by
  rcases structural.1 with isValue | isReserved | isPhysConst | isLengthKey
  · rw [mapParamKindToUds, isValue]
    exact mapParamValueToUds_toOption structural inner value payload parentBytePos anchored isValue
  · rw [mapParamKindToUds, paramKindPatches, isReserved]
    change (mapReservedParamToUds _ _).toOption = _
    rw [mapReservedParamToUds]
    cases specific : param.specificData with
    | reserved bitLength =>
      have encoded := (reservedCodedType bitLength).encode_toOption (List.replicate bitLength 0)
        payload start param.bytePosition param.bitPosition false
      rw [origin_false, Nat.zero_add] at encoded
      exact encoded
    | _ => rfl
  · rw [mapParamKindToUds, isPhysConst]
    exact mapPhysConstParamToUds_toOption structural inner value payload parentBytePos anchored
      isPhysConst
  · rw [mapParamKindToUds, paramKindPatches, isLengthKey]
    change (mapParamLengthKeyToUds _ _ _ _).toOption = _
    rw [mapParamLengthKeyToUds]
    cases specific : param.specificData with
    | lengthKeyRef dop? =>
      cases dop? with
      | none => rfl
      | some dop =>
        cases value with
        | none => cases dop <;> rfl
        | some value =>
          cases dop with
          | normal normalDop =>
            dsimp only
            rw [Nat.add_assoc]
            exact mapNormalDopToUds_toOption normalDop value payload start _ _ anchored
          | _ => rfl
    | _ => rfl

end Nested

variable {structDop : StructureDop conv}

theorem writesPlan_paramPatches (strict : Bool) (depth start : Nat)
    (structural : structDop.IsStructural) :
    ∀ param ∈ structDop.params.getD [],
      WritesPlan (mapParamToUds strict depth) (paramPatches strict depth) start param := by
  induction depth generalizing structDop with
  | zero =>
    intro param isParam value payload parentBytePos anchored
    rfl
  | succ depth ih =>
    obtain ⟨_, params, inner⟩ := structural
    intro param isParam value payload parentBytePos anchored
    exact mapParamKindToUds_toOption (params param isParam)
      (fun innerDop isInner => ih (inner param isParam innerDop isInner))
      value payload parentBytePos anchored

theorem mapStructToUds_eq_written (strict : Bool) (depth : Nat)
    (structural : structDop.IsStructural) (value : JsonValue) (payload : List UInt8)
    (start : Nat) :
    (mapStructToUds strict (mapParamToUds strict depth) structDop start value payload).toOption =
      written start payload
        (structPatches strict (paramPatches strict depth) structDop 0 value true) :=
  mapStructToUds_toOption (writesPlan_paramPatches strict depth start structural) value payload 0
    true

/-- A structure is encoded behind any payload as it is alone exactly if whatever is not
placed from its start writes no bit, and ends no later than what is. -/
theorem struct_moves_iff_harmless
    (structural : structDop.IsStructural) (strict : Bool) (depth : Nat) (value : JsonValue) :
    (∀ payload : List UInt8,
      (mapStructToUds strict (mapParamToUds strict depth) structDop payload.length value
        payload).toOption =
      (mapStructToUds strict (mapParamToUds strict depth) structDop 0 value []).toOption.map
        (payload ++ ·)) ↔
    ∀ patches, structPatches strict (paramPatches strict depth) structDop 0 value true =
      some patches → Harmless patches := by
  simp only [mapStructToUds_eq_written strict depth structural]
  cases structPatches strict (paramPatches strict depth) structDop 0 value true with
  | none => simp [written]
  | some patches =>
    simp only [written, Option.map_some, Option.some.injEq, forall_eq']
    exact applyAll_moves_iff

namespace IntegerDatabase

def spareBits (bytePos bitLength : Nat) : Parameter integerConversions :=
  ⟨.ok .reserved, some "spare".toList, none, some bytePos, none, .reserved bitLength⟩

def constantByte : Parameter integerConversions :=
  ⟨.ok .physConst, some "mode".toList, none, some 0, none,
    .physConst (some "85".toList) (some (normalDop (number 8)))⟩

/-- Two bytes, the last in a structure of its own with spare bits in front of it. -/
def sparedPair : StructureDop integerConversions :=
  structure_ [valueParam "first" 0 (normalDop (number 8)), valueParam "rest" 1
      (.struct (structure_ [spareBits 0 4, valueParam "last" 1 (normalDop (number 8))]))]

def firstAndLast : JsonValue :=
  .object [("first".toList, .number (.posInt 1)),
    ("rest".toList, .object [("spare".toList, .number (.posInt 0)),
      ("last".toList, .number (.posInt 2))])]

theorem structure_isStructural {params : List (Parameter integerConversions)}
    (structural : params.Forall fun param => param.IsStructural ∧
      ∀ inner, param.inner? = some inner → inner.IsStructural) :
    (structure_ params).IsStructural := by
  rw [List.forall_iff_forall_mem] at structural
  constructor
  · intro param isParam
    exact (structural param isParam).1
  · intro param isParam
    exact (structural param isParam).2

theorem sparedPair_isStructural : sparedPair.IsStructural := by
  apply structure_isStructural
  refine ⟨⟨⟨.inl rfl, trivial⟩, ?_⟩, ⟨.inl rfl, trivial⟩, ?_⟩
  · intro inner isInner
    cases isInner
  · intro inner isInner
    cases isInner
    apply structure_isStructural
    refine ⟨⟨⟨.inr (.inl rfl), trivial⟩, ?_⟩, ⟨.inl rfl, trivial⟩, ?_⟩ <;>
      · intro inner isInner
        cases isInner

theorem sparedPair_moves :
    (mapStructToUds true (mapParamToUds true 2) sparedPair 2 firstAndLast [0x31, 0x01]).toOption =
      (mapStructToUds true (mapParamToUds true 2) sparedPair 0 firstAndLast []).toOption.map
        ([0x31, 0x01] ++ ·) := by
  have harmless : (structPatches true (paramPatches true 2) sparedPair 0 firstAndLast true).all
      (fun patches => decide (Harmless patches)) = true := by
    decide +kernel
  have moves := (struct_moves_iff_harmless sparedPair_isStructural true 2 firstAndLast).2
  refine moves ?_ [0x31, 0x01]
  intro patches planned
  rw [planned] at harmless
  exact of_decide_eq_true harmless

/-- The constant of a structure behind two bytes is written over the first of them. -/
theorem constantByte_over_first_byte : (structure_ [constantByte]).IsStructural ∧
      ¬∀ payload : List UInt8,
        (mapStructToUds true (mapParamToUds true 1) (structure_ [constantByte]) payload.length
          (.object []) payload).toOption =
        (mapStructToUds true (mapParamToUds true 1) (structure_ [constantByte]) 0 (.object [])
          []).toOption.map (payload ++ ·) := by
  constructor
  · apply structure_isStructural
    refine ⟨⟨.inr (.inr (.inl rfl)), trivial⟩, ?_⟩
    intro inner isInner
    cases isInner
  · intro moves
    have behind : (mapStructToUds true (mapParamToUds true 1) (structure_ [constantByte]) 2
        (.object []) [0x31, 0x01]).toOption = some [0x75, 0x01] := by decide +kernel
    have alone : (mapStructToUds true (mapParamToUds true 1) (structure_ [constantByte]) 0
        (.object []) []).toOption = some [0x55] := by decide +kernel
    have same := moves [0x31, 0x01]
    rw [alone] at same
    cases behind.symm.trans same

end IntegerDatabase

end DiagnosticAdapter.Kernel
