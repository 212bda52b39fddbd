import DiagnosticAdapter.Kernel.CodedConst
import DiagnosticAdapter.Kernel.CompuMethod
import DiagnosticAdapter.Kernel.MuxMetadata

/-!
# Reported coded values

`resolve_phys_const_coded_value` and `extract_value_dop_info` report the coded value of a
constant and of a default.  The encoder converts the same text on its own when a request does
not supply the parameter.
-/

namespace DiagnosticAdapter.Kernel

open Bits Codec Effects

def parseLimitAsU64 (text : Text) : Option Nat :=
  match parseUnsigned 64 10 text with
  | .ok number => some number
  | .error _ => (parseFloat text).map fun literal => (literal.value .double).saturate 64

namespace Dataformat

def CompuScale.isNamed (scale : CompuScale) (physValue : Text) : Bool :=
  scale.consts.any fun consts => consts.vt = some physValue ∨ consts.vtTi = some physValue

def CompuScale.text (scale : CompuScale) : Option Text :=
  scale.consts.bind fun consts => consts.vt.or consts.vtTi

def CompuScale.isClosed (scale : CompuScale) : Bool :=
  (scale.lowerLimit.map (·.intervalType)).getD .infinite = .closed ∧
    (scale.upperLimit.map (·.intervalType)).getD .infinite = .closed

def Limit.asU64 (limit : Limit) : Option Nat := limit.value.bind parseLimitAsU64

end Dataformat

/-- A scale of this text without a lower limit ends the search. -/
def resolveTextTable (physValue : Text) : List Dataformat.CompuScale → Option Nat
  | [] => none
  | scale :: rest =>
    if !scale.isNamed physValue then resolveTextTable physValue rest
    else
      match scale.lowerLimit with
      | none => none
      | some limit =>
        if !scale.isClosed then resolveTextTable physValue rest
        else limit.asU64

/-- The coded value of a constant, for the categories that are supported. -/
def Dataformat.CompuMethod.resolveConst (compuMethod : Dataformat.CompuMethod)
    (physValue : Text) : Option Nat :=
  match compuMethod.category with
  | .textTable => do
    let internalToPhys ← compuMethod.internalToPhys
    let scales ← internalToPhys.compuScales
    resolveTextTable physValue scales
  | .identical => parseLimitAsU64 physValue
  | _ => none

section Metadata

variable {conv : Conversions} {linear : LinearMethods}

def resolvePhysConstCodedValue (param : Parameter (compuConversions conv linear))
    (physValue : Text) : Option Nat :=
  match param.specificData with
  | .physConst _ (some (.normal normalDop)) => do
    let compuMethod : Dataformat.CompuMethod ← normalDop.compuMethod
    compuMethod.resolveConst physValue
  | _ => none

def compuScaleInfo (scale : Dataformat.CompuScale) : CompuScaleInfo where
  shortLabel := scale.shortLabel
  lowerLimit := scale.lowerLimit.bind Dataformat.Limit.asU64
  upperLimit := (scale.upperLimit.bind Dataformat.Limit.asU64).or
    (scale.lowerLimit.bind Dataformat.Limit.asU64)
  compuConstVt := scale.text

def codedDefault (category : CompuCategory) (scales : List CompuScaleInfo)
    (physicalDefault : Text) : Option Nat :=
  match category with
  | .textTable => scales.findSome? fun scale =>
    if scale.compuConstVt = some physicalDefault then scale.lowerLimit else none
  | .identical => parseLimitAsU64 physicalDefault
  | _ => none

def extractValueDopInfo (param : Parameter (compuConversions conv linear)) :
    Option Text × Option Nat × List CompuScaleInfo :=
  match param.specificData with
  | .value physicalDefault (some (.normal ⟨_, some compuMethod, _⟩)) =>
    let compuMethod : Dataformat.CompuMethod := compuMethod
    let scales :=
      if compuMethod.category = .textTable then compuMethod.scales.map compuScaleInfo else []
    (physicalDefault, physicalDefault.bind (codedDefault compuMethod.category scales), scales)
  | .value physicalDefault _ => (physicalDefault, none, [])
  | _ => (none, none, [])

def Parameter.reportedCodedValue (param : Parameter (compuConversions conv linear)) :
    Option Nat :=
  match param.specificData with
  | .physConst (some physConstantValue) _ => resolvePhysConstCodedValue param physConstantValue
  | .value _ _ => (extractValueDopInfo param).2.1
  | _ => none

end Metadata

def DataType.isNumeric (dataType : DataType) : Bool :=
  dataType = .int32 ∨ dataType = .uint32 ∨ dataType = .float32 ∨ dataType = .float64

/-- A normal data operation for an unmasked number, with a text table or none at all. -/
structure CodedDop where
  isSigned : Bool
  bitLength : Nat
  condensed : Bool
  isHighLowByteOrder : Bool
  physicalType : Option PhysicalType
  numeric : ∀ physType ∈ physicalType, DataType.isNumeric physType.baseType
  compuMethod : Dataformat.CompuMethod
  supported : compuMethod.category = .textTable ∨ compuMethod.category = .identical

namespace CodedDop

variable (dop : CodedDop)

def baseDatatype : DataType := if dop.isSigned then .int32 else .uint32

def standardLength : StandardLengthType := ⟨dop.bitLength, none, dop.condensed⟩

def diagCodedType : DiagCodedType :=
  ⟨dop.baseDatatype, .standardLength dop.standardLength, dop.isHighLowByteOrder⟩

def normalDop (conv : Conversions) (linear : LinearMethods) :
    NormalDop (compuConversions conv linear) :=
  ⟨.ok dop.diagCodedType, some dop.compuMethod, dop.physicalType⟩

def least : Int := if dop.isSigned then -2 ^ 31 else 0

def greatest : Int := if dop.isSigned then 2 ^ 31 - 1 else 2 ^ 32 - 1

def numberOf (data : List UInt8) : Int :=
  if dop.isSigned then i32FromBeBytes data else value data

def bytesOf (number : Int) : List UInt8 :=
  if dop.isSigned then i32ToBeBytes number else toBeBytes 4 number.toNat

variable {dop} in
theorem numberOf_bytesOf {number : Int} (low : dop.least ≤ number) (high : number ≤ dop.greatest) :
    dop.numberOf (dop.bytesOf number) = number := by
  rw [least] at low
  rw [greatest] at high
  rw [numberOf, bytesOf]
  cases isSigned : dop.isSigned with
  | true =>
    simp only [isSigned, if_true] at low high ⊢
    have bound : (number % 2 ^ 32).toNat < 2 ^ (8 * 4) := by omega
    rw [i32FromBeBytes, i32ToBeBytes, value_toBeBytes_of_lt bound]
    split_ifs <;> omega
  | false =>
    simp only [isSigned, Bool.false_eq_true, if_false] at low high ⊢
    have bound : number.toNat < 2 ^ (8 * 4) := by omega
    rw [value_toBeBytes_of_lt bound]
    omega

theorem standard : dop.diagCodedType.type_ = .standardLength dop.standardLength := rfl

theorem baseDatatype_numeric :
    dop.diagCodedType.baseDatatype = .int32 ∨ dop.diagCodedType.baseDatatype = .uint32 := by
  rw [diagCodedType, baseDatatype]
  cases dop.isSigned <;> simp

end CodedDop

structure CodedParam (conv : Conversions) (linear : LinearMethods) where
  outer : Parameter (compuConversions conv linear)
  isConst : Bool
  text : Text
  dop : CodedDop

namespace CodedParam

variable {conv : Conversions} {linear : LinearMethods} (param : CodedParam conv linear)

def parameter : Parameter (compuConversions conv linear) :=
  { param.outer with
    specificData :=
      if param.isConst then
        .physConst (some param.text) (some (.normal (param.dop.normalDop conv linear)))
      else .value (some param.text) (some (.normal (param.dop.normalDop conv linear))) }

/-- Only the position of a value is relative to its parent. -/
def bytePosition (parentBytePos : Nat) : Nat :=
  if param.isConst then param.parameter.bytePosition
  else parentBytePos + param.parameter.bytePosition

def codedData : Except DiagServiceError (List UInt8) :=
  jsonValueToUdsData (compuConversions conv linear) param.dop.diagCodedType
    (some param.dop.compuMethod) param.dop.physicalType
    (physValueStrToJson (compuConversions conv linear) param.text)

theorem specificData_const (isConst : param.isConst = true) :
    param.parameter.specificData =
      .physConst (some param.text) (some (.normal (param.dop.normalDop conv linear))) := by
  simp [parameter, isConst]

theorem specificData_value (isConst : param.isConst = false) :
    param.parameter.specificData =
      .value (some param.text) (some (.normal (param.dop.normalDop conv linear))) := by
  simp [parameter, isConst]

section Encoder

variable (strict : Bool)
  (mapParam : Parameter (compuConversions conv linear) → Option JsonValue → List UInt8 → Nat →
    Option ParameterMap → Except DiagServiceError (List UInt8))

/-- The encoder of a parameter that the request does not supply. -/
def encodeUnsupplied (payload : List UInt8) (parentBytePos : Nat) :
    Except DiagServiceError (List UInt8) :=
  if param.isConst then mapPhysConstParamToUds strict mapParam param.parameter payload none
  else mapParamValueToUds strict mapParam param.parameter none payload parentBytePos

theorem encodeUnsupplied_eq (payload : List UInt8) (parentBytePos : Nat) :
    param.encodeUnsupplied strict mapParam payload parentBytePos = param.codedData >>= fun data =>
        param.dop.diagCodedType.encode data payload (param.bytePosition parentBytePos)
          param.parameter.bitPosition := by
  rw [encodeUnsupplied, bytePosition]
  cases isConst : param.isConst with
  | true =>
    have specific := param.specificData_const isConst
    rw [if_pos rfl, if_pos rfl, mapPhysConstParamToUds, specific]
    rfl
  | false =>
    have specific := param.specificData_value isConst
    rw [if_neg Bool.false_ne_true, if_neg Bool.false_ne_true, mapParamValueToUds, specific]
    rfl

end Encoder

/-- What is reported is what the encoder hands to the coded type. -/
def ReportsEncoded : Prop :=
  ∀ strict mapParam payload parentBytePos coded written,
    param.parameter.reportedCodedValue = some coded →
      param.encodeUnsupplied strict mapParam payload parentBytePos = .ok written →
        ∃ data, param.codedData = .ok data ∧
          param.dop.diagCodedType.encode data payload (param.bytePosition parentBytePos)
            param.parameter.bitPosition = .ok written ∧
          param.dop.numberOf data = coded

def Writable : Prop :=
  (1 ≤ param.dop.bitLength ∧ param.dop.bitLength ≤ 64) ∧ param.parameter.bitPosition ≤ 7

theorem writable_iff : param.Writable ↔
    param.dop.diagCodedType.baseDatatype.validateBitLen param.dop.bitLength = .ok () ∧
      param.parameter.bitPosition ≤ 7 := by
  rw [DiagCodedType.validateBitLen_numeric param.dop.baseDatatype_numeric]
  rfl

theorem exists_encode (writable : param.Writable) (data payload : List UInt8) (bytePos : Nat) :
    ∃ written, param.dop.diagCodedType.encode data payload bytePos param.parameter.bitPosition =
      .ok written := by
  obtain ⟨valid, position⟩ := param.writable_iff.1 writable
  have numeric := param.dop.baseDatatype_numeric
  obtain ⟨bytes, copied⟩ := exists_copyData param.dop.bitLength data
    param.dop.diagCodedType.alignment
  have packs := (DiagCodedType.packInput_unmasked param.dop.standard rfl valid copied).1
  obtain ⟨written, encoded, _⟩ := DiagCodedType.encode_adds
    (DiagCodedType.byteOrder_numeric numeric) param.dop.standard position
    (DiagCodedType.validateBitPos_numeric numeric _) packs
    (DiagCodedType.validateBitLen_pos valid) payload bytePos
  exact ⟨written, encoded⟩

theorem reportsEncoded_iff_codedData : param.ReportsEncoded ↔ (param.Writable →
    ∀ coded, param.parameter.reportedCodedValue = some coded →
      ∀ data, param.codedData = .ok data → param.dop.numberOf data = coded) := by
  constructor
  · intro reports writable coded reported data converted
    obtain ⟨written, encoded⟩ := param.exists_encode writable data [] (param.bytePosition 0)
    have whole : param.encodeUnsupplied false (fun _ _ payload _ _ => .ok payload) [] 0 =
        .ok written := by
      rw [encodeUnsupplied_eq, converted]
      exact encoded
    obtain ⟨other, same, _, number⟩ := reports false _ [] 0 coded written reported whole
    cases converted.symm.trans same
    exact number
  · intro agrees strict mapParam payload parentBytePos coded written reported encoded
    rw [encodeUnsupplied_eq, except_bind_eq_ok_iff] at encoded
    obtain ⟨data, converted, encoded⟩ := encoded
    have checks := DiagCodedType.checks_of_encode param.dop.standard rfl encoded
    exact ⟨data, converted, encoded,
      agrees (param.writable_iff.2 checks.2) coded reported data converted⟩

end CodedParam

theorem parseLimitAsU64_eq_some {text : Text} {coded : Nat}
    (reported : parseLimitAsU64 text = some coded) :
    ∃ literal, parseFloat text = some literal ∧ ∀ number, number < 2 ^ 53 →
        (coded = number ↔ (literal.value .double).saturate 64 = number) := by
  rw [parseLimitAsU64] at reported
  cases parsed : parseUnsigned 64 10 text with
  | error failure =>
    rw [parsed] at reported
    obtain ⟨literal, read, same⟩ := Option.map_eq_some_iff.1 reported
    exact ⟨literal, read, fun number _ => by rw [same]⟩
  | ok given =>
    rw [parsed] at reported
    cases reported
    obtain ⟨read, plain, below⟩ := (parseUnsigned_eq_ok_iff (by decide) text coded).1 parsed
    have literal := parseFloat_of_integer? read
    rw [Int.natAbs_natCast, decide_eq_false plain] at literal
    refine ⟨_, literal, fun number small => ?_⟩
    obtain exact | large := Nat.lt_or_ge coded (2 ^ 53)
    · rw [FloatLiteral.value_integer exact (by decide)]
      simp only [FloatFormat.signed, Bool.false_eq_true, if_false, FloatValue.saturate,
        Nat.floor_natCast]
      omega
    · have differs : coded ≠ number := by omega
      have above : (2 : ℚ) ^ (53 : ℤ) ≤ coded * 10 ^ (0 : ℤ) := by
        rw [zpow_zero, mul_one]
        exact_mod_cast large
      refine iff_of_false differs ?_
      obtain infinite | ⟨rational, least, finite⟩ :=
        @FloatLiteral.value_large .double coded 0 53 (by decide) above false
      · rw [infinite, FloatValue.saturate]
        omega
      · have floor : 2 ^ 53 ≤ ⌊rational⌋₊ := Nat.le_floor (by exact_mod_cast least)
        rw [finite]
        simp only [FloatFormat.signed, Bool.false_eq_true, if_false, FloatValue.saturate]
        omega

theorem parseLimitAsU64_of_integer? {text : Text} {number : Int}
    (read : integer? 10 text = some number) (small : number.natAbs < 2 ^ 53) :
    parseLimitAsU64 text = some number.toNat := by
  have literal := parseFloat_of_integer? read
  by_cases minus : text.head? = some '-'
  · have nonpos := nonpos_of_minus minus read
    rw [parseLimitAsU64]
    cases parsed : parseUnsigned 64 10 text with
    | ok given =>
      exact absurd minus ((parseUnsigned_eq_ok_iff (by decide) text given).1 parsed).2.1
    | error failure =>
      dsimp only
      have zero : ⌊-(number.natAbs : ℚ)⌋₊ = 0 := Nat.floor_of_nonpos (by simp)
      rw [literal, Option.map_some, decide_eq_true minus,
        FloatLiteral.value_integer small (by decide), FloatFormat.signed, if_pos rfl,
        FloatValue.saturate, zero]
      congr 1
      omega
  · have positive : 0 ≤ number := by
      by_contra negative
      unfold integer? at read
      split at read <;> simp_all
      all_goals omega
    have parsed : parseUnsigned 64 10 text = .ok number.toNat :=
      (parseUnsigned_eq_ok_iff (by decide) text number.toNat).2
        ⟨by rw [Int.toNat_of_nonneg positive]; exact read, minus, by omega⟩
    rw [parseLimitAsU64, parsed]

def constScale (scales : List Dataformat.CompuScale) (physValue : Text) :
    Option Dataformat.CompuScale :=
  ((scales.filter (·.isNamed physValue)).takeWhile (·.lowerLimit.isSome)).find? (·.isClosed)

def defaultScale (scales : List Dataformat.CompuScale) (physicalDefault : Text) :
    Option Dataformat.CompuScale :=
  scales.find? fun scale => scale.text = some physicalDefault ∧
    (scale.lowerLimit.bind Dataformat.Limit.asU64).isSome

def encodedScale (scales : List Dataformat.CompuScale) (text : Text) :
    Option Dataformat.CompuScale :=
  scales.find? fun scale => scale.text = some text ∧ scale.lowerLimit.isSome

theorem resolveTextTable_eq (physValue : Text) (scales : List Dataformat.CompuScale) :
    resolveTextTable physValue scales = (constScale scales physValue).bind fun scale =>
        scale.lowerLimit.bind Dataformat.Limit.asU64 := by
  induction scales with
  | nil => rfl
  | cons scale rest ih =>
    rw [resolveTextTable]
    cases named : scale.isNamed physValue with
    | false =>
      rw [constScale, List.filter_cons_of_neg (by simp [named])]
      exact ih
    | true =>
      rw [constScale, List.filter_cons_of_pos (by simp [named])]
      cases limit : scale.lowerLimit with
      | none =>
        rw [List.takeWhile_cons_of_neg (by simp [limit])]
        rfl
      | some lowerLimit =>
        rw [List.takeWhile_cons_of_pos (by simp [limit])]
        cases closed : scale.isClosed with
        | false =>
          rw [List.find?_cons_of_neg (by simp [closed])]
          exact ih
        | true =>
          rw [List.find?_cons_of_pos closed, Option.bind_some, limit]
          rfl

theorem findSome?_eq_bind_find? {α β : Type} (p : α → Prop) [DecidablePred p] (f : α → Option β)
    (items : List α) :
    (items.findSome? fun item => if p item then f item else none) =
      (items.find? fun item => p item ∧ (f item).isSome).bind f := by
  induction items with
  | nil => rfl
  | cons item rest ih =>
    by_cases holds : p item
    · cases found : f item with
      | none =>
        rw [List.findSome?_cons_of_isNone (by simp [found]),
          List.find?_cons_of_neg (by simp [found])]
        exact ih
      | some result =>
        rw [List.findSome?_cons_of_isSome (by simp [holds, found]),
          List.find?_cons_of_pos (by simp [holds, found]), if_pos holds, Option.bind_some]
    · rw [List.findSome?_cons_of_isNone (by simp [holds]),
        List.find?_cons_of_neg (by simp [holds])]
      exact ih

theorem codedDefault_textTable (scales : List Dataformat.CompuScale) (physicalDefault : Text) :
    codedDefault .textTable (scales.map compuScaleInfo) physicalDefault =
      (defaultScale scales physicalDefault).bind fun scale =>
        scale.lowerLimit.bind Dataformat.Limit.asU64 := by
  rw [codedDefault, List.findSome?_map, defaultScale]
  exact findSome?_eq_bind_find? (fun scale => scale.text = some physicalDefault) _ scales

theorem into_text (scale : Dataformat.CompuScale) : scale.into.text = scale.text := by
  rw [CompuScale.text, Dataformat.CompuScale.text, Dataformat.CompuScale.into]
  cases scale.consts <;> rfl

theorem textTableLimit_eq (scales : List Dataformat.CompuScale) (text : Text) :
    textTableLimit (scales.map Dataformat.CompuScale.into) text =
      ((encodedScale scales text).bind (·.lowerLimit)).map Dataformat.Limit.into := by
  have found := findSome?_eq_bind_find? (fun scale : CompuScale => scale.text = some text)
    (·.lowerLimit) (scales.map Dataformat.CompuScale.into)
  rw [textTableLimit, found, List.find?_map, encodedScale]
  have same : ((fun scale : CompuScale => decide (scale.text = some text ∧
      scale.lowerLimit.isSome)) ∘ Dataformat.CompuScale.into) =
        fun scale => decide (scale.text = some text ∧ scale.lowerLimit.isSome) := by
    funext scale
    simp only [Function.comp_apply, into_text]
    simp [Dataformat.CompuScale.into]
  rw [same]
  cases scales.find? fun scale => decide (scale.text = some text ∧ scale.lowerLimit.isSome) with
  | none => rfl
  | some scale => rfl

theorem eq_or_eq_of_toLower {c lower upper : Char} (same : c.toLower = lower)
    (shift : upper.toNat + 32 = lower.toNat) : c = lower ∨ c = upper := by
  unfold Char.toLower at same
  split at same
  · rename_i isUpper
    right
    apply Char.ext
    apply UInt32.toNat_inj.1
    have value := congrArg Char.toNat same
    simp only [Char.toNat, UInt32.toNat_add] at value shift
    have small : c.val.toNat ≤ 90 := UInt32.le_iff_toNat_le.1 isUpper.2
    have modulus : UInt32.toNat ('a'.val - 'A'.val) = 32 := by decide
    omega
  · exact .inl same

theorem exists_of_isPrefixOf {text : Text} {lower upper : Char}
    (starts : ['0', lower].isPrefixOf (text.map Char.toLower) = true)
    (shift : upper.toNat + 32 = lower.toNat) :
    ∃ rest, text = '0' :: lower :: rest ∨ text = '0' :: upper :: rest := by
  obtain ⟨back, same⟩ := List.isPrefixOf_iff_prefix.1 starts
  cases text with
  | nil => cases same
  | cons first text =>
    cases text with
    | nil => simp at same
    | cons second rest =>
      simp only [List.map_cons, List.cons_append, List.nil_append, List.cons.injEq] at same
      obtain ⟨zero, marker, _⟩ := same
      have isZero : first = '0' := by
        obtain same | same := @eq_or_eq_of_toLower _ _ (Char.ofNat 16) zero.symm (by decide)
        · exact same
        · subst same
          exact absurd zero (by decide)
      subst isZero
      obtain rfl | rfl := eq_or_eq_of_toLower marker.symm shift
      · exact ⟨rest, .inl rfl⟩
      · exact ⟨rest, .inr rfl⟩

section Strings

variable {text : Text} {literal : FloatLiteral} (read : parseFloat text = some literal)
  (outside : ∀ number, integer? 10 text = some number → number < -2 ^ 63 ∨ 2 ^ 64 ≤ number)

include read outside

theorem decodeUInt32FromStr_ne_ok (diagType : DiagCodedType) (data : List UInt8) :
    decodeUInt32FromStr text diagType ≠ .ok data := by
  have noRadix {lower upper : Char} (shift : upper.toNat + 32 = lower.toNat)
      (notDigit : isDecimalDigit lower = false ∧ isDecimalDigit upper = false)
      (notPoint : lower ≠ '.' ∧ upper ≠ '.')
      (notExponent : (lower ≠ 'e' ∧ lower ≠ 'E') ∧ upper ≠ 'e' ∧ upper ≠ 'E') :
      ¬['0', lower].isPrefixOf (text.map Char.toLower) = true := by
    intro starts
    obtain ⟨rest, same | same⟩ := exists_of_isPrefixOf starts shift
    · rw [same, parseFloat_of_marker notDigit.1 notPoint.1 notExponent.1] at read
      cases read
    · rw [same, parseFloat_of_marker notDigit.2 notPoint.2 notExponent.2] at read
      cases read
  unfold decodeUInt32FromStr
  dsimp only
  rw [if_neg (@noRadix 'x' 'X' (by decide) (by decide) (by decide) (by decide)),
    if_neg (@noRadix 'o' 'O' (by decide) (by decide) (by decide) (by decide)),
    if_neg (@noRadix 'b' 'B' (by decide) (by decide) (by decide) (by decide))]
  cases parsed : parseUnsigned 32 10 text with
  | error failure => simp
  | ok number =>
    obtain ⟨value, _, below⟩ := (parseUnsigned_eq_ok_iff (by decide) text number).1 parsed
    have far := outside number value
    omega

variable {conv : Conversions} {linear : LinearMethods}

omit read outside in
theorem padMsbToLen_toBeBytes (length number : Nat) :
    padMsbToLen (toBeBytes length number) length = toBeBytes length number := by
  rw [padMsbToLen, length_toBeBytes, Nat.sub_self]
  rfl

omit read outside in
theorem toNumericBaseType_ne_ok {dop : CodedDop} {number : PhysNumber}
    (far : ∀ whole, truncate (compuConversions conv linear) number = some whole →
      whole ≤ -2 ^ 32 ∨ 2 ^ 32 ≤ whole) (data : List UInt8) :
    toNumericBaseType (compuConversions conv linear) number dop.diagCodedType.baseDatatype ≠
      .ok data := by
  have none {p : Int → Prop} [DecidablePred p] (range : ∀ whole, p whole → -2 ^ 32 < whole ∧
      whole < 2 ^ 32) :
      (truncate (compuConversions conv linear) number).filter (fun whole => p whole) = none := by
    rw [Option.filter_eq_none_iff]
    intro whole isWhole holds
    have away := far whole isWhole
    have near := range whole (of_decide_eq_true holds)
    omega
  obtain base | base := dop.baseDatatype_numeric
  · rw [base, toNumericBaseType, none (by omega)]
    simp
  · rw [base, toNumericBaseType, none (by omega)]
    simp

omit read outside in
theorem singleValue_toBeBytes (literal : FloatLiteral) :
    singleValue (toBeBytes 4 (literal.bits .single)) = literal.value .single := by
  rw [singleValue, value_toBeBytes_of_lt literal.bits_single_lt, FloatLiteral.value]

omit read outside in
theorem doubleValue_toBeBytes (literal : FloatLiteral) :
    doubleValue (toBeBytes 8 (literal.bits .double)) = literal.value .double := by
  rw [doubleValue, value_toBeBytes_of_lt literal.bits_double_lt, FloatLiteral.value]

omit outside in
theorem exists_tryParse_of_finite (finite : (literal.value .double).isFinite = true) :
    ∃ json, tryParseStrAsJsonNumber (compuConversions conv linear) text = .ok json := by
  have bytes : (compuConversions conv linear).parseF64 text =
      some (toBeBytes 8 (literal.bits .double)) := by
    change (parseFloat text).map _ = _
    rw [read]
    rfl
  have isFinite : (compuConversions conv linear).isFinite (toBeBytes 8 (literal.bits .double)) =
      true := by
    change (doubleValue _).isFinite = true
    rw [doubleValue_toBeBytes, finite]
  simp only [tryParseStrAsJsonNumber, bytes, isFinite, if_true]
  split
  · exact ⟨_, rfl⟩
  · split
    · exact ⟨_, rfl⟩
    · exact ⟨_, rfl⟩

omit read outside in
theorem truncate_float32 (bytes : List UInt8) :
    truncate (compuConversions conv linear) (.float32 bytes) = (singleValue bytes).truncate := rfl

omit read outside in
theorem truncate_float64 (bytes : List UInt8) :
    truncate (compuConversions conv linear) (.float64 bytes) = (doubleValue bytes).truncate := rfl

theorem processPhysicalTypeValue_ne_ok (overflow : (literal.value .double).isFinite = false)
    (physType : PhysicalType) (dop : CodedDop) (data : List UInt8) :
    processPhysicalTypeValue (compuConversions conv linear) (.string text) physType
      dop.diagCodedType ≠ .ok data := by
  intro processed
  rw [processPhysicalTypeValue, JsonValue.asStr] at processed
  dsimp only at processed
  rw [except_bind_eq_ok_iff] at processed
  obtain ⟨bytes, decoded, processed⟩ := processed
  cases base : physType.baseType with
  | int32 =>
    simp only [decodeNumericValFromStr, base] at decoded
    split at decoded
    · cases decoded
    · rename_i number parsed
      obtain ⟨value, above, below⟩ := (parseSigned_eq_ok_iff (by decide) text number).1 parsed
      have far := outside number value
      omega
  | uint32 =>
    simp only [decodeNumericValFromStr, base] at decoded
    exact decodeUInt32FromStr_ne_ok read outside _ bytes decoded
  | float32 =>
    have differs : physType.baseType ≠ dop.diagCodedType.baseDatatype := by
      obtain same | same := dop.baseDatatype_numeric <;> rw [base, same] <;> decide
    simp only [decodeNumericValFromStr, base, compuConversions, floatConversions, read,
      Option.map_some, Except.ok.injEq] at decoded
    subst decoded
    rw [if_neg differs, base] at processed
    dsimp only at processed
    rw [padMsbToLen_toBeBytes] at processed
    refine toNumericBaseType_ne_ok (fun whole isWhole => ?_) data processed
    rw [truncate_float32, singleValue_toBeBytes] at isWhole
    exact @FloatLiteral.truncate_of_overflow .double literal .single 32 (by decide) (by decide)
      (by decide) (by decide +kernel) overflow whole isWhole
  | float64 =>
    have differs : physType.baseType ≠ dop.diagCodedType.baseDatatype := by
      obtain same | same := dop.baseDatatype_numeric <;> rw [base, same] <;> decide
    simp only [decodeNumericValFromStr, base, compuConversions, floatConversions, read,
      Option.map_some, Except.ok.injEq] at decoded
    subst decoded
    rw [if_neg differs, base] at processed
    dsimp only at processed
    rw [padMsbToLen_toBeBytes] at processed
    refine toNumericBaseType_ne_ok (fun whole isWhole => ?_) data processed
    rw [truncate_float64, doubleValue_toBeBytes] at isWhole
    cases value : literal.value .double with
    | nan | infinite negative =>
      rw [value] at isWhole
      cases isWhole
    | finite number =>
      rw [value] at overflow
      cases overflow
  | _ =>
    simp only [decodeNumericValFromStr, base] at decoded
    cases decoded

end Strings

def Dataformat.CompuScale.lowerValue (scale : Dataformat.CompuScale) : Option FloatValue :=
  scale.lowerLimit.bind fun limit => limit.value.bind fun text =>
    (parseFloat text).map (·.value .double)

def CodedDop.lowerNumber (dop : CodedDop) (scale : Dataformat.CompuScale) : Option Int :=
  scale.lowerLimit.bind fun limit =>
    limitToInt dop.least dop.greatest (limit.value.getD [])

variable {scale : Dataformat.CompuScale}

theorem CodedDop.lowerNumber_bounds {dop : CodedDop} {number : Int}
    (lower : dop.lowerNumber scale = some number) :
    dop.least ≤ number ∧ number ≤ dop.greatest := by
  obtain ⟨limit, _, read⟩ := Option.bind_eq_some_iff.1 lower
  obtain ⟨value, _, within⟩ := Option.bind_eq_some_iff.1 read
  refine FloatValue.within_bounds ?_ ?_ within
  · rw [CodedDop.least]
    split_ifs <;> decide
  · rw [CodedDop.greatest]
    split_ifs <;> decide

/-- The report and the encoder read the lower limit of one scale alike, but for its sign. -/
theorem exists_lowerValue_of_asU64 {coded : Nat}
    (reported : scale.lowerLimit.bind Dataformat.Limit.asU64 = some coded) :
    ∃ value, scale.lowerValue = some value ∧
      ∀ number, number < 2 ^ 53 → (coded = number ↔ value.saturate 64 = number) := by
  obtain ⟨limit, isLimit, reported⟩ := Option.bind_eq_some_iff.1 reported
  obtain ⟨text, isText, reported⟩ := Option.bind_eq_some_iff.1 reported
  obtain ⟨literal, read, same⟩ := parseLimitAsU64_eq_some reported
  refine ⟨literal.value .double, ?_, same⟩
  rw [Dataformat.CompuScale.lowerValue, isLimit, Option.bind_some, isText, Option.bind_some, read]
  rfl

theorem exists_asU64_of_lowerValue {value : FloatValue} (read : scale.lowerValue = some value) :
    ∃ coded, scale.lowerLimit.bind Dataformat.Limit.asU64 = some coded := by
  obtain ⟨limit, isLimit, read⟩ := Option.bind_eq_some_iff.1 read
  obtain ⟨text, isText, read⟩ := Option.bind_eq_some_iff.1 read
  obtain ⟨literal, isLiteral, _⟩ := Option.map_eq_some_iff.1 read
  rw [isLimit, Option.bind_some, Dataformat.Limit.asU64, isText, Option.bind_some, parseLimitAsU64,
    isLiteral]
  split <;> exact ⟨_, rfl⟩

theorem jsonValueToUdsData_of_method {conv : Conversions} {method : conv.CompuMethod}
    (kept : conv.category method ≠ .identical) (diagType : DiagCodedType)
    (physType : Option PhysicalType) (json : JsonValue) :
    jsonValueToUdsData conv diagType (some method) physType json =
      conv.compuConvert diagType method physType json := by
  rw [jsonValueToUdsData, Option.filter_some, if_pos (decide_eq_true kept)]

theorem jsonValueToUdsData_textTable {conv : Conversions} {linear : LinearMethods}
    {method : Dataformat.CompuMethod} (table : method.category = .textTable)
    (diagType : DiagCodedType) (physType : Option PhysicalType) (json : JsonValue) :
    jsonValueToUdsData (compuConversions conv linear) diagType (some method) physType json =
      compuConvertTextTable diagType.baseDatatype method.into json := by
  have kept : (compuConversions conv linear).category method ≠ .identical := by
    change method.category ≠ _
    rw [table]
    decide
  refine (jsonValueToUdsData_of_method kept _ _ json).trans ?_
  change compuConvert linear _ method.into _ _ = _
  rw [compuConvert]
  simp only [Dataformat.CompuMethod.into, table]

theorem jsonValueToUdsData_of_identical {conv : Conversions} {method : conv.CompuMethod}
    (identical : conv.category method = .identical) (diagType : DiagCodedType)
    (physType : Option PhysicalType) (json : JsonValue) :
    jsonValueToUdsData conv diagType (some method) physType json =
      jsonValueToUdsData conv diagType none physType json := by
  rw [jsonValueToUdsData, Option.filter_some, if_neg (by simp [identical])]
  rfl

namespace CodedParam

variable {conv : Conversions} {linear : LinearMethods} (param : CodedParam conv linear)

def isNumber : Bool :=
  (tryParseStrAsJsonNumber (compuConversions conv linear) param.text).toOption.isSome

def reportedScale : Option Dataformat.CompuScale :=
  if param.isConst then constScale param.dop.compuMethod.scales param.text
  else defaultScale param.dop.compuMethod.scales param.text

def writtenScale : Option Dataformat.CompuScale :=
  encodedScale param.dop.compuMethod.scales (unquoted param.text)

/-- The scale that is reported and the scale that is encoded start with the same number, which
is not negative. -/
def LimitsMeet : Prop :=
  ∀ reported ∈ param.reportedScale, ∀ encoded ∈ param.writtenScale,
    ∀ value ∈ reported.lowerValue, ∀ number ∈ param.dop.lowerNumber encoded,
      value.saturate 64 = number

/-- No negative integer that the field takes. -/
def IntegerMeets : Prop :=
  param.dop.isSigned → ∀ number, integer? 10 param.text = some number →
    -2 ^ (min param.dop.bitLength 32 - 1) ≤ number → 0 ≤ number

def Meets : Prop :=
  if param.dop.compuMethod.category = .textTable then param.isNumber = false → param.LimitsMeet
  else param.IntegerMeets

section TextTable

variable {param} (table : param.dop.compuMethod.category = .textTable)

include table

theorem reportedCodedValue_textTable : param.parameter.reportedCodedValue =
      param.reportedScale.bind fun scale => scale.lowerLimit.bind Dataformat.Limit.asU64 := by
  rw [reportedScale]
  cases isConst : param.isConst with
  | true =>
    have specific := param.specificData_const isConst
    rw [if_pos rfl, ← resolveTextTable_eq, Parameter.reportedCodedValue, specific]
    dsimp only
    rw [resolvePhysConstCodedValue, specific]
    change param.dop.compuMethod.resolveConst param.text = _
    simp only [Dataformat.CompuMethod.resolveConst, table, Dataformat.CompuMethod.scales,
      Option.bind_eq_bind]
    cases param.dop.compuMethod.internalToPhys with
    | none => rfl
    | some internalToPhys =>
      rw [Option.bind_some, Option.bind_some]
      cases internalToPhys.compuScales <;> rfl
  | false =>
    have specific := param.specificData_value isConst
    rw [if_neg Bool.false_ne_true, ← codedDefault_textTable, Parameter.reportedCodedValue, specific]
    dsimp only
    rw [extractValueDopInfo, specific]
    change codedDefault param.dop.compuMethod.category (if _ then _ else _) param.text = _
    rw [table, if_pos rfl]

theorem codedData_textTable_eq_ok_iff (data : List UInt8) :
    param.codedData = .ok data ↔ param.isNumber = false ∧
      ∃ encoded ∈ param.writtenScale, ∃ number ∈ param.dop.lowerNumber encoded,
        data = param.dop.bytesOf number := by
  have numeric : param.dop.diagCodedType.baseDatatype = .int32 ∨
      param.dop.diagCodedType.baseDatatype = .uint32 ∨
      param.dop.diagCodedType.baseDatatype = .float32 ∨
      param.dop.diagCodedType.baseDatatype = .float64 := by
    obtain base | base := param.dop.baseDatatype_numeric
    · exact .inl base
    · exact .inr (.inl base)
  rw [codedData, jsonValueToUdsData_textTable table, compuConvertTextTable,
    if_neg (not_not.2 numeric), isNumber, physValueStrToJson]
  cases parsed : tryParseStrAsJsonNumber (compuConversions conv linear) param.text with
  | ok json =>
    obtain ⟨number, rfl⟩ := exists_number_of_tryParse parsed
    simp [JsonValue.asStr, Except.toOption]
  | error failure =>
    simp only [JsonValue.asStr, Option.map_some, Except.toOption, Option.isSome_none, true_and,
      Dataformat.CompuMethod.into]
    rw [textTableLimit_eq, writtenScale]
    cases found : encodedScale param.dop.compuMethod.scales (unquoted param.text) with
    | none => simp
    | some scale =>
      have holds := List.find?_some (show List.find? _ _ = some scale from found)
      obtain ⟨limit, isLimit⟩ := Option.isSome_iff_exists.1 (of_decide_eq_true holds).2
      rw [Option.bind_some, isLimit, Option.map_some]
      dsimp only
      simp only [Option.mem_def, Option.some.injEq, exists_eq_left', CodedDop.lowerNumber,
        isLimit, Option.bind_some]
      exact limitToUdsData_eq_ok_iff

theorem agrees_textTable_iff : (∀ coded, param.parameter.reportedCodedValue = some coded →
      ∀ data, param.codedData = .ok data → param.dop.numberOf data = coded) ↔
      (param.isNumber = false → param.LimitsMeet) := by
  constructor
  · intro agrees text reported isReported encoded isEncoded value isValue number isNumber
    obtain ⟨low, high⟩ := CodedDop.lowerNumber_bounds isNumber
    obtain ⟨coded, isCoded⟩ := exists_asU64_of_lowerValue isValue
    have report : param.parameter.reportedCodedValue = some coded := by
      rw [reportedCodedValue_textTable table, isReported, Option.bind_some, isCoded]
    have same := agrees coded report _
      ((codedData_textTable_eq_ok_iff table _).2 ⟨text, encoded, isEncoded, number, isNumber, rfl⟩)
    rw [CodedDop.numberOf_bytesOf low high] at same
    obtain ⟨other, isOther, meets⟩ := exists_lowerValue_of_asU64 isCoded
    cases isValue.symm.trans isOther
    have small : coded < 2 ^ 53 := by
      rw [CodedDop.greatest] at high
      split_ifs at high <;> omega
    rw [(meets coded small).1 rfl, same]
  · intro meets coded report data converted
    obtain ⟨text, encoded, isEncoded, number, isNumber, rfl⟩ :=
      (codedData_textTable_eq_ok_iff table data).1 converted
    obtain ⟨low, high⟩ := CodedDop.lowerNumber_bounds isNumber
    rw [reportedCodedValue_textTable table] at report
    obtain ⟨reported, isReported, isCoded⟩ := Option.bind_eq_some_iff.1 report
    obtain ⟨value, isValue, same⟩ := exists_lowerValue_of_asU64 isCoded
    have meet := meets text reported isReported encoded isEncoded value isValue number isNumber
    have small : value.saturate 64 < 2 ^ 53 := by
      rw [CodedDop.greatest] at high
      split_ifs at high <;> omega
    rw [CodedDop.numberOf_bytesOf low high, ← meet, (same _ small).2 rfl]

end TextTable

section Identical

variable {param} (identical : param.dop.compuMethod.category = .identical)

include identical

theorem reportedCodedValue_identical :
    param.parameter.reportedCodedValue = parseLimitAsU64 param.text := by
  cases isConst : param.isConst with
  | true =>
    have specific := param.specificData_const isConst
    rw [Parameter.reportedCodedValue, specific]
    dsimp only
    rw [resolvePhysConstCodedValue, specific]
    change param.dop.compuMethod.resolveConst param.text = _
    rw [Dataformat.CompuMethod.resolveConst, identical]
  | false =>
    have specific := param.specificData_value isConst
    rw [Parameter.reportedCodedValue, specific]
    dsimp only
    rw [extractValueDopInfo, specific]
    change codedDefault param.dop.compuMethod.category _ param.text = _
    rw [identical]
    rfl

theorem codedData_identical :
    param.codedData = jsonValueToUdsData (compuConversions conv linear) param.dop.diagCodedType none
      param.dop.physicalType (physValueStrToJson (compuConversions conv linear) param.text) :=
  @jsonValueToUdsData_of_identical (compuConversions conv linear) param.dop.compuMethod identical
    _ _ _

theorem exists_integer?_of_codedData {coded : Nat}
    (reported : parseLimitAsU64 param.text = some coded) {data : List UInt8}
    (converted : param.codedData = .ok data) :
    ∃ json, tryParseStrAsJsonNumber (compuConversions conv linear) param.text =
      .ok (.number json) ∧ jsonValueToUdsData (compuConversions conv linear)
        param.dop.diagCodedType none param.dop.physicalType (.number json) = .ok data := by
  rw [codedData_identical identical, physValueStrToJson] at converted
  cases parsed : tryParseStrAsJsonNumber (compuConversions conv linear) param.text with
  | ok json =>
    rw [parsed] at converted
    obtain ⟨number, rfl⟩ := exists_number_of_tryParse parsed
    exact ⟨number, rfl, converted⟩
  | error failure =>
    rw [parsed] at converted
    obtain ⟨literal, read, _⟩ := parseLimitAsU64_eq_some reported
    have outside (number : Int) (integer : integer? 10 param.text = some number) :
        number < -2 ^ 63 ∨ 2 ^ 64 ≤ number := by
      obtain ⟨_, _, _, _, same⟩ | ⟨_, _, _, _, same⟩ | ⟨far, _⟩ :=
        tryParse_cases (compuConversions conv linear) param.text
      · rw [parsed] at same
        cases same
      · rw [parsed] at same
        cases same
      · exact far number integer
    have overflow : (literal.value .double).isFinite = false := by
      rw [← Bool.not_eq_true]
      intro finite
      obtain ⟨json, same⟩ := @exists_tryParse_of_finite _ _ read conv linear finite
      rw [parsed] at same
      cases same
    have numeric : jsonValueToUdsData (compuConversions conv linear) param.dop.diagCodedType none
        param.dop.physicalType (.string param.text) =
          numericJsonValueToByteVector (compuConversions conv linear) (.string param.text)
            param.dop.diagCodedType param.dop.physicalType := by
      obtain base | base := param.dop.baseDatatype_numeric <;>
        simp only [jsonValueToUdsData, Option.filter_none, base]
    dsimp only at converted
    rw [numeric] at converted
    cases physType : param.dop.physicalType with
    | none =>
      rw [physType] at converted
      cases converted
    | some physicalType =>
      simp only [physType, numericJsonValueToByteVector, except_bind_eq_ok_iff] at converted
      obtain ⟨bytes, converted, _⟩ := converted
      exact absurd converted (processPhysicalTypeValue_ne_ok read outside overflow _ _ _)

omit identical in
theorem jsonValueToUdsData_number (json : JsonNumber) :
    jsonValueToUdsData (compuConversions conv linear) param.dop.diagCodedType none
        param.dop.physicalType (.number json) =
      jsonValueToUdsData (compuConversions conv linear) param.dop.diagCodedType none none
        (.number json) := by
  obtain base | base := param.dop.baseDatatype_numeric <;>
    simp only [jsonValueToUdsData, Option.filter_none, base, numericJsonValueToByteVector]

theorem agrees_identical_iff (writable : param.Writable) :
    (∀ coded, param.parameter.reportedCodedValue = some coded →
      ∀ data, param.codedData = .ok data → param.dop.numberOf data = coded) ↔
      param.IntegerMeets := by
  have positive : 0 < param.dop.standardLength.bitLength := writable.1.1
  rw [reportedCodedValue_identical identical]
  cases isSigned : param.dop.isSigned with
  | true =>
    have base : param.dop.diagCodedType.baseDatatype = .int32 := by
      rw [CodedDop.diagCodedType, CodedDop.baseDatatype, if_pos isSigned]
    have bound : (2 : Int) ^ (min param.dop.standardLength.bitLength 32 - 1) ≤ 2 ^ 31 :=
      pow_le_pow_right₀ (by decide) (by omega)
    have numberOf {number : Int}
        (above : -2 ^ (min param.dop.standardLength.bitLength 32 - 1) ≤ number)
        (below : number < 2 ^ (min param.dop.standardLength.bitLength 32 - 1)) :
        param.dop.numberOf (i32ToBeBytes number) = number := by
      have same := @CodedDop.numberOf_bytesOf param.dop number
        (by rw [CodedDop.least, if_pos isSigned]; omega)
        (by rw [CodedDop.greatest, if_pos isSigned]; omega)
      rwa [CodedDop.bytesOf, if_pos isSigned] at same
    constructor
    · intro agrees _ number read above
      by_contra negative
      have below : number < 2 ^ (min param.dop.standardLength.bitLength 32 - 1) := by
        have power : (0 : Int) < 2 ^ (min param.dop.standardLength.bitLength 32 - 1) := by
          positivity
        omega
      change -2 ^ (min param.dop.standardLength.bitLength 32 - 1) ≤ number at above
      obtain ⟨json, parsed, isInt⟩ := (@tryParse_asI64_iff (compuConversions conv linear) _
        number).2 ⟨read, by omega, by omega⟩
      have data : jsonValueToUdsData (compuConversions conv linear) param.dop.diagCodedType none
          none (.number json) = .ok (i32ToBeBytes number) :=
        (int32_bytes_iff param.dop.standard positive base json _).2
          ⟨number, isInt, above, below, rfl⟩
      have converted : param.codedData = .ok (i32ToBeBytes number) := by
        rw [codedData_identical identical, physValueStrToJson, parsed]
        exact (jsonValueToUdsData_number json).trans data
      have same := agrees _ (parseLimitAsU64_of_integer? read (by omega)) _ converted
      rw [numberOf above below] at same
      omega
    · intro meets coded reported data converted
      obtain ⟨json, parsed, made⟩ := exists_integer?_of_codedData identical reported converted
      rw [jsonValueToUdsData_number] at made
      obtain ⟨number, isInt, above, below, rfl⟩ :=
        (int32_bytes_iff param.dop.standard positive base json data).1 made
      obtain ⟨read, _, _⟩ := (tryParse_asI64_iff number).1 ⟨json, parsed, isInt⟩
      have nonneg := meets isSigned number read above
      have same := parseLimitAsU64_of_integer? read (by omega)
      cases reported.symm.trans same
      rw [numberOf above below]
      omega
  | false =>
    have base : param.dop.diagCodedType.baseDatatype = .uint32 := by
      rw [CodedDop.diagCodedType, CodedDop.baseDatatype, isSigned]
      rfl
    constructor
    · intro _ signed
      rw [isSigned] at signed
      cases signed
    · intro _ coded reported data converted
      obtain ⟨json, parsed, made⟩ := exists_integer?_of_codedData identical reported converted
      rw [jsonValueToUdsData_number] at made
      obtain ⟨number, isNat, small, rfl⟩ :=
        (uint32_bytes_iff param.dop.standard positive base json data).1 made
      obtain ⟨read, _⟩ := (tryParse_asU64_iff number).1 ⟨json, parsed, isNat⟩
      have bound : 2 ^ min param.dop.standardLength.bitLength 32 ≤ 2 ^ 32 :=
        Nat.pow_le_pow_right (by decide) (by omega)
      have same := parseLimitAsU64_of_integer? read (by omega)
      cases reported.symm.trans same
      rw [CodedDop.numberOf, isSigned, if_neg Bool.false_ne_true,
        value_toBeBytes_of_lt (by omega), Int.toNat_natCast]

end Identical

/-- The report meets the encoder exactly for the texts whose limits meet. -/
theorem reportsEncoded_iff : param.ReportsEncoded ↔ (param.Writable → param.Meets) := by
  rw [reportsEncoded_iff_codedData, Meets]
  obtain table | identical := param.dop.supported
  · rw [if_pos table, agrees_textTable_iff table]
  · rw [if_neg (by rw [identical]; decide)]
    exact imp_congr_right fun writable => agrees_identical_iff identical writable

end CodedParam

namespace SwitchDatabase

def linearMethods : LinearMethods where
  convert _ _ _ _ := .error (.requestNotSupported "linear method")
  lookup _ _ _ _ := .error (.requestNotSupported "linear method")

def point (number : String) (vt : String) (vtTi : Option String) : Dataformat.CompuScale where
  shortLabel := none
  lowerLimit := some ⟨some number.toList, .closed⟩
  upperLimit := some ⟨some number.toList, .closed⟩
  rationalCoEffs := none
  consts := some ⟨none, some vt.toList, vtTi.map String.toList⟩
  inverseValues := none

def switch : CodedDop where
  isSigned := false
  bitLength := 8
  condensed := false
  isHighLowByteOrder := true
  physicalType := none
  numeric := by simp
  compuMethod := ⟨.textTable, some ⟨some [point "1" "standby" (some "on"), point "2" "on" none]⟩⟩
  supported := .inl rfl

/-- The constant `on` behind the service identifier. -/
def onConstant : CodedParam integerConversions linearMethods where
  outer := ⟨.ok .physConst, some "Mode".toList, none, some 1, none, .none⟩
  isConst := true
  text := "on".toList
  dop := switch

/-- One is reported and two is encoded. -/
theorem not_reportsEncoded_onConstant : ¬onConstant.ReportsEncoded := by
  intro reports
  have reported : onConstant.parameter.reportedCodedValue = some 1 := by decide
  have coded : onConstant.codedData = .ok [0, 0, 0, 2] := by decide +kernel
  have same := onConstant.reportsEncoded_iff_codedData.1 reports ⟨⟨by decide, by decide⟩, by decide⟩
    1 reported _ coded
  exact absurd same (by decide)

end SwitchDatabase

end DiagnosticAdapter.Kernel
