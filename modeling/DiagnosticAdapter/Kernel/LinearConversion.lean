import Mathlib.Data.List.Find
import DiagnosticAdapter.Kernel.SerializedValue
import DiagnosticAdapter.Kernel.TextTables

/-!
# Linear conversions in both directions

The linear methods of integers, with the arithmetic of floating-point numbers taken as exact.
The limits of a scale are carried over as they stand, also by a negative factor, and a decoded
number loses its fraction.
-/

namespace DiagnosticAdapter.Kernel

open Bits Codec Effects

inductive ConversionDirection where
  | internalToPhys
  | physToInternal (inverse : Option CompuValues)

/-- `(offset + factor * value) / divisor` -/
def formula (offset factor divisor : ℚ) : FloatValue → FloatValue
  | .nan => .nan
  | .infinite negative =>
    if factor = 0 then .nan else .infinite (negative != decide (factor / divisor < 0))
  | .finite number => .finite ((offset + factor * number) / divisor)

def applyLinearConversion (rationalCoefficients : CompuRationalCoefficients)
    (number : FloatValue) (direction : ConversionDirection) : Except DiagServiceError FloatValue :=
  match rationalCoefficients.numerator, rationalCoefficients.denominator with
  | [offset, factor], denominator =>
    if 1 < denominator.length then
      .error (.invalidDatabase s!"Expected 0 or 1 denominator, got {denominator.length}")
    else
      let divisor := denominator.head?.getD 1
      match direction with
      | .physToInternal inverse =>
        if factor = 0 then
          match inverse with
          | some inverse => .ok (.finite inverse.v)
          | none =>
            .error (.invalidDatabase <|
              "Factor (V1) cannot be zero for inverse conversion. Use " ++
                "COMPU-INVERSE-VALUE for constant functions")
        else .ok (formula (-offset) divisor factor number)
      | .internalToPhys =>
        if divisor = 0 then .error (.invalidDatabase "Denominator cannot be zero")
        else .ok (formula offset factor divisor number)
  | numerator, _ =>
    .error (.invalidDatabase s!"Expected 2 numerators (offset, factor), got {numerator.length}")

section Casts

variable (isSigned : Bool)

/-- The number without its fraction is one of the type. -/
def Fits (number : ℚ) : Prop :=
  leastInteger isSigned - 1 < number ∧ number < greatestInteger isSigned + 1

instance (number : ℚ) : Decidable (Fits isSigned number) := inferInstanceAs (Decidable (_ ∧ _))

/-- `to_i32` or `to_u32` -/
def toInteger : FloatValue → Option Int
  | .finite number =>
    if Fits isSigned number then some (FloatValue.towardZero number) else none
  | _ => none

/-- `as i32` or `as u32` -/
def castInteger : FloatValue → Int
  | .nan => 0
  | .infinite true => leastInteger isSigned
  | .infinite false => greatestInteger isSigned
  | .finite number =>
    max (leastInteger isSigned) (min (FloatValue.towardZero number) (greatestInteger isSigned))

/-- The fraction that a number loses on its way to zero. -/
def lost (number : ℚ) : ℚ := number - FloatValue.towardZero number

/-- A number is still the same when the shift is cut off after it was added; the ends of the type
stand for what lies beyond them. -/
def Absorbs (number : Int) (shift : ℚ) : Prop :=
  (if number < 0 then shift ≤ 0 else shift < 1 ∨ number = greatestInteger isSigned) ∧
    if 0 < number then 0 ≤ shift else -1 < shift ∨ number = leastInteger isSigned

def fromNumber (debug : FloatValue → String) (number : FloatValue) :
    Except DiagServiceError DiagDataValue :=
  match toInteger isSigned number with
  | some integer => .ok (integerValue isSigned integer)
  | none =>
    .error (.parameterConversionError s!"Failed to convert number {debug number} to DiagDataValue")

def linearScaledValueToBytes (number : FloatValue) : List UInt8 :=
  integerBytes isSigned (castInteger isSigned number)

end Casts

section Lookup

variable (debug : FloatValue → String) (isSigned : Bool) (lookup : Int)

def lookupScale (missing : String) (scale : CompuScale) : Except DiagServiceError DiagDataValue :=
  match scale.rationalCoefficients with
  | none => .error (.invalidDatabase missing)
  | some coefficients => do
    let number ← applyLinearConversion coefficients (.finite lookup) .internalToPhys
    fromNumber isSigned debug number

def compuLookupLinear (compuMethod : CompuMethod) (scale : CompuScale) :
    Except DiagServiceError DiagDataValue :=
  if compuMethod.internalToPhys.scales.length ≠ 1 then
    .error (.invalidDatabase
      s!"LINEAR: Expected exactly 1 COMPU-SCALE, got {compuMethod.internalToPhys.scales.length}")
  else lookupScale debug isSigned lookup "LINEAR: Missing rational coefficients" scale

def compuLookupScaleLinear (scale : CompuScale) : Except DiagServiceError DiagDataValue :=
  lookupScale debug isSigned lookup "SCALE-LINEAR: Missing rational coefficients" scale

def lookupInteger (compuMethod : CompuMethod) (scale : CompuScale) :
    Except DiagServiceError DiagDataValue :=
  if compuMethod.category = .linear then
    compuLookupLinear debug isSigned lookup compuMethod scale
  else compuLookupScaleLinear debug isSigned lookup scale

/-- The numbers of the integer types, taken as exact; the other types are left out. -/
def exactDoubles : Doubles where
  Double := FloatValue
  tryInto
    | .int32 number => some (.finite number)
    | .uint32 number => some (.finite (number : Int))
    | _ => none
  formula := formula
  fromNumber number
    | .int32 => (toInteger true number).map (integerValue true)
    | .uint32 => (toInteger false number).map (integerValue false)
    | _ => none
  debug := debug

theorem lookupScale_exactDoubles (missing unreadable : String) (scale : CompuScale)
    (readable : leastInteger isSigned ≤ lookup) :
    (exactDoubles debug).lookupScale missing unreadable (integerType isSigned)
        (integerValue isSigned lookup) scale =
      lookupScale debug isSigned lookup missing scale := by
  have read : (exactDoubles debug).tryInto (integerValue isSigned lookup) =
      some (.finite lookup) := by
    cases isSigned with
    | true => rfl
    | false =>
      have natural : ((lookup.toNat : Int) : ℚ) = lookup := by
        rw [Int.toNat_of_nonneg (by simpa [leastInteger] using readable)]
      simpa [integerValue, exactDoubles] using natural
  have shown (number : FloatValue) : ((exactDoubles debug).fromNumber number
      (integerType isSigned)) = (toInteger isSigned number).map (integerValue isSigned) := by
    cases isSigned <;> rfl
  have applied (coefficients : CompuRationalCoefficients) :
      (exactDoubles debug).internalToPhys coefficients (.finite lookup) =
        applyLinearConversion coefficients (.finite lookup) .internalToPhys := by
    obtain ⟨numerator, denominator⟩ := coefficients
    rcases numerator with _ | ⟨offset, _ | ⟨factor, _ | ⟨other, more⟩⟩⟩ <;> rfl
  rw [Doubles.lookupScale, lookupScale, read]
  cases scale.rationalCoefficients with
  | none => rfl
  | some coefficients =>
    change ((exactDoubles debug).internalToPhys coefficients (.finite lookup) >>= _) = _
    rw [applied]
    dsimp only
    apply bind_congr
    intro number
    refine Eq.trans (congrArg (Option.elim · _ _) (shown number)) ?_
    unfold fromNumber
    cases toInteger isSigned number <;> rfl

theorem linearLookup_exactDoubles (compuMethod : CompuMethod) (scale : CompuScale)
    (readable : leastInteger isSigned ≤ lookup) :
    (exactDoubles debug).linearLookup (integerType isSigned) compuMethod scale
        (integerValue isSigned lookup) =
      lookupInteger debug isSigned lookup compuMethod scale := by
  simp only [Doubles.linearLookup, Doubles.compuLookupLinear, Doubles.compuLookupScaleLinear,
    lookupScale_exactDoubles debug isSigned lookup _ _ scale readable]
  rfl

end Lookup

def JsonNumber.asF64 : JsonNumber → FloatValue
  | .posInt number => .finite number
  | .negInt number => .finite number
  | .float bytes => doubleValue bytes

/-- `parse_json_to_f64` for the integer types. -/
def parseJsonToF64 (conv : Conversions) (isSigned : Bool) (diagType : DiagCodedType)
    (physicalType : Option PhysicalType) (jsonValue : JsonValue) :
    Except DiagServiceError FloatValue :=
  match jsonValue, physicalType with
  | .number number, _ => .ok number.asF64
  | .string text, some physicalType => do
    let bytes ← decodeNumericValFromStr (floatConversions conv) text physicalType diagType
    if isSigned then
      if 4 < bytes.length then
        .error (.parameterConversionError s!"Input value {bytes} is too large for Int32")
      else .ok (.finite (i32FromBeBytes (padMsbToLen bytes 4)))
    else
      if 4 < bytes.length then
        .error (.parameterConversionError
          s!"Input value {String.ofList text} is too large for UInt32")
      else .ok (.finite (value (padMsbToLen bytes 4)))
  | _, _ => .error (.parameterConversionError "Invalid JSON value for numeric conversion")

section Convert

variable (isSigned : Bool) (parsed : Except DiagServiceError FloatValue)

def convertScale (missing : String) (scale : CompuScale) (physicalValue : FloatValue) :
    Except DiagServiceError (List UInt8) :=
  match scale.rationalCoefficients with
  | none => .error (.udsLookupError missing)
  | some coefficients => do
    let internalValue ← applyLinearConversion coefficients physicalValue
      (.physToInternal scale.inverseValues)
    return linearScaledValueToBytes isSigned internalValue

/-- `parsed` is what `parse_json_to_f64` returns. -/
def compuConvertLinear (compuMethod : CompuMethod) : Except DiagServiceError (List UInt8) :=
  match compuMethod.internalToPhys.scales with
  | [scale] => do
    convertScale isSigned "LINEAR: Missing rational coefficients" scale (← parsed)
  | scales =>
    .error (.invalidDatabase s!"LINEAR: Expected exactly 1 COMPU-SCALE, got {scales.length}")

/-- A limit that cannot be converted, or is infinite, restricts nothing. -/
def limitAdmits (coefficients : CompuRationalCoefficients) (closed «open» : FloatValue → Bool)
    (limit : Limit) : Bool :=
  ((limitValue .double limit.value).bind fun number =>
      (applyLinearConversion coefficients number .internalToPhys).toOption).all fun number =>
    match limit.intervalType with
    | .closed => closed number
    | .open => «open» number
    | .infinite => true

/-- The transformed lower limit bounds the value from below, and the upper limit from above. -/
def admits (physicalValue : FloatValue) (scale : CompuScale) : Bool :=
  match scale.rationalCoefficients with
  | none => false
  | some coefficients =>
    scale.lowerLimit.all (limitAdmits coefficients (·.le physicalValue) (·.lt physicalValue)) &&
      scale.upperLimit.all (limitAdmits coefficients physicalValue.le physicalValue.lt)

def compuConvertScaleLinear (compuMethod : CompuMethod) : Except DiagServiceError (List UInt8) := do
  let physicalValue ← parsed
  match compuMethod.internalToPhys.scales.find? (admits physicalValue) with
  | none =>
    .error (.udsLookupError "Failed to find matching scale for SCALE-LINEAR conversion")
  | some scale =>
    convertScale isSigned "SCALE-LINEAR: Missing rational coefficients" scale physicalValue

def convertInteger (compuMethod : CompuMethod) : Except DiagServiceError (List UInt8) :=
  if compuMethod.category = .linear then compuConvertLinear isSigned parsed compuMethod
  else compuConvertScaleLinear isSigned parsed compuMethod

end Convert

/-- The methods of the integer types beside those of the other types. -/
def integerLinear (conv : Conversions) (debug : FloatValue → String) (other : LinearMethods) :
    LinearMethods where
  convert diagType compuMethod physicalType jsonValue :=
    match diagType.baseDatatype with
    | .int32 =>
      convertInteger true (parseJsonToF64 conv true diagType physicalType jsonValue) compuMethod
    | .uint32 =>
      convertInteger false (parseJsonToF64 conv false diagType physicalType jsonValue) compuMethod
    | _ => other.convert diagType compuMethod physicalType jsonValue
  lookup diagType compuMethod scale
    | .int32 number => lookupInteger debug true number compuMethod scale
    | .uint32 number => lookupInteger debug false number compuMethod scale
    | lookup => other.lookup diagType compuMethod scale lookup

/-- A limit whose number is known, unless it is infinite. -/
structure RationalLimit where
  limit : Limit
  bound : ℚ
  denotes : limit.intervalType ≠ .infinite → limitValue .double limit.value = some (.finite bound)

def RationalLimit.Bounds (limit : RationalLimit) (closed «open» : ℚ → Prop) : Prop :=
  match limit.limit.intervalType with
  | .closed => closed limit.bound
  | .open => «open» limit.bound
  | .infinite => True

instance (limit : RationalLimit) (closed «open» : ℚ → Prop) [DecidablePred closed]
    [DecidablePred «open»] : Decidable (limit.Bounds closed «open») := by
  unfold RationalLimit.Bounds
  split <;> infer_instance

structure LinearScale where
  lower : Option RationalLimit
  upper : Option RationalLimit
  offset : ℚ
  factor : ℚ
  denominator : Option ℚ
  consts : Option CompuValues
  inverseValues : Option CompuValues
  factor_ne : factor ≠ 0
  denominator_ne : denominator ≠ some 0

namespace LinearScale

variable (scale : LinearScale)

def into : CompuScale where
  lowerLimit := scale.lower.map (·.limit)
  upperLimit := scale.upper.map (·.limit)
  rationalCoefficients := some ⟨[scale.offset, scale.factor], scale.denominator.toList⟩
  consts := scale.consts
  inverseValues := scale.inverseValues

def divisor : ℚ := scale.denominator.getD 1

def physical (number : ℚ) : ℚ := (scale.offset + scale.factor * number) / scale.divisor

def internal (number : ℚ) : ℚ := (-scale.offset + scale.divisor * number) / scale.factor

def Contains (number : ℚ) : Prop :=
  (∀ lower ∈ scale.lower, lower.Bounds (· ≤ number) (· < number)) ∧
    ∀ upper ∈ scale.upper, upper.Bounds (number ≤ ·) (number < ·)

/-- The range with the order of the numbers reversed. -/
def Mirrors (number : ℚ) : Prop :=
  (∀ lower ∈ scale.lower, lower.Bounds (number ≤ ·) (number < ·)) ∧
    ∀ upper ∈ scale.upper, upper.Bounds (· ≤ number) (· < number)

def slope : ℚ := scale.factor / scale.divisor

/-- A falling scale takes the values whose internal values lie beyond its limits. -/
def Takes (physical : ℚ) : Prop :=
  if 0 < scale.slope then scale.Contains (scale.internal physical)
  else scale.Mirrors (scale.internal physical)

/-- A falling scale whose limits, carried over as they stand, are met by the value. -/
def Catches (physical : ℚ) : Prop := ¬0 < scale.slope ∧ scale.Mirrors (scale.internal physical)

instance (number : ℚ) : Decidable (scale.Contains number) := inferInstanceAs (Decidable (_ ∧ _))

instance (number : ℚ) : Decidable (scale.Mirrors number) := inferInstanceAs (Decidable (_ ∧ _))

instance (number : ℚ) : Decidable (scale.Takes number) := inferInstanceAs (Decidable (ite _ _ _))

instance (number : ℚ) : Decidable (scale.Catches number) := inferInstanceAs (Decidable (_ ∧ _))

end LinearScale

structure LinearMethod where
  isSigned : Bool
  isScaled : Bool
  scales : List LinearScale
  single : isScaled = false → scales.length = 1
  disjoint : scales.Pairwise fun first second => ∀ number,
    first.Contains number → ¬second.Contains number
  imagesDisjoint : scales.Pairwise fun first second => ∀ number other,
    first.Contains number → second.Contains other → first.physical number ≠ second.physical other

namespace LinearMethod

variable (conv : Conversions) (debug : FloatValue → String) (other : LinearMethods)
  (method : LinearMethod) (own : LinearScale) (number : Int)

def into : CompuMethod :=
  ⟨if method.isScaled then .scaleLinear else .linear, ⟨method.scales.map LinearScale.into⟩⟩

/-- What is displayed of the number is written as the number, and so is its exact value. -/
structure Inverts : Prop where
  displayed : ∀ displayed, compuLookup conv (integerLinear conv debug other)
      (integerType method.isSigned) method.into (integerBytes method.isSigned number) =
        .ok displayed →
    ∀ (diagType : DiagCodedType) (physicalType : Option PhysicalType),
      diagType.baseDatatype = integerType method.isSigned →
        compuConvert (integerLinear conv debug other) diagType method.into physicalType
          displayed.serialize = .ok (integerBytes method.isSigned number)
  exact : convertInteger method.isSigned (.ok (.finite (own.physical number))) method.into =
    .ok (integerBytes method.isSigned number)

/-- The scale by which a physical value is written. -/
def taker (physical : ℚ) : Option LinearScale :=
  if method.isScaled then method.scales.find? fun scale => decide (scale.Takes physical)
  else method.scales.head?

/-- The scale that takes the physical value has it within a fraction of the number. -/
def Returns (physical : ℚ) : Prop :=
  ∃ scale ∈ method.taker physical,
    Absorbs method.isSigned number ((physical - scale.physical number) / scale.slope)

/-- The exact value of a rising scale comes back unless a falling scale in front of it catches it;
that of a falling scale comes back by the first scale that catches it. -/
def ReturnsExact (index : Fin method.scales.length) : Prop :=
  let exactValue := (method.scales.get index).physical number
  method.isScaled = true →
    if 0 < (method.scales.get index).slope then
      ∀ rival ∈ (method.scales.take index).find? fun scale => decide (scale.Catches exactValue),
        Absorbs method.isSigned number ((exactValue - rival.physical number) / rival.slope)
    else
      ∃ rival ∈ method.scales.find? fun scale => decide (scale.Catches exactValue),
        Absorbs method.isSigned number ((exactValue - rival.physical number) / rival.slope)

/-- The first scale whose limits, as the decoder reads them, admit the number. -/
def displayer : Option LinearScale :=
  method.scales.find? fun scale => finds conv method.isSigned number scale.into

/-- A number in no scale is displayed as it is, another one as its value without the fraction. -/
def Displays (displayed : Int) : Prop :=
  match method.displayer conv number with
  | none => displayed = number
  | some scale =>
    toInteger method.isSigned (.finite (scale.physical number)) = some displayed

/-- What is left of the exact value without its fraction: the scale that takes it brings the
fraction against its slope, and another one also what lies between the lines. -/
def ReturnsCut (index : Fin method.scales.length) : Prop :=
  let own := method.scales.get index
  let fraction := lost (own.physical number)
  if method.isScaled then
    let shown := own.physical number - fraction
    ∃ rival ∈ method.scales.find? fun scale => decide (scale.Takes shown),
      Absorbs method.isSigned number
        ((own.physical number - rival.physical number) / rival.slope - fraction / rival.slope)
  else Absorbs method.isSigned number (-(fraction / own.slope))

/-- The displayed number comes back where it is not the exact value: a fraction is lost, or the
limits, read as integers, let another scale display the number, or none, as it is. -/
structure ReturnsDisplayed (index : Fin method.scales.length) : Prop where
  cut : method.displayer conv number = some (method.scales.get index) →
    Fits method.isSigned ((method.scales.get index).physical number) →
      lost ((method.scales.get index).physical number) ≠ 0 → method.ReturnsCut number index
  strayed : ∀ scale ∈ method.displayer conv number, scale ≠ method.scales.get index →
    Fits method.isSigned (scale.physical number) →
      scale.physical number - lost (scale.physical number) ≠
          (method.scales.get index).physical number →
        method.Returns number (scale.physical number - lost (scale.physical number))
  raw : method.displayer conv number = none →
    (number : ℚ) ≠ (method.scales.get index).physical number → method.Returns number number

end LinearMethod

namespace LinearScale

variable {scale : LinearScale} {number other : ℚ}

theorem divisor_ne : scale.divisor ≠ 0 := by
  rw [divisor]
  have given := scale.denominator_ne
  cases denominator : scale.denominator with
  | none => exact one_ne_zero
  | some divisor =>
    rw [denominator] at given
    simpa using given

theorem physical_internal : scale.physical (scale.internal number) = number := by
  have factor := scale.factor_ne
  have divisor := scale.divisor_ne
  rw [physical, internal]
  field_simp
  ring

theorem internal_physical : scale.internal (scale.physical number) = number := by
  have factor := scale.factor_ne
  have divisor := scale.divisor_ne
  rw [physical, internal]
  field_simp
  ring

theorem slope_ne : scale.slope ≠ 0 := div_ne_zero scale.factor_ne divisor_ne

theorem physical_sub : scale.physical other - scale.physical number =
    scale.slope * (other - number) := by
  rw [physical, physical, slope]
  ring

theorem internal_sub :
    scale.internal other - number = (other - scale.physical number) / scale.slope := by
  rw [eq_div_iff slope_ne, mul_comm, ← physical_sub, physical_internal]

theorem physical_lt_iff_of_rising (rising : 0 < scale.slope) :
    scale.physical number < scale.physical other ↔ number < other := by
  rw [← sub_pos, physical_sub, mul_pos_iff_of_pos_left rising, sub_pos]

theorem physical_lt_iff_of_falling (falling : ¬0 < scale.slope) :
    scale.physical number < scale.physical other ↔ other < number := by
  have negative : scale.slope < 0 := lt_of_le_of_ne (not_lt.mp falling) slope_ne
  rw [← sub_pos, physical_sub, ← neg_mul_neg, mul_pos_iff_of_pos_left (neg_pos.mpr negative),
    neg_sub, sub_pos]

theorem takes_iff_catches_of_falling (falling : ¬0 < scale.slope) :
    scale.Takes number ↔ scale.Catches number := by
  rw [Takes, Catches, if_neg falling]
  exact (and_iff_right falling).symm

theorem applyLinearConversion_physical :
    applyLinearConversion ⟨[scale.offset, scale.factor], scale.denominator.toList⟩
      (.finite number) .internalToPhys = .ok (.finite (scale.physical number)) := by
  have nonzero := scale.denominator_ne
  rw [physical, divisor]
  cases given : scale.denominator with
  | none => rfl
  | some denominator =>
    rw [given, ne_eq, Option.some.injEq] at nonzero
    simp [applyLinearConversion, formula, nonzero]

theorem applyLinearConversion_internal (inverse : Option CompuValues) :
    applyLinearConversion ⟨[scale.offset, scale.factor], scale.denominator.toList⟩
      (.finite number) (.physToInternal inverse) = .ok (.finite (scale.internal number)) := by
  rw [internal, divisor]
  cases scale.denominator with
  | none | some given => simp [applyLinearConversion, formula, scale.factor_ne]

theorem limitsAdmit_iff (limits : Option RationalLimit) {closed «open» : FloatValue → Bool}
    {closedAt openAt : ℚ → Prop}
    (closedIff : ∀ bound, closed (.finite (scale.physical bound)) = true ↔ closedAt bound)
    (openIff : ∀ bound, «open» (.finite (scale.physical bound)) = true ↔ openAt bound) :
    (limits.map (·.limit)).all (limitAdmits
        ⟨[scale.offset, scale.factor], scale.denominator.toList⟩ closed «open») = true ↔
      ∀ limit ∈ limits, limit.Bounds closedAt openAt := by
  rw [Option.all_map, Option.all_eq_true]
  apply forall₂_congr
  intro limit _
  have denotes := limit.denotes
  rw [limitAdmits, RationalLimit.Bounds]
  cases kind : limit.limit.intervalType with
  | infinite => simp
  | closed =>
    rw [denotes (by rw [kind]; decide), Option.bind_some, applyLinearConversion_physical]
    simpa [Except.toOption] using closedIff limit.bound
  | «open» =>
    rw [denotes (by rw [kind]; decide), Option.bind_some, applyLinearConversion_physical]
    simpa [Except.toOption] using openIff limit.bound

theorem admits_iff : admits (.finite number) scale.into = true ↔ scale.Takes number := by
  have le (first second : ℚ) : (FloatValue.finite first).le (.finite second) = true ↔
      first ≤ second := decide_eq_true_iff
  have lt (first second : ℚ) : (FloatValue.finite first).lt (.finite second) = true ↔
      first < second := by
    simp only [FloatValue.lt, Bool.and_eq_true, Bool.not_eq_true', le, Bool.eq_false_iff, ne_eq]
    exact lt_iff_le_not_ge.symm
  obtain ⟨own, rfl⟩ : ∃ own, scale.physical own = number := ⟨_, physical_internal⟩
  rw [admits, Takes, internal_physical]
  dsimp only [into]
  rw [Bool.and_eq_true]
  split_ifs with slope
  · have less (first second : ℚ) := @physical_lt_iff_of_rising scale first second slope
    have atMost (first second : ℚ) :
        scale.physical first ≤ scale.physical second ↔ first ≤ second := by
      rw [← not_lt, less, not_lt]
    apply and_congr
    · apply limitsAdmit_iff scale.lower
      · exact fun bound => (le _ _).trans (atMost bound own)
      · exact fun bound => (lt _ _).trans (less bound own)
    · apply limitsAdmit_iff scale.upper
      · exact fun bound => (le _ _).trans (atMost own bound)
      · exact fun bound => (lt _ _).trans (less own bound)
  · have less (first second : ℚ) := @physical_lt_iff_of_falling scale first second slope
    have atMost (first second : ℚ) :
        scale.physical first ≤ scale.physical second ↔ second ≤ first := by
      rw [← not_lt, less, not_lt]
    apply and_congr
    · apply limitsAdmit_iff scale.lower
      · exact fun bound => (le _ _).trans (atMost bound own)
      · exact fun bound => (lt _ _).trans (less bound own)
    · apply limitsAdmit_iff scale.upper
      · exact fun bound => (le _ _).trans (atMost own bound)
      · exact fun bound => (lt _ _).trans (less own bound)

theorem convertScale_eq (isSigned : Bool) (missing : String) :
    convertScale isSigned missing scale.into (.finite number) =
      .ok (linearScaledValueToBytes isSigned (.finite (scale.internal number))) := by
  rw [convertScale, into]
  dsimp only
  rw [applyLinearConversion_internal]
  rfl

theorem lookupScale_eq (debug : FloatValue → String) (isSigned : Bool) (lookup : Int)
    (missing : String) : lookupScale debug isSigned lookup missing scale.into =
      fromNumber isSigned debug (.finite (scale.physical lookup)) := by
  rw [lookupScale, into]
  dsimp only
  rw [applyLinearConversion_physical]
  rfl

end LinearScale

theorem castInteger_inRange (isSigned : Bool) (number : ℚ) :
    InRange isSigned (castInteger isSigned (.finite number)) := by
  have ends : leastInteger isSigned ≤ greatestInteger isSigned :=
    leastInteger_nonpos.trans greatestInteger_nonneg
  exact ⟨le_max_left _ _, max_le ends (min_le_right _ _)⟩

theorem le_towardZero_iff {number : Int} {value : ℚ} : number ≤ FloatValue.towardZero value ↔
    if 0 < number then (number : ℚ) ≤ value else (number : ℚ) - 1 < value := by
  rw [FloatValue.towardZero]
  split_ifs with sign positive positive
  · exact Int.le_floor
  · have below : (number : ℚ) ≤ 0 := by exact_mod_cast not_lt.mp positive
    exact iff_of_true ((not_lt.mp positive).trans (Int.floor_nonneg.mpr sign)) (by linarith)
  · have above : (0 : ℚ) < number := by exact_mod_cast positive
    have ceiling : ⌈value⌉ ≤ 0 := Int.ceil_nonpos.mpr (not_le.mp sign).le
    exact iff_of_false (by omega) (by linarith [not_le.mp sign])
  · rw [← Int.sub_one_lt_iff, Int.lt_ceil, Int.cast_sub, Int.cast_one]

theorem towardZero_le_iff {number : Int} {value : ℚ} : FloatValue.towardZero value ≤ number ↔
    if number < 0 then value ≤ number else value < number + 1 := by
  rw [FloatValue.towardZero]
  split_ifs with sign negative negative
  · have below : (number : ℚ) < 0 := by exact_mod_cast negative
    have floor : 0 ≤ ⌊value⌋ := Int.floor_nonneg.mpr sign
    exact iff_of_false (by omega) (by linarith)
  · rw [← Int.lt_add_one_iff, Int.floor_lt, Int.cast_add, Int.cast_one]
  · exact Int.ceil_le
  · have above : (0 : ℚ) ≤ number := by exact_mod_cast not_lt.mp negative
    have ceiling : ⌈value⌉ ≤ 0 := Int.ceil_nonpos.mpr (not_le.mp sign).le
    exact iff_of_true (by omega) (by linarith [not_le.mp sign])

theorem castInteger_eq_iff {isSigned : Bool} {number : Int} (inRange : InRange isSigned number)
    (value : ℚ) : castInteger isSigned (.finite value) = number ↔
      Absorbs isSigned number (value - number) := by
  obtain ⟨least, greatest⟩ := inRange
  have clamped : castInteger isSigned (.finite value) = number ↔
      (FloatValue.towardZero value ≤ number ∨ number = greatestInteger isSigned) ∧
        (number ≤ FloatValue.towardZero value ∨ number = leastInteger isSigned) := by
    rw [castInteger]
    omega
  have low : leastInteger isSigned ≤ 0 := leastInteger_nonpos
  have high : 0 ≤ greatestInteger isSigned := greatestInteger_nonneg
  rw [clamped, le_towardZero_iff, towardZero_le_iff, Absorbs]
  apply and_congr
  · split_ifs with negative
    · rw [sub_nonpos, or_iff_left (by omega)]
    · rw [sub_lt_iff_lt_add']
  · split_ifs with positive
    · rw [sub_nonneg, or_iff_left (by omega)]
    · rw [lt_sub_iff_add_lt, neg_add_eq_sub]

theorem toInteger_inRange {isSigned : Bool} {number : ℚ} {integer : Int}
    (read : toInteger isSigned (.finite number) = some integer) : InRange isSigned integer := by
  have least : leastInteger isSigned ≤ 0 := leastInteger_nonpos
  have greatest : 0 ≤ greatestInteger isSigned := greatestInteger_nonneg
  rw [toInteger, Option.ite_none_right_eq_some] at read
  obtain ⟨⟨above, below⟩, same⟩ := read
  cases same
  rw [FloatValue.towardZero]
  split_ifs with sign
  · refine ⟨least.trans (Int.floor_nonneg.2 sign), Int.lt_add_one_iff.mp (Int.floor_lt.2 ?_)⟩
    exact_mod_cast below
  · refine ⟨Int.sub_one_lt_iff.mp (Int.lt_ceil.2 ?_), (Int.ceil_nonpos.2 (not_le.1 sign).le).trans
      greatest⟩
    exact_mod_cast above

namespace LinearMethod

variable {conv : Conversions} {debug : FloatValue → String} {other : LinearMethods}
  {method : LinearMethod} {number : Int}

theorem convertInteger_eq_ok_iff (inRange : InRange method.isSigned number) (physical : ℚ) :
    convertInteger method.isSigned (.ok (.finite physical)) method.into =
        .ok (integerBytes method.isSigned number) ↔ method.Returns number physical := by
  have lands (scale : LinearScale) (missing : String) :
      convertScale method.isSigned missing scale.into (.finite physical) =
          .ok (integerBytes method.isSigned number) ↔
        Absorbs method.isSigned number ((physical - scale.physical number) / scale.slope) := by
    rw [LinearScale.convertScale_eq, Except.ok.injEq, linearScaledValueToBytes,
      ← LinearScale.internal_sub, ← castInteger_eq_iff inRange]
    constructor
    · exact TextTable.integerBytes_inj (castInteger_inRange _ _) inRange
    · rintro rfl
      rfl
  rw [convertInteger, Returns, taker, into]
  cases scaled : method.isScaled with
  | false =>
    obtain ⟨scale, only⟩ := List.length_eq_one_iff.mp (method.single scaled)
    rw [if_neg Bool.false_ne_true, if_pos rfl, compuConvertLinear, only]
    simpa [Bind.bind, Except.bind] using lands scale _
  | true =>
    have admitted : (admits (.finite physical)) ∘ LinearScale.into =
        fun scale => decide (scale.Takes physical) := by
      funext scale
      rw [Function.comp_apply, Bool.eq_iff_iff, LinearScale.admits_iff, decide_eq_true_iff]
    rw [if_pos rfl, if_neg (by simp), compuConvertScaleLinear]
    simp only [Bind.bind, Except.bind, List.find?_map, admitted]
    cases method.scales.find? fun scale => decide (scale.Takes physical) with
    | none => simp
    | some scale => simpa using lands scale _

theorem compuConvert_serialize {diagType : DiagCodedType} {physicalType : Option PhysicalType}
    (base : diagType.baseDatatype = integerType method.isSigned)
    (inRange : InRange method.isSigned number) :
    compuConvert (integerLinear conv debug other) diagType method.into physicalType
        (integerValue method.isSigned number).serialize =
      convertInteger method.isSigned (.ok (.finite number)) method.into := by
  have linear : compuConvert (integerLinear conv debug other) diagType method.into physicalType
      (integerValue method.isSigned number).serialize =
        (integerLinear conv debug other).convert diagType method.into physicalType
          (integerValue method.isSigned number).serialize := by
    rw [compuConvert, into]
    cases method.isScaled <;> rfl
  rw [linear, integerLinear]
  dsimp only
  rw [base]
  have natural (nonneg : 0 ≤ number) :
      (JsonNumber.posInt number.toNat).asF64 = .finite number := by
    have same : (number.toNat : ℚ) = number := by exact_mod_cast Int.toNat_of_nonneg nonneg
    rw [JsonNumber.asF64, same]
  obtain ⟨least, _⟩ := inRange
  cases signed : method.isSigned with
  | true =>
    have parsed : (JsonNumber.ofInt number).asF64 = .finite number := by
      rw [JsonNumber.ofInt]
      split_ifs with nonneg
      · exact natural nonneg
      · rfl
    simp [integerType, integerValue, DiagDataValue.serialize, parseJsonToF64, parsed]
  | false =>
    rw [signed, leastInteger] at least
    have parsed := natural (by simpa using least)
    simp [integerType, integerValue, DiagDataValue.serialize, parseJsonToF64, parsed]

theorem lookup_integerValue (inRange : InRange method.isSigned number) (scale : LinearScale) :
    (integerLinear conv debug other).lookup (integerType method.isSigned) method.into scale.into
        (integerValue method.isSigned number) =
      fromNumber method.isSigned debug (.finite (scale.physical number)) := by
  have looked : (integerLinear conv debug other).lookup (integerType method.isSigned) method.into
      scale.into (integerValue method.isSigned number) =
        lookupInteger debug method.isSigned number method.into scale.into := by
    obtain ⟨least, _⟩ := inRange
    rw [integerLinear]
    cases signed : method.isSigned with
    | true => rfl
    | false =>
      rw [signed, leastInteger] at least
      simp [integerValue, Int.toNat_of_nonneg (by simpa using least : 0 ≤ number)]
  rw [looked, lookupInteger, into]
  cases scaled : method.isScaled with
  | false =>
    rw [if_neg Bool.false_ne_true, if_pos rfl, compuLookupLinear, List.length_map,
      if_neg (not_not.mpr (method.single scaled)), LinearScale.lookupScale_eq]
  | true =>
    rw [if_pos rfl, if_neg (by simp), compuLookupScaleLinear, LinearScale.lookupScale_eq]

theorem compuLookup_eq_ok_iff (inRange : InRange method.isSigned number)
    {displayed : DiagDataValue} :
    compuLookup conv (integerLinear conv debug other) (integerType method.isSigned) method.into
        (integerBytes method.isSigned number) = .ok displayed ↔
      ∃ integer, method.Displays conv number integer ∧
        displayed = integerValue method.isSigned integer := by
  have read := new_integerBytes inRange.1 inRange.2
  have inhabited : ¬(method.into.category = .linear ∧ method.into.internalToPhys.scales = []) := by
    rw [into]
    cases scaled : method.isScaled with
    | true => simp
    | false =>
      have single := method.single scaled
      rintro ⟨_, empty⟩
      rw [List.map_eq_nil_iff.mp empty] at single
      cases single
  have found : method.into.internalToPhys.scales.find? (finds conv method.isSigned number) =
      (method.scales.find? fun scale => finds conv method.isSigned number scale.into).map
        LinearScale.into := List.find?_map ..
  simp only [Displays, displayer]
  generalize method.scales.find? (fun scale => finds conv method.isSigned number scale.into) =
    search at found ⊢
  unfold finds at found
  simp only [compuLookup, if_neg inhabited, read, bind, Except.bind, found]
  cases search with
  | none =>
    simp [eq_comm]
  | some scale =>
    have linear : method.into.category = .linear ∨ method.into.category = .scaleLinear := by
      rw [into]
      cases method.isScaled <;> simp
    have looked := @lookup_integerValue conv debug other method number inRange scale
    simp only [Option.map_some]
    obtain category | category := linear
    all_goals
      rw [category]
      dsimp only
      rw [looked, fromNumber]
      cases toInteger method.isSigned (.finite (scale.physical number)) with
      | none => simp
      | some integer => simp [eq_comm]

theorem Displays.inRange {integer : Int} (inRange : InRange method.isSigned number)
    (displays : method.Displays conv number integer) : InRange method.isSigned integer := by
  rw [Displays] at displays
  split at displays
  · rwa [displays]
  · exact toInteger_inRange displays

theorem absorbs_zero (isSigned : Bool) (number : Int) : Absorbs isSigned number 0 := by
  constructor <;> split_ifs <;> norm_num

section Returning

variable (index : Fin method.scales.length)

theorem head?_eq_get (scaled : method.isScaled = false) :
    method.scales.head? = some (method.scales.get index) := by
  obtain ⟨scale, only⟩ := List.length_eq_one_iff.mp (method.single scaled)
  have own : method.scales.get index = scale :=
    List.mem_singleton.mp (only ▸ List.get_mem method.scales index)
  rw [own, only]
  rfl

/-- Another scale has no value of the number's own one, so it takes such a value only beyond its
limits. -/
theorem takes_iff_catches (contains : (method.scales.get index).Contains number) (place : Nat)
    (inside : place < method.scales.length) (apart : place ≠ index) :
    method.scales[place].Takes ((method.scales.get index).physical number) ↔
      method.scales[place].Catches ((method.scales.get index).physical number) := by
  have images : ∀ other, method.scales[place].Contains other →
      method.scales[place].physical other ≠ (method.scales.get index).physical number := by
    intro other there
    have pairs := List.pairwise_iff_getElem.mp method.imagesDisjoint
    rcases Nat.lt_or_gt_of_ne apart with before | behind
    · exact pairs place index inside index.isLt before other number there contains
    · exact (pairs index place index.isLt inside behind number other contains there).symm
  by_cases rises : 0 < method.scales[place].slope
  · rw [LinearScale.Takes, if_pos rises]
    exact iff_of_false (fun there => images _ there LinearScale.physical_internal)
      fun both => both.1 rises
  · exact LinearScale.takes_iff_catches_of_falling rises

theorem returns_exact_iff (contains : (method.scales.get index).Contains number) :
    method.Returns number ((method.scales.get index).physical number) ↔
      method.ReturnsExact number index := by
  have others := takes_iff_catches index contains
  rw [Returns, taker, ReturnsExact]
  cases scaled : method.isScaled with
  | false =>
    rw [if_neg Bool.false_ne_true, head?_eq_get index scaled]
    simp [absorbs_zero]
  | true =>
    simp only [if_true, forall_const]
    by_cases rises : 0 < (method.scales.get index).slope
    · -- The scale takes its own value, so only those in front of it matter.
      have takes : (method.scales.get index).Takes
          ((method.scales.get index).physical number) := by
        rwa [LinearScale.Takes, if_pos rises, LinearScale.internal_physical]
      have front : (method.scales.take index).find?
            (fun scale => decide (scale.Takes ((method.scales.get index).physical number))) =
          (method.scales.take index).find?
            fun scale => decide (scale.Catches ((method.scales.get index).physical number)) := by
        apply List.find?_congr
        intro scale mem
        obtain ⟨place, bound, rfl⟩ := List.mem_take_iff_getElem.mp mem
        have before : place < index := by omega
        exact decide_eq_decide.mpr (others place (by omega) (by omega))
      have split : method.scales = method.scales.take index ++
          method.scales.get index :: method.scales.drop (index + 1) := by
        rw [List.get_eq_getElem, ← List.drop_eq_getElem_cons, List.take_append_drop]
      have searched : method.scales.find?
            (fun scale => decide (scale.Takes ((method.scales.get index).physical number))) =
          ((method.scales.take index).find? fun scale =>
            decide (scale.Catches ((method.scales.get index).physical number))).or
              (some (method.scales.get index)) := by
        refine (congrArg (List.find? _) split).trans ?_
        rw [List.find?_append, front]
        exact congrArg _ (List.find?_cons_of_pos (decide_eq_true takes))
      rw [if_pos rises, searched]
      cases (method.scales.take index).find? _ with
      | none => simp [absorbs_zero]
      | some rival => simp
    · have every : method.scales.find?
            (fun scale => decide (scale.Takes ((method.scales.get index).physical number))) =
          method.scales.find?
            fun scale => decide (scale.Catches ((method.scales.get index).physical number)) := by
        apply List.find?_congr
        intro scale mem
        obtain ⟨place, inside, rfl⟩ := List.mem_iff_getElem.mp mem
        rw [decide_eq_decide]
        by_cases same : place = index
        · subst same
          exact LinearScale.takes_iff_catches_of_falling rises
        · exact others place inside same
      rw [if_neg rises, every]

theorem returns_lost_iff :
    method.Returns number ((method.scales.get index).physical number -
        lost ((method.scales.get index).physical number)) ↔ method.ReturnsCut number index := by
  rw [Returns, taker, ReturnsCut]
  cases scaled : method.isScaled with
  | false =>
    rw [if_neg Bool.false_ne_true, if_neg Bool.false_ne_true, head?_eq_get index scaled]
    simp [neg_div]
  | true =>
    rw [if_pos rfl, if_pos rfl]
    simp only [sub_right_comm _ (lost _), sub_div]

theorem returnsDisplayed_iff :
    (∀ displayed : Int, method.Displays conv number displayed →
        (displayed : ℚ) ≠ (method.scales.get index).physical number →
          method.Returns number displayed) ↔ method.ReturnsDisplayed conv number index := by
  have whole (value : ℚ) : value - lost value = FloatValue.towardZero value :=
    sub_sub_cancel value _
  have shown (scale : LinearScale) (displayed : Int) :
      toInteger method.isSigned (.finite (scale.physical number)) = some displayed ↔
        Fits method.isSigned (scale.physical number) ∧
          FloatValue.towardZero (scale.physical number) = displayed := by
    rw [toInteger, Option.ite_none_right_eq_some, Option.some.injEq]
  constructor
  · intro returns
    refine ⟨fun own fits nonzero => ?_, fun scale found _ fits apart => ?_, fun none apart => ?_⟩
    · rw [← returns_lost_iff, whole]
      apply returns _ (by rw [Displays, own]; exact (shown _ _).mpr ⟨fits, rfl⟩)
      rwa [← whole, ne_eq, sub_eq_self]
    · rw [whole] at apart ⊢
      refine returns _ ?_ apart
      rw [Displays, found]
      exact (shown _ _).mpr ⟨fits, rfl⟩
    · exact returns number (by rw [Displays, none]) apart
  · rintro ⟨cut, strayed, raw⟩ displayed displays apart
    rw [Displays] at displays
    cases found : method.displayer conv number with
    | none =>
      rw [found] at displays
      rw [displays] at apart ⊢
      exact raw found apart
    | some scale =>
      rw [found] at displays
      obtain ⟨fits, rfl⟩ := (shown _ _).mp displays
      rw [← whole] at apart ⊢
      by_cases same : scale = method.scales.get index
      · subst same
        exact (returns_lost_iff index).mpr (cut found fits (by rwa [ne_eq, sub_eq_self] at apart))
      · exact strayed scale found same fits apart

end Returning

/-- A number is written again as itself exactly where its exact value comes back, and what is
displayed of it, where that is not the exact value. -/
theorem inverts_iff (conv : Conversions) (debug : FloatValue → String) (other : LinearMethods)
    (method : LinearMethod) (index : Fin method.scales.length) (number : Int)
    (inRange : InRange method.isSigned number)
    (contains : (method.scales.get index).Contains number) :
    method.Inverts conv debug other (method.scales.get index) number ↔
      method.ReturnsExact number index ∧ method.ReturnsDisplayed conv number index := by
  rw [← returns_exact_iff index contains, ← returnsDisplayed_iff]
  constructor
  · intro inverts
    refine ⟨(convertInteger_eq_ok_iff inRange _).mp inverts.exact, ?_⟩
    intro displayed displays _
    have written := inverts.displayed _ ((compuLookup_eq_ok_iff inRange).mpr ⟨_, displays, rfl⟩)
      ⟨integerType method.isSigned, .standardLength ⟨32, none, false⟩, true⟩ none rfl
    rw [compuConvert_serialize rfl (displays.inRange inRange)] at written
    exact (convertInteger_eq_ok_iff inRange _).mp written
  · rintro ⟨exactly, cut⟩
    refine ⟨?_, (convertInteger_eq_ok_iff inRange _).mpr exactly⟩
    intro value displayed diagType physicalType base
    obtain ⟨integer, displays, rfl⟩ := (compuLookup_eq_ok_iff inRange).mp displayed
    rw [compuConvert_serialize base (displays.inRange inRange)]
    apply (convertInteger_eq_ok_iff inRange _).mpr
    by_cases whole : (integer : ℚ) = (method.scales.get index).physical number
    · rwa [whole]
    · exact cut integer displays whole

def steep : LinearScale where
  lower := some ⟨⟨[], .closed⟩, 0, fun _ => rfl⟩
  upper := none
  offset := -100
  factor := 3
  denominator := some 2
  consts := none
  inverseValues := none
  factor_ne := three_ne_zero
  denominator_ne := by simp

def halving : LinearScale where
  lower := none
  upper := some ⟨⟨[], .open⟩, 0, fun _ => rfl⟩
  offset := -200
  factor := 1
  denominator := some 2
  consts := none
  inverseValues := none
  factor_ne := one_ne_zero
  denominator_ne := by simp

theorem contains_steep {number : ℚ} : steep.Contains number ↔ 0 ≤ number := by
  simp [steep, LinearScale.Contains, RationalLimit.Bounds]

theorem contains_halving {number : ℚ} : halving.Contains number ↔ number < 0 := by
  simp [halving, LinearScale.Contains, RationalLimit.Bounds]

/-- Numbers below zero are halved, the others have the steeper slope. -/
def steppedMethod : LinearMethod where
  isSigned := true
  isScaled := true
  scales := [halving, steep]
  single scaled := by cases scaled
  disjoint := by
    refine List.pairwise_pair.mpr fun number below above => ?_
    exact absurd (contains_halving.mp below) (not_lt.mpr (contains_steep.mp above))
  imagesDisjoint := by
    refine List.pairwise_pair.mpr fun number other below above same => ?_
    have negative := contains_halving.mp below
    have nonneg := contains_steep.mp above
    norm_num [halving, steep, LinearScale.physical, LinearScale.divisor] at same
    linarith

theorem lost_steep : lost (steep.physical ((3 : Int) : ℚ)) = -1 / 2 := by
  have value : steep.physical ((3 : Int) : ℚ) = -91 / 2 := by
    norm_num [steep, LinearScale.physical, LinearScale.divisor]
  have above : ⌈(-91 / 2 : ℚ)⌉ = -45 := by
    rw [Int.ceil_eq_iff]
    norm_num
  rw [lost, value, FloatValue.towardZero, if_neg (by norm_num), above]
  norm_num

/-- The half that -45.5 loses is too small against the slope to be seen again. -/
theorem inverts_iff_stepped : steppedMethod.Inverts integerConversions (fun _ => "")
    ⟨fun _ _ _ _ => .ok [], fun _ _ _ _ => .ok (.string [])⟩ steep 3 := by
  have inRange : InRange steppedMethod.isSigned 3 := ⟨by decide, by decide⟩
  have contains : steep.Contains ((3 : Int) : ℚ) := contains_steep.mpr (by norm_num)
  have slope : 0 < steep.slope := by norm_num [steep, LinearScale.slope, LinearScale.divisor]
  have rises : 0 < halving.slope := by
    norm_num [halving, LinearScale.slope, LinearScale.divisor]
  have displayer : steppedMethod.displayer integerConversions 3 = some steep := by
    have passed : finds integerConversions steppedMethod.isSigned 3 halving.into = false := by
      decide
    have found : finds integerConversions steppedMethod.isSigned 3 steep.into = true := by
      decide
    change [halving, steep].find? _ = _
    rw [List.find?_cons_of_neg (by simp [passed])]
    exact List.find?_cons_of_pos found
  apply (inverts_iff _ _ _ steppedMethod ⟨1, by decide⟩ 3 inRange contains).mpr
  refine ⟨fun _ => ?_, fun _ _ _ => ?_, fun scale found strays => ?_, fun none => ?_⟩
  · change if 0 < steep.slope then _ else _
    rw [if_pos slope]
    intro rival caught
    have holds := List.find?_some caught
    rw [List.mem_singleton.mp (List.mem_of_find?_eq_some caught)] at holds
    exact absurd rises (of_decide_eq_true holds).1
  · change ∃ rival ∈ [halving, steep].find? _, _
    have cut : steep.physical ((3 : Int) : ℚ) - lost (steep.physical ((3 : Int) : ℚ)) = -45 := by
      rw [lost_steep]
      norm_num [steep, LinearScale.physical, LinearScale.divisor]
    have passed : ¬halving.Takes (-45) := by
      rw [LinearScale.Takes, if_pos rises, contains_halving]
      norm_num [halving, LinearScale.internal, LinearScale.divisor]
    have taken : steep.Takes (-45) := by
      rw [LinearScale.Takes, if_pos slope, contains_steep]
      norm_num [steep, LinearScale.internal, LinearScale.divisor]
    refine ⟨steep, ?_, ?_⟩
    · change [halving, steep].find? (fun scale => decide (scale.Takes
        (steep.physical ((3 : Int) : ℚ) - lost (steep.physical ((3 : Int) : ℚ))))) = some steep
      rw [cut, List.find?_cons_of_neg (by simpa using passed)]
      exact List.find?_cons_of_pos (decide_eq_true taken)
    · change Absorbs true 3 ((steep.physical ((3 : Int) : ℚ) - steep.physical ((3 : Int) : ℚ)) /
        steep.slope - lost (steep.physical ((3 : Int) : ℚ)) / steep.slope)
      rw [lost_steep, sub_self]
      norm_num [Absorbs, steep, LinearScale.slope, LinearScale.divisor]
  · exact absurd (Option.some.inj (displayer.symm.trans found)).symm strays
  · cases displayer.symm.trans none

def falling : LinearScale where
  lower := some ⟨⟨[], .closed⟩, 0, fun _ => rfl⟩
  upper := none
  offset := 0
  factor := -1
  denominator := none
  consts := none
  inverseValues := none
  factor_ne := by norm_num
  denominator_ne := by simp

def fallingMethod : LinearMethod where
  isSigned := true
  isScaled := true
  scales := [falling]
  single scaled := by cases scaled
  disjoint := List.pairwise_singleton _ _
  imagesDisjoint := List.pairwise_singleton _ _

/-- The scale takes no value of its numbers but that of the lower limit. -/
theorem not_inverts_falling : ¬∀ (conv : Conversions) (debug : FloatValue → String)
    (other : LinearMethods) (method : LinearMethod) (index : Fin method.scales.length)
    (number : Int), InRange method.isSigned number → (method.scales.get index).Contains number →
        method.Inverts conv debug other (method.scales.get index) number := by
  intro everyInverts
  have inRange : InRange fallingMethod.isSigned 3 := ⟨by decide, by decide⟩
  have contains : falling.Contains ((3 : Int) : ℚ) := by
    simp [falling, LinearScale.Contains, RationalLimit.Bounds]
  let other : LinearMethods := ⟨fun _ _ _ _ => .ok [], fun _ _ _ _ => .ok (.string [])⟩
  have inverts := everyInverts integerConversions (fun _ => "") other fallingMethod
    ⟨0, by decide⟩ 3 inRange contains
  obtain ⟨scale, taken, _⟩ := (convertInteger_eq_ok_iff inRange _).mp inverts.exact
  have rejected : ¬falling.Takes (falling.physical ((3 : Int) : ℚ)) := by
    rw [LinearScale.Takes, LinearScale.internal_physical, if_neg]
    · norm_num [falling, LinearScale.Mirrors, RationalLimit.Bounds]
    · norm_num [falling, LinearScale.slope, LinearScale.divisor]
  change fallingMethod.scales.find?
    (fun scale => decide (scale.Takes (falling.physical ((3 : Int) : ℚ)))) = some scale at taken
  have holds := List.find?_some taken
  obtain rfl := List.mem_singleton.mp (List.mem_of_find?_eq_some taken)
  exact rejected (of_decide_eq_true holds)

end LinearMethod

end DiagnosticAdapter.Kernel
