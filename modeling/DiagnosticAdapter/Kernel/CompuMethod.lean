import DiagnosticAdapter.Kernel.FloatText
import DiagnosticAdapter.Kernel.Value

/-!
# Compu methods

The compu methods of a database as they are stored and as they are converted, and the text
tables in both directions.  What the other categories do with a number is a parameter.
-/

namespace DiagnosticAdapter.Kernel

open Bits Codec

namespace Dataformat

structure Limit where
  value : Option Text
  intervalType : IntervalType
  deriving DecidableEq, Repr

structure CompuValues where
  v : Option ℚ
  vt : Option Text
  vtTi : Option Text
  deriving DecidableEq, Repr

structure CompuRationalCoEffs where
  numerator : Option (List ℚ)
  denominator : Option (List ℚ)
  deriving DecidableEq, Repr

/-- `shortLabel` is the value of the text element. -/
structure CompuScale where
  shortLabel : Option Text
  lowerLimit : Option Limit
  upperLimit : Option Limit
  rationalCoEffs : Option CompuRationalCoEffs
  consts : Option CompuValues
  inverseValues : Option CompuValues
  deriving DecidableEq, Repr

structure CompuInternalToPhys where
  compuScales : Option (List CompuScale)
  deriving DecidableEq, Repr

structure CompuMethod where
  category : CompuCategory
  internalToPhys : Option CompuInternalToPhys
  deriving DecidableEq, Repr

end Dataformat

structure CompuValues where
  v : ℚ
  vt : Option Text
  vtTi : Option Text
  deriving DecidableEq, Repr

structure CompuRationalCoefficients where
  numerator : List ℚ
  denominator : List ℚ
  deriving DecidableEq, Repr

structure CompuScale where
  lowerLimit : Option Limit
  upperLimit : Option Limit
  rationalCoefficients : Option CompuRationalCoefficients
  consts : Option CompuValues
  inverseValues : Option CompuValues
  deriving DecidableEq, Repr

structure CompuFunction where
  scales : List CompuScale
  deriving DecidableEq, Repr

structure CompuMethod where
  category : CompuCategory
  internalToPhys : CompuFunction
  deriving DecidableEq, Repr

namespace Dataformat

def Limit.into (limit : Limit) : Kernel.Limit := ⟨limit.value.getD [], limit.intervalType⟩

def CompuValues.into (values : CompuValues) : Kernel.CompuValues :=
  ⟨values.v.getD 0, values.vt, values.vtTi⟩

def CompuRationalCoEffs.into (coefficients : CompuRationalCoEffs) : CompuRationalCoefficients :=
  ⟨coefficients.numerator.getD [], coefficients.denominator.getD []⟩

def CompuScale.into (scale : CompuScale) : Kernel.CompuScale where
  lowerLimit := scale.lowerLimit.map Limit.into
  upperLimit := scale.upperLimit.map Limit.into
  rationalCoefficients := scale.rationalCoEffs.map CompuRationalCoEffs.into
  consts := scale.consts.map CompuValues.into
  inverseValues := scale.inverseValues.map CompuValues.into

def CompuMethod.scales (method : CompuMethod) : List CompuScale :=
  (method.internalToPhys.bind (·.compuScales)).getD []

def CompuMethod.into (method : CompuMethod) : Kernel.CompuMethod :=
  ⟨method.category, ⟨method.scales.map CompuScale.into⟩⟩

end Dataformat

/-- A limit without text is zero. -/
def limitValue (format : FloatFormat) (text : Text) : Option FloatValue :=
  if text = [] then some (.finite 0) else (parseFloat text).map (·.value format)

def limitToInt (low high : Int) (text : Text) : Option Int :=
  (limitValue .double text).bind (·.within low high)

def limitBytes (format : FloatFormat) (length : Nat) (text : Text) : Option (List UInt8) :=
  if text = [] then some (toBeBytes length 0)
  else (parseFloat text).map fun literal => toBeBytes length (literal.bits format)

def singleValue (bytes : List UInt8) : FloatValue := FloatFormat.single.decode (value bytes)

def doubleValue (bytes : List UInt8) : FloatValue := FloatFormat.double.decode (value bytes)

def singleToDouble (bytes : List UInt8) : List UInt8 :=
  toBeBytes 8 (FloatFormat.single.recode .double (value bytes))

def doubleToSingle (bytes : List UInt8) : List UInt8 :=
  toBeBytes 4 (FloatFormat.double.recode .single (value bytes))

def floatOfInt (format : FloatFormat) (number : Int) : Nat :=
  format.encode (decide (number < 0)) number.natAbs

def jsonToDouble : JsonNumber → List UInt8
  | .posInt number => toBeBytes 8 (floatOfInt .double number)
  | .negInt number => toBeBytes 8 (floatOfInt .double number)
  | .float bytes => bytes

/-- The number as `u32`; what is not a number becomes zero. -/
def floatToU32 : FloatValue → Option Nat
  | .nan => some 0
  | number => (number.within 0 (2 ^ 32 - 1)).map Int.toNat

def floatConversions (conv : Conversions) : Conversions :=
  { conv with
    parseF32 := fun text =>
      (parseFloat text).map fun literal => toBeBytes 4 (literal.bits .single)
    parseF64 := fun text =>
      (parseFloat text).map fun literal => toBeBytes 8 (literal.bits .double)
    isFinite := fun bytes => (doubleValue bytes).isFinite
    jsonToF32 := fun number => doubleToSingle (jsonToDouble number)
    jsonToF64 := jsonToDouble
    truncateF32 := fun bytes => (singleValue bytes).truncate
    truncateF64 := fun bytes => (doubleValue bytes).truncate
    toF32 := fun
      | .int number => toBeBytes 4 (floatOfInt .single number)
      | .float32 bytes => bytes
      | .float64 bytes => doubleToSingle bytes
    toF64 := fun
      | .int number => toBeBytes 8 (floatOfInt .double number)
      | .float32 bytes => singleToDouble bytes
      | .float64 bytes => bytes
    limitToU32 := fun text => (limitToInt 0 (2 ^ 32 - 1) text).map Int.toNat
    limitToI32 := limitToInt (-2 ^ 31) (2 ^ 31 - 1)
    limitToF32 := limitBytes .single 4
    limitToF64 := limitBytes .double 8
    ltF32 := fun first second => (singleValue first).lt (singleValue second)
    leF32 := fun first second => (singleValue first).le (singleValue second)
    ltF64 := fun first second => (doubleValue first).lt (doubleValue second)
    leF64 := fun first second => (doubleValue first).le (doubleValue second)
    f32ToU32 := fun bytes => floatToU32 (singleValue bytes)
    f64ToU32 := fun bytes => floatToU32 (doubleValue bytes) }

def CompuScale.text (scale : CompuScale) : Option Text :=
  scale.consts.bind fun consts => consts.vt.or consts.vtTi

/-- The limit of the first scale with this text that has one. -/
def textTableLimit (scales : List CompuScale) (text : Text) : Option Limit :=
  scales.findSome? fun scale => if scale.text = some text then scale.lowerLimit else none

def limitFailure (limit : Limit) (type reason : String) : DiagServiceError :=
  .parameterConversionError
    s!"Cannot convert Limit with value {String.ofList limit.value} into {type}, {reason}"

def invalidFloat : String := "ParseFloatError \x7b kind: Invalid \x7d"

/-- `try_into` of a limit for an integer. -/
def tryIntoInt (low high : Int) (type reason : String) (limit : Limit) :
    Except DiagServiceError Int :=
  match limitValue .double limit.value with
  | none => .error (limitFailure limit "f64" invalidFloat)
  | some number => (number.within low high).elim (.error (limitFailure limit type reason)) .ok

def tryIntoI32 : Limit → Except DiagServiceError Int :=
  tryIntoInt (-2 ^ 31) (2 ^ 31 - 1) "i32" "value out of range"

def tryIntoU32 : Limit → Except DiagServiceError Int :=
  tryIntoInt 0 (2 ^ 32 - 1) "u32" "value is negative"

/-- `try_into` of a limit for a floating-point number. -/
def tryIntoFloat (format : FloatFormat) (length : Nat) (type : String) (limit : Limit) :
    Except DiagServiceError (List UInt8) :=
  (limitBytes format length limit.value).elim (.error (limitFailure limit type invalidFloat)) .ok

def limitToUdsData (diagType : DataType) (limit : Limit) : Except DiagServiceError (List UInt8) :=
  match diagType with
  | .int32 => do return i32ToBeBytes (← tryIntoI32 limit)
  | .uint32 => do return toBeBytes 4 (← tryIntoU32 limit).toNat
  | .float32 => tryIntoFloat .single 4 "f32" limit
  | .float64 => tryIntoFloat .double 8 "f64" limit
  | _ => .error (.panicked "internal error: entered unreachable code")

theorem tryIntoInt_eq_ok_iff {low high : Int} {type reason : String} {limit : Limit}
    {number : Int} : tryIntoInt low high type reason limit = .ok number ↔
      limitToInt low high limit.value = some number := by
  rw [tryIntoInt, limitToInt]
  cases limitValue .double limit.value with
  | none => simp
  | some value => cases inRange : value.within low high <;> simp [inRange]

section Integers

variable (isSigned : Bool)

def integerType : DataType := if isSigned then .int32 else .uint32

def leastInteger : Int := if isSigned then -2 ^ 31 else 0

def greatestInteger : Int := if isSigned then 2 ^ 31 - 1 else 2 ^ 32 - 1

def integerBytes (number : Int) : List UInt8 :=
  if isSigned then i32ToBeBytes number else toBeBytes 4 number.toNat

def integerValue (number : Int) : DiagDataValue :=
  if isSigned then .int32 number else .uint32 number.toNat

variable {isSigned}

theorem leastInteger_nonpos : leastInteger isSigned ≤ 0 := by
  rw [leastInteger]
  split_ifs <;> decide

theorem greatestInteger_nonneg : 0 ≤ greatestInteger isSigned := by
  rw [greatestInteger]
  split_ifs <;> decide

theorem length_integerBytes (number : Int) : (integerBytes isSigned number).length = 4 := by
  rw [integerBytes]
  split_ifs
  · exact length_toBeBytes 4 _
  · exact length_toBeBytes 4 _

theorem new_integerBytes {number : Int} (low : leastInteger isSigned ≤ number)
    (high : number ≤ greatestInteger isSigned) :
    DiagDataValue.new (integerType isSigned) (integerBytes isSigned number) =
      .ok (integerValue isSigned number) := by
  have whole : padMsbToLen (integerBytes isSigned number) 4 = integerBytes isSigned number := by
    rw [padMsbToLen, length_integerBytes]
    rfl
  rw [leastInteger] at low
  rw [greatestInteger] at high
  cases isSigned with
  | true =>
    simp only [if_true] at low high
    have bound : (number % 2 ^ 32).toNat < 2 ^ (8 * 4) := by omega
    have read : i32FromBeBytes (i32ToBeBytes number) = number := by
      rw [i32FromBeBytes, i32ToBeBytes, value_toBeBytes, Nat.mod_eq_of_lt bound]
      split_ifs <;> omega
    simp only [integerType, if_true, DiagDataValue.new, length_integerBytes, whole]
    simp [integerBytes, integerValue, read]
  | false =>
    simp only [Bool.false_eq_true, if_false] at low high
    have bound : number.toNat < 2 ^ (8 * 4) := by omega
    simp only [integerType, Bool.false_eq_true, if_false, DiagDataValue.new,
      length_integerBytes, whole]
    have read : value (toBeBytes 4 number.toNat) = number.toNat := by
      rw [value_toBeBytes, Nat.mod_eq_of_lt bound]
    simp [integerBytes, integerValue, read]

theorem limitToUdsData_eq_ok_iff {limit : Limit} {data : List UInt8} :
    limitToUdsData (integerType isSigned) limit = .ok data ↔
      ∃ number, limitToInt (leastInteger isSigned) (greatestInteger isSigned) limit.value =
        some number ∧ data = integerBytes isSigned number := by
  have bound {low high : Int} {type reason : String} {bytes : Int → List UInt8} :
      (tryIntoInt low high type reason limit >>= fun number => pure (bytes number)) = .ok data ↔
        ∃ number, limitToInt low high limit.value = some number ∧ data = bytes number := by
    simp only [← @tryIntoInt_eq_ok_iff low high type reason]
    cases tryIntoInt low high type reason limit with
    | error failure => simp [Bind.bind, Except.bind]
    | ok number => simp [Bind.bind, Except.bind, pure, Except.pure, eq_comm]
  cases isSigned with
  | true => exact bound
  | false => exact bound

end Integers

/-- The quotation marks of a text count for nothing. -/
def unquoted (text : Text) : Text := text.filter (· ≠ '"')

def compuConvertTextTable (diagType : DataType) (compuMethod : CompuMethod)
    (jsonValue : JsonValue) : Except DiagServiceError (List UInt8) :=
  if ¬(diagType = .int32 ∨ diagType = .uint32 ∨ diagType = .float32 ∨ diagType = .float64) then
    .error (.invalidDatabase "TextTable conversion only supports numeric data types")
  else
    match jsonValue.asStr.map unquoted with
    | none => .error (.udsLookupError "Failed to convert value to string")
    | some text =>
      match textTableLimit compuMethod.internalToPhys.scales text with
      | some limit => limitToUdsData diagType limit
      | none => .error (.udsLookupError "Failed to find matching TextTable value")

def compuLookupTextTable (scale : CompuScale) : Except DiagServiceError DiagDataValue :=
  match scale.consts with
  | none => .error (.invalidDatabase "TextTable lookup has no Consts")
  | some consts =>
    match consts.vt.or consts.vtTi with
    | none => .error (.udsLookupError "failed to read compu value")
    | some text => .ok (.string text)

structure LinearMethods where
  convert : DiagCodedType → CompuMethod → Option PhysicalType → JsonValue →
    Except DiagServiceError (List UInt8)
  lookup : DataType → CompuMethod → CompuScale → DiagDataValue →
    Except DiagServiceError DiagDataValue

def CompuCategory.name : CompuCategory → String
  | .identical => "Identical"
  | .linear => "Linear"
  | .scaleLinear => "ScaleLinear"
  | .textTable => "TextTable"
  | .compuCode => "CompuCode"
  | .tabIntp => "TabIntp"
  | .ratFunc => "RatFunc"
  | .scaleRatFunc => "ScaleRatFunc"

section Methods

variable (conv : Conversions) (linear : LinearMethods)

def compuConvert (diagType : DiagCodedType) (compuMethod : CompuMethod)
    (physType : Option PhysicalType) (jsonValue : JsonValue) :
    Except DiagServiceError (List UInt8) :=
  match compuMethod.category with
  | .linear | .scaleLinear => linear.convert diagType compuMethod physType jsonValue
  | .textTable => compuConvertTextTable diagType.baseDatatype compuMethod jsonValue
  | category =>
    .error (.requestNotSupported s!"compu_convert for {category.name} is not implemented")

/-- A value outside of all scales is returned as it is. -/
def compuLookup (diagType : DataType) (compuMethod : CompuMethod) (data : List UInt8) :
    Except DiagServiceError DiagDataValue :=
  if compuMethod.category = .linear ∧ compuMethod.internalToPhys.scales = [] then
    .error (.invalidDatabase "LINEAR COMPU-METHOD must have exactly one COMPU-SCALE")
  else do
    let lookup ← DiagDataValue.new diagType data
    match compuMethod.internalToPhys.scales.find? fun scale =>
      lookup.withinLimits (floatConversions conv) scale.upperLimit scale.lowerLimit with
    | some scale =>
      match compuMethod.category with
      | .linear | .scaleLinear => linear.lookup diagType compuMethod scale lookup
      | .textTable => compuLookupTextTable scale
      | category =>
        .error (.requestNotSupported s!"compu_lookup for {category.name} is not implemented")
    | none => DiagDataValue.new diagType data

def compuConversions : Conversions :=
  { floatConversions conv with
    CompuMethod := Dataformat.CompuMethod
    category := Dataformat.CompuMethod.category
    compuConvert := fun diagType method => compuConvert linear diagType method.into
    compuLookup := fun diagType method => compuLookup conv linear diagType method.into }

end Methods

/-- The `f64` numbers of the linear methods, with their arithmetic and their casts. -/
structure Doubles where
  Double : Type
  tryInto : DiagDataValue → Option Double
  formula : ℚ → ℚ → ℚ → Double → Double
  fromNumber : Double → DataType → Option DiagDataValue
  debug : Double → String

namespace Doubles

variable (doubles : Doubles)

/-- `apply_linear_conversion` from the internal value. -/
def internalToPhys (coefficients : CompuRationalCoefficients) (number : doubles.Double) :
    Except DiagServiceError doubles.Double :=
  match coefficients.numerator, coefficients.denominator with
  | [offset, factor], denominator =>
    if 1 < denominator.length then
      .error (.invalidDatabase s!"Expected 0 or 1 denominator, got {denominator.length}")
    else
      let divisor := denominator.head?.getD 1
      if divisor = 0 then .error (.invalidDatabase "Denominator cannot be zero")
      else .ok (doubles.formula offset factor divisor number)
  | numerator, _ =>
    .error (.invalidDatabase s!"Expected 2 numerators (offset, factor), got {numerator.length}")

def lookupScale (missing unreadable : String) (diagType : DataType) (lookup : DiagDataValue)
    (scale : CompuScale) : Except DiagServiceError DiagDataValue := do
  let coefficients ← scale.rationalCoefficients.elim (.error (.invalidDatabase missing)) .ok
  let number ← (doubles.tryInto lookup).elim (.error (.parameterConversionError unreadable)) .ok
  let physical ← doubles.internalToPhys coefficients number
  (doubles.fromNumber physical diagType).elim (.error (.parameterConversionError
    s!"Failed to convert number {doubles.debug physical} to DiagDataValue")) .ok

def compuLookupLinear (diagType : DataType) (compuMethod : CompuMethod) (lookup : DiagDataValue)
    (scale : CompuScale) : Except DiagServiceError DiagDataValue :=
  if compuMethod.internalToPhys.scales.length ≠ 1 then
    .error (.invalidDatabase
      s!"LINEAR: Expected exactly 1 COMPU-SCALE, got {compuMethod.internalToPhys.scales.length}")
  else
    doubles.lookupScale "LINEAR: Missing rational coefficients"
      ("Failed to convert lookup value: Parameter conversion error: " ++
        "Cannot convert DiagDataValue to f64") diagType lookup scale

def compuLookupScaleLinear : DataType → DiagDataValue → CompuScale →
    Except DiagServiceError DiagDataValue :=
  doubles.lookupScale "SCALE-LINEAR: Missing rational coefficients"
    "Cannot convert DiagDataValue to f64"

/-- The linear methods of every coded type. -/
def linearLookup (diagType : DataType) (compuMethod : CompuMethod) (scale : CompuScale)
    (lookup : DiagDataValue) : Except DiagServiceError DiagDataValue :=
  if compuMethod.category = .linear then doubles.compuLookupLinear diagType compuMethod lookup scale
  else doubles.compuLookupScaleLinear diagType lookup scale

end Doubles

end DiagnosticAdapter.Kernel
