import Mathlib.Data.List.AList
import DiagnosticAdapter.Kernel.Json

/-!
# The database: parameters and data operations

The tables of the diagnostic description that the encoder and the decoder of a
payload read.  A parameter names its kind and holds specific data; the two need
not go together in a damaged database, and every reader checks that they do.
-/

namespace DiagnosticAdapter.Kernel

open Codec

/-- The coded type is the outcome of its conversion from the database. -/
structure NormalDop (conv : Conversions) where
  diagCodedType : Except DiagServiceError DiagCodedType
  compuMethod : Option conv.CompuMethod
  physicalType : Option PhysicalType

/-- `text` is the value of the text element. -/
structure Dtc where
  troubleCode : Nat
  displayTroubleCode : Option Text
  text : Option Text
  level : Option Nat
  deriving DecidableEq, Repr

structure DtcDop where
  diagCodedType : Except DiagServiceError DiagCodedType
  dtcs : Option (List Dtc)

inductive IntervalType where
  | open
  | closed
  | infinite
  deriving DecidableEq, Repr

structure Limit where
  value : Text
  intervalType : IntervalType
  deriving DecidableEq, Repr

inductive ParamType where
  | codedConst
  | dynamic
  | lengthKey
  | matchingRequestParam
  | nrcConst
  | physConst
  | reserved
  | system
  | tableEntry
  | tableKey
  | tableStruct
  | value
  deriving DecidableEq, Repr

structure CodedConst where
  diagCodedType : Option (Except DiagServiceError DiagCodedType)
  codedValue : Option Text

mutual

/-- `DataOperation::variant` with its data; `invalid` where it has none that is known. -/
inductive DataOperation (conv : Conversions) where
  | normal (dop : NormalDop conv)
  | endOfPdu (dop : EndOfPdu conv)
  | struct (dop : StructureDop conv)
  | envDataDesc (dop : EnvDataDescDop conv)
  | envData (dop : EnvDataDop conv)
  | dtc (dop : DtcDop)
  | staticField (dop : StaticFieldDop conv)
  | mux (dop : MuxDop conv)
  | dynamicLengthField (dop : DynamicLengthDop conv)
  | invalid (error : DiagServiceError)

structure DopField (conv : Conversions) where
  basicStructure : Option (DataOperation conv)
  envDataDesc : Option (DataOperation conv)

structure EndOfPdu (conv : Conversions) where
  maxNumberOfItems : Option Nat
  minNumberOfItems : Option Nat
  field : Option (DopField conv)

structure StructureDop (conv : Conversions) where
  params : Option (List (Parameter conv))
  byteSize : Option Nat

structure EnvDataDescDop (conv : Conversions) where
  paramShortName : Option Text
  envDatas : Option (List (DataOperation conv))

structure EnvDataDop (conv : Conversions) where
  dtcValues : Option (List Nat)
  params : Option (List (Parameter conv))

structure StaticFieldDop (conv : Conversions) where
  fixedNumberOfItems : Nat
  itemByteSize : Nat
  field : Option (DopField conv)

structure SwitchKey (conv : Conversions) where
  bytePosition : Nat
  bitPosition : Option Nat
  dop : Option (DataOperation conv)

structure DefaultCase (conv : Conversions) where
  shortName : Option Text
  structureDop : Option (DataOperation conv)

structure Case (conv : Conversions) where
  shortName : Option Text
  structureDop : Option (DataOperation conv)
  lowerLimit : Option Limit
  upperLimit : Option Limit

structure MuxDop (conv : Conversions) where
  bytePosition : Nat
  switchKey : Option (SwitchKey conv)
  defaultCase : Option (DefaultCase conv)
  cases : Option (List (Case conv))

structure DetermineNumberOfItems (conv : Conversions) where
  bytePosition : Nat
  bitPosition : Nat
  dop : Option (DataOperation conv)

structure DynamicLengthDop (conv : Conversions) where
  offset : Nat
  field : Option (DopField conv)
  determineNumberOfItems : Option (DetermineNumberOfItems conv)

structure TableRow (conv : Conversions) where
  shortName : Option Text
  key : Option Text
  structureDop : Option (DataOperation conv)

structure TableDop (conv : Conversions) where
  keyDop : Option (DataOperation conv)
  rows : Option (List (TableRow conv))

/-- A table key refers to a table, or to something else. -/
inductive SpecificData (conv : Conversions) where
  | codedConst (codedConst : CodedConst)
  | matchingRequestParam (requestBytePos : Int)
  | value (physicalDefaultValue : Option Text) (dop : Option (DataOperation conv))
  | reserved (bitLength : Nat)
  | lengthKeyRef (dop : Option (DataOperation conv))
  | physConst (physConstantValue : Option Text) (dop : Option (DataOperation conv))
  | tableKey (table : Option (TableDop conv))
  | tableStruct (tableKey : Option (Parameter conv))
  | none

structure Parameter (conv : Conversions) where
  paramType : Except DiagServiceError ParamType
  shortName : Option Text
  semantic : Option Text
  bytePos : Option Nat
  bitPos : Option Nat
  specificData : SpecificData conv

end

variable {conv : Conversions}

namespace DataOperation

def asStructure : DataOperation conv → Option (StructureDop conv)
  | .struct dop => some dop
  | _ => none

def asNormalDop : DataOperation conv → Option (NormalDop conv)
  | .normal dop => some dop
  | _ => none

def asEnvDataDesc : DataOperation conv → Option (EnvDataDescDop conv)
  | .envDataDesc dop => some dop
  | _ => none

def asEnvData : DataOperation conv → Option (EnvDataDop conv)
  | .envData dop => some dop
  | _ => none

def variantName : DataOperation conv → String
  | .normal _ => "NormalDOP"
  | .endOfPdu _ => "EndOfPduField"
  | .struct _ => "Structure"
  | .envDataDesc _ => "EnvDataDesc"
  | .envData _ => "EnvData"
  | .dtc _ => "DTCDOP"
  | .staticField _ => "StaticField"
  | .mux _ => "MUXDOP"
  | .dynamicLengthField _ => "DynamicLengthField"
  | .invalid _ => "Unknown"

end DataOperation

namespace Parameter

def bytePosition (param : Parameter conv) : Nat := param.bytePos.getD 0

def hasBytePosition (param : Parameter conv) : Bool := param.bytePos.isSome

def bitPosition (param : Parameter conv) : Nat := param.bitPos.getD 0

/-- The name in error messages, `short_name().unwrap_or_default()`. -/
def nameOrDefault (param : Parameter conv) : String := String.ofList (param.shortName.getD [])

def inner? (param : Parameter conv) : Option (StructureDop conv) :=
  match param.specificData with
  | .value _ (some (.struct structDop)) | .physConst _ (some (.struct structDop)) => some structDop
  | _ => none

/-- `param_position_order`, and the order of `create_uds_payload`: not greater.
Parameters without a position come last. -/
def positionLe (a b : Parameter conv) : Bool :=
  match a.hasBytePosition, b.hasBytePosition with
  | true, true =>
    a.bytePosition < b.bytePosition ∨
      a.bytePosition = b.bytePosition ∧ a.bitPosition ≤ b.bitPosition
  | false, true => false
  | true, false => true
  | false, false => true

end Parameter

structure Request (conv : Conversions) where
  params : Option (List (Parameter conv))

structure DiagService (conv : Conversions) where
  request : Option (Request conv)

/-- The JSON values given by the caller, by parameter name. -/
abbrev ParameterMap := AList fun _ : Text => JsonValue

end DiagnosticAdapter.Kernel
