import DiagnosticAdapter.Codec.BitAccess
import DiagnosticAdapter.Detection.EcuState

/-!
# Verdict on a duplicate group

`evaluate_duplicate_group` runs detection for one member after the other, in the order
in which the set yields them, and `apply_group_result` writes the verdict to all of
them.
-/

namespace DiagnosticAdapter.Detection

open Codec (DiagServiceError)

structure Variant where
  name : String
  isBaseVariant : Bool
  deriving DecidableEq, Repr

/-- An `EcuManager` as far as detection reads it: its state, and what its database
answers. -/
structure EcuManager (Response : Type) where
  status : EcuState
  isLoaded : Bool
  load : Except DiagServiceError Unit
  evaluateVariant : List (String × Response) → Except DiagServiceError Variant
  fallbackToBaseVariant : Bool
  baseVariant : Except DiagServiceError Variant
  /-- The short names of the variants, where they have one, in the database's order. -/
  variants : Option (List (Option String))
  setDefaultStates : Except DiagServiceError Unit

variable {Response : Type}

namespace EcuManager

def clearVariantAndUnload (variantState : VariantState) (connectivity : Option Connectivity)
    (ecu : EcuManager Response) : EcuManager Response :=
  { ecu with
    status :=
      { connectivity := connectivity.getD ecu.status.connectivity
        variantState := variantState
        variantIndex := none }
    isLoaded := false }

/-- The state is written before the default states can fail. -/
def setVariant (variant : Variant) (isFallback : Bool) (ecu : EcuManager Response) :
    Except DiagServiceError Unit × EcuManager Response :=
  let variantIndex := ecu.variants.bind fun variants => variants.findIdx? (· == some variant.name)
  let status : EcuState :=
    if variantIndex.isSome then
      { connectivity := .online
        variantState := .detected variant.name variant.isBaseVariant isFallback
        variantIndex := variantIndex }
    else
      { ecu.status with variantState := .notDetected, variantIndex := variantIndex }
  (ecu.setDefaultStates, { ecu with status := status })

/-- The part of `detect_variant` behind loading the database. -/
def detectLoaded (serviceResponses : List (String × Response)) (ecu : EcuManager Response) :
    Except DiagServiceError Unit × EcuManager Response :=
  if serviceResponses.isEmpty then
    (.ok (), { ecu with status := { ecu.status with connectivity := .offline } })
  else
    match ecu.evaluateVariant serviceResponses with
    | .ok variant => ecu.setVariant variant false
    | .error e =>
      if ecu.fallbackToBaseVariant then
        match ecu.baseVariant with
        | .error e => (.error e, ecu.clearVariantAndUnload .notDetected (some .online))
        | .ok baseVariant => ecu.setVariant baseVariant true
      else
        (.error e, ecu.clearVariantAndUnload .notDetected (some .online))

def detectVariant (serviceResponses : List (String × Response)) (ecu : EcuManager Response) :
    Except DiagServiceError Unit × EcuManager Response :=
  if ecu.isLoaded then
    ecu.detectLoaded serviceResponses
  else
    match ecu.load with
    | .error e => (.error e, ecu)
    | .ok () => { ecu with isLoaded := true }.detectLoaded serviceResponses

def markAsDuplicate (ecu : EcuManager Response) : EcuManager Response :=
  ecu.clearVariantAndUnload .duplicate none

def markAsNoVariantDetected (ecu : EcuManager Response) : EcuManager Response :=
  ecu.clearVariantAndUnload .notDetected none

end EcuManager

inductive GroupDetectionResult where
  | exactMatch (ecuName : String)
  | allFallbacks
  | noOnlineEcu
  | noDetection
  deriving DecidableEq, Repr

abbrev Ecus (Response : Type) := String → Option (EcuManager Response)

namespace Ecus

def modify (ecuName : String) (change : EcuManager Response → EcuManager Response)
    (ecus : Ecus Response) : Ecus Response :=
  Function.update ecus ecuName ((ecus ecuName).map change)

/-- The loop of `evaluate_duplicate_group` with its two variables. -/
def evaluateMembers (serviceResponses : List (String × Response)) :
    Option String → Bool → List String → Ecus Response → GroupDetectionResult × Ecus Response
  | firstFallback, anyOnline, [], ecus =>
    (match firstFallback, anyOnline with
      | some _, true => .allFallbacks
      | none, true => .noDetection
      | _, false => .noOnlineEcu, ecus)
  | firstFallback, anyOnline, ecuName :: rest, ecus =>
    match ecus ecuName with
    | none => evaluateMembers serviceResponses firstFallback anyOnline rest ecus
    | some ecu =>
      let (result, ecu) := ecu.detectVariant serviceResponses
      let ecus := Function.update ecus ecuName (some ecu)
      let anyOnline := anyOnline || ecu.status.connectivity == .online
      match result with
      | .error _ => evaluateMembers serviceResponses firstFallback anyOnline rest ecus
      | .ok () =>
        if !ecu.status.isOnlineAndDetected then
          evaluateMembers serviceResponses firstFallback anyOnline rest ecus
        else if ecu.status.isFallback then
          evaluateMembers serviceResponses (firstFallback.or (some ecuName)) anyOnline rest ecus
        else
          (.exactMatch ecuName, ecus)

def evaluateDuplicateGroup (duplicatedEcus : List String)
    (serviceResponses : List (String × Response)) (ecus : Ecus Response) :
    GroupDetectionResult × Ecus Response :=
  ecus.evaluateMembers serviceResponses none false duplicatedEcus

def applyGroupResult (detectionResult : GroupDetectionResult) (duplicatedEcus : List String)
    (ecus : Ecus Response) : Ecus Response :=
  match detectionResult with
  | .exactMatch theChosenOne =>
    duplicatedEcus.foldl (fun ecus ecuName =>
      if ecuName = theChosenOne then ecus else ecus.modify ecuName .markAsDuplicate) ecus
  | .allFallbacks =>
    duplicatedEcus.foldl (fun ecus ecuName =>
      ecus.modify ecuName .markAsNoVariantDetected) ecus
  | .noOnlineEcu => ecus
  | .noDetection => ecus

/-- Both, for a set that yields its members in the given order. -/
def groupVerdict (duplicatedEcus : List String) (serviceResponses : List (String × Response))
    (ecus : Ecus Response) : Ecus Response :=
  let (detectionResult, ecus) := ecus.evaluateDuplicateGroup duplicatedEcus serviceResponses
  ecus.applyGroupResult detectionResult duplicatedEcus

end Ecus

end DiagnosticAdapter.Detection
