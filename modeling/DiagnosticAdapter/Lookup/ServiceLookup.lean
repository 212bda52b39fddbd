import DiagnosticAdapter.Effects.Run
import DiagnosticAdapter.Kernel.Text

/-!
# Service lookup

`lookup_diag_service` in the ECU's variant, with the cache of service locations, while
lookups interleave with each other, with changes of the variant and with `EcuConnected`.
-/

namespace DiagnosticAdapter.Lookup

open Codec (DiagServiceError)
open Kernel (Text)

structure DiagService where
  shortName : Option Text
  requestId : Option UInt8
  requestSubFunctionId : Option UInt32
  table : Nat
  deriving DecidableEq, Repr

structure DiagLayer where
  shortName : Option Text
  diagServices : Option (List DiagService)

inductive ParentRef where
  /-- A functional group, a protocol or a variant. -/
  | nested (notInherited : List Text) (diagLayer : Option DiagLayer)
      (parentRefs : List ParentRef)
  | ecuSharedData (notInherited : List Text) (diagLayer : Option DiagLayer)
  | unsupported

structure Variant where
  isBaseVariant : Bool
  diagLayer : Option DiagLayer
  parentRefs : Option (List ParentRef)

abbrev EcuData := List Variant

namespace ParentRef

/-- The layer's services, without those the reference keeps from being inherited. -/
def inherited (notInherited : List Text) (diagLayer : Option DiagLayer) : List DiagService :=
  match diagLayer.bind (·.diagServices) with
  | some services =>
    services.filter fun service =>
      service.shortName.all fun name => !notInherited.contains name
  | none => []

mutual

def services : ParentRef → List DiagService
  | .nested notInherited diagLayer parentRefs =>
    inherited notInherited diagLayer ++ servicesOfStack parentRefs
  | .ecuSharedData notInherited diagLayer => inherited notInherited diagLayer
  | .unsupported => []

/-- The stack is taken from its end, and a reference's own references are on top of it
before the next one is. -/
def servicesOfStack : List ParentRef → List DiagService
  | [] => []
  | parentRef :: rest => servicesOfStack rest ++ services parentRef

end

end ParentRef

def getParentRefServicesRecursive (parentRefs : List ParentRef) : Option (List DiagService) :=
  match ParentRef.servicesOfStack parentRefs with
  | [] => none
  | services => some services

/-- What `variant()` depends on besides the database itself. -/
structure CurrentVariant where
  index : Option Nat
  /-- `clear_variant_and_unload` leaves the database unloaded. -/
  loaded : Bool
  deriving DecidableEq, Repr

/-- `variant()`, or the base variant before one has been found.  The index is that of a
variant of this database. -/
def EcuData.variantOrBase (data : EcuData) (current : CurrentVariant) : Option Variant :=
  if current.loaded then
    (current.index.bind fun index => data[index]?).or (data.find? (·.isBaseVariant))
  else
    none

def EcuData.diagServices (data : EcuData) (current : CurrentVariant) : Option (List DiagService) :=
  (data.variantOrBase current).bind fun variant => variant.diagLayer.bind (·.diagServices)

def EcuData.getVariantParentRefServices (data : EcuData) (current : CurrentVariant) :
    Option (List DiagService) :=
  (data.variantOrBase current).bind fun variant =>
    variant.parentRefs.bind getParentRefServicesRecursive

/-- The position `set_variant` finds for a name. -/
def EcuData.position (data : EcuData) (name : Text) : Option Nat :=
  data.findIdx? fun variant => (variant.diagLayer.bind (·.shortName)) == some name

inductive DiagCommType where
  | configurations
  | data
  | faults
  | modes
  | operations
  deriving DecidableEq, Repr

def DiagCommType.servicePrefixes : DiagCommType → List UInt8
  | .configurations => [0x2E]
  | .data => [0x21, 0x22]
  | .faults => [0x14, 0x19]
  | .modes => [0x10, 0x11, 0x27, 0x28, 0x29, 0x85]
  | .operations => [0x2F, 0x31, 0x34, 0x36, 0x37]

inductive DiagCommAction where
  | read
  | write
  | start
  | requestResults
  | stop
  deriving DecidableEq, Repr

def DiagCommType.action : DiagCommType → DiagCommAction
  | .configurations => .write
  | .data => .read
  | .faults | .modes | .operations => .start

structure DiagComm where
  name : Text
  type : DiagCommType
  lookupName : Option Text
  subfunctionId : Option UInt8

inductive AffixPosition where
  | atStart
  | atEnd
  deriving DecidableEq, Repr

structure ActionAffixes where
  read : Text
  write : Text
  start : Text
  requestResults : Text
  stop : Text
  position : AffixPosition

def ActionAffixes.apply (affixes : ActionAffixes) (name : Text) (action : DiagCommAction) :
    Text :=
  let affix := match action with
    | .read => affixes.read
    | .write => affixes.write
    | .start => affixes.start
    | .requestResults => affixes.requestResults
    | .stop => affixes.stop
  match affixes.position with
  | .atStart => affix ++ name
  | .atEnd => name ++ affix

/-- What an ECU manager looks services up with; `to_lowercase` maps by Unicode. -/
structure LookupContext where
  ecuData : EcuData
  actionAffixes : ActionAffixes
  toLowercase : Text → Text

/-- A prefix of equal bytes up to ASCII case ends between two characters. -/
def startsWithIgnoreAsciiCase (text start : Text) : Bool :=
  (start.map Char.toLower).isPrefixOf (text.map Char.toLower)

/-- What `lookup_diag_service` has in its predicate. -/
structure LookupQuery where
  /-- The base name or the lookup name, in lower case. -/
  name : Text
  servicePrefixes : List UInt8
  /-- The subfunction and the effective mask. -/
  subfunction : Option (UInt8 × UInt8)
  deriving DecidableEq, Repr

def defaultSubfunctionMask : UInt8 := 0x7F

def LookupContext.query (context : LookupContext) (diagComm : DiagComm)
    (subfunctionMask : Option UInt8) : LookupQuery :=
  match diagComm.subfunctionId with
  | some id =>
    ⟨context.toLowercase diagComm.name, diagComm.type.servicePrefixes,
      some (id, subfunctionMask.getD defaultSubfunctionMask)⟩
  | none =>
    let lookupName := diagComm.lookupName.getD
      (context.actionAffixes.apply diagComm.name diagComm.type.action)
    ⟨context.toLowercase lookupName, diagComm.type.servicePrefixes, none⟩

/-- Two hexadecimal digits in upper case. -/
def hexByte (byte : UInt8) : Text :=
  [Nat.digitChar (byte.toNat / 16), Nat.digitChar (byte.toNat % 16)].map Char.toUpper

namespace LookupQuery

def isMatch (query : LookupQuery) (service : DiagService) : Bool :=
  (service.shortName.any fun name => startsWithIgnoreAsciiCase name query.name) &&
    (service.requestId.any fun sid => query.servicePrefixes.contains sid) &&
    match query.subfunction with
    | some (id, mask) =>
      service.requestSubFunctionId.any fun subfunction =>
        subfunction &&& mask.toUInt32 == id.toUInt32 &&& mask.toUInt32
    | none => true

/-- The service prefixes are not part of the key. -/
def cacheKey (query : LookupQuery) : Text :=
  match query.subfunction with
  | some (id, mask) =>
    query.name ++ [':', 's', 'f'] ++ Nat.toDigits 10 id.toNat ++ [':', 'm'] ++ hexByte mask
  | none => query.name

def text (query : LookupQuery) : String :=
  match query.subfunction with
  | some (id, _) => s!"'{String.ofList query.name}' with subfunction 0x{String.ofList (hexByte id)}"
  | none => s!"'{String.ofList query.name}'"

def notAtStoredLocation (query : LookupQuery) : DiagServiceError :=
  .notFound s!"Cached diagnostic service {query.text} not found at stored location"

def notFoundAnywhere (query : LookupQuery) : DiagServiceError :=
  match query.subfunction with
  | some _ => .notFound s!"Diagnostic service {query.text} not found in variant or parent refs"
  | none =>
    .notFound
      s!"Diagnostic service {query.text} not found in variant, base variant, or ECU shared data"

end LookupQuery

inductive CacheLocation where
  | variant (index : Nat)
  | parentRef (index : Nat)
  deriving DecidableEq, Repr

def LookupQuery.find (query : LookupQuery) (services : List DiagService) :
    Option (DiagService × Nat) :=
  services.zipIdx.find? fun entry => query.isMatch entry.1

def EcuData.searchInVariant (data : EcuData) (query : LookupQuery) (current : CurrentVariant) :
    Option (DiagService × CacheLocation) :=
  ((data.diagServices current).bind query.find).map fun found => (found.1, .variant found.2)

def EcuData.searchInParentRefs (data : EcuData) (query : LookupQuery)
    (current : CurrentVariant) : Option (DiagService × CacheLocation) :=
  ((data.getVariantParentRefServices current).bind query.find).map fun found =>
    (found.1, .parentRef found.2)

def EcuData.searchWithLocation (data : EcuData) (query : LookupQuery)
    (current : CurrentVariant) : Option (DiagService × CacheLocation) :=
  (data.searchInVariant query current).or (data.searchInParentRefs query current)

/-- The result is `none` where `get` panics: past the end of the variant's own services. -/
def EcuData.getServiceByLocation (data : EcuData) (current : CurrentVariant) :
    CacheLocation → Option (Option DiagService)
  | .variant index =>
    match data.diagServices current with
    | some services => services[index]?.map some
    | none => some none
  | .parentRef index =>
    some ((data.getVariantParentRefServices current).bind fun services => services[index]?)

structure CachedService where
  variantIndex : Option Nat
  location : Option CacheLocation
  /-- What the lookup that stored the entry asked for. -/
  query : LookupQuery

inductive LookupPhase where
  | started
  /-- `current_variant_index` has been read for the cache. -/
  | indexed (variantIndex : Option Nat)
  | hit (variantIndex : Option Nat) (location : CacheLocation)
  | missed (variantIndex : Option Nat)
  /-- The variant itself has no match, the parent references are not searched yet. -/
  | searchingParents (variantIndex : Option Nat)
  /-- With the variant index at the search. -/
  | found (service : DiagService) (location : CacheLocation) (searched : Option Nat)
  /-- `current_variant_index` has been read for the new entry. -/
  | labelled (service : DiagService) (location : CacheLocation) (label : Option Nat)
  | notFound (variantIndex : Option Nat)
  | returned (result : Except DiagServiceError DiagService)
  | panicked

structure LookupCall where
  query : LookupQuery
  phase : LookupPhase
  /-- The variants current at some moment during the call. -/
  seen : List CurrentVariant

def LookupCall.isPending (call : LookupCall) : Bool :=
  match call.phase with
  | .returned _ | .panicked => false
  | _ => true

def LookupCall.see (current : CurrentVariant) (call : LookupCall) : LookupCall :=
  if call.isPending then { call with seen := current :: call.seen } else call

inductive LookupEvent where
  | lookup (diagComm : DiagComm) (subfunctionMask : Option UInt8)
  | advance (call : Nat)
  /-- `set_variant` up to the reset of the cache. -/
  | setVariant (name : Text)
  | writeVariant
  /-- `EcuConnected` for an offline ECU. -/
  | ecuConnected
  | clearVariantAndUnload
  | load

structure LookupState where
  current : CurrentVariant
  /-- The variant of a `set_variant` that has not written it yet. -/
  setting : Option Text
  dbCache : Text → Option CachedService
  issued : Nat
  calls : Nat → Option LookupCall

namespace LookupState

def initial : LookupState where
  current := ⟨none, true⟩
  setting := none
  dbCache := fun _ => none
  issued := 0
  calls := fun _ => none

def lookup (query : LookupQuery) (state : LookupState) : LookupState :=
  { state with
    issued := state.issued + 1
    calls := Function.update state.calls state.issued
      (some ⟨query, .started, [state.current]⟩) }

def enter (call : Nat) (lookup : LookupCall) (phase : LookupPhase) (state : LookupState) :
    LookupState :=
  { state with
    calls := Function.update state.calls call (some { lookup with phase := phase }) }

def insert (query : LookupQuery) (variantIndex : Option Nat) (location : Option CacheLocation)
    (state : LookupState) : LookupState :=
  { state with
    dbCache := Function.update state.dbCache query.cacheKey
      (some ⟨variantIndex, location, query⟩) }

def reset (state : LookupState) : LookupState := { state with dbCache := fun _ => none }

def become (current : CurrentVariant) (state : LookupState) : LookupState :=
  { state with
    current := current
    calls := fun call => (state.calls call).map (·.see current) }

/-- The entry under the key, where it is labelled with the index and has a location. -/
def cachedEntry (query : LookupQuery) (variantIndex : Option Nat) (state : LookupState) :
    Option (CachedService × CacheLocation) :=
  match state.dbCache query.cacheKey with
  | some entry =>
    if entry.variantIndex = variantIndex then entry.location.map fun location =>
      (entry, location)
    else none
  | none => none

def advance (data : EcuData) (call : Nat) (lookup : LookupCall) (state : LookupState) :
    Option LookupState :=
  match lookup.phase with
  | .started => some (state.enter call lookup (.indexed state.current.index))
  | .indexed variantIndex =>
    match state.cachedEntry lookup.query variantIndex with
    | some (_, location) => some (state.enter call lookup (.hit variantIndex location))
    | none => some (state.enter call lookup (.missed variantIndex))
  | .hit _ location =>
    match data.getServiceByLocation state.current location with
    | some (some service) => some (state.enter call lookup (.returned (.ok service)))
    | some none =>
      some (state.enter call lookup (.returned (.error lookup.query.notAtStoredLocation)))
    | none => some (state.enter call lookup .panicked)
  | .missed variantIndex =>
    match data.searchInVariant lookup.query state.current with
    | some (service, location) =>
      some (state.enter call lookup (.found service location state.current.index))
    | none => some (state.enter call lookup (.searchingParents variantIndex))
  | .searchingParents variantIndex =>
    match data.searchInParentRefs lookup.query state.current with
    | some (service, location) =>
      some (state.enter call lookup (.found service location state.current.index))
    | none => some (state.enter call lookup (.notFound variantIndex))
  | .found service location _ =>
    some (state.enter call lookup (.labelled service location state.current.index))
  | .labelled service location label =>
    some ((state.insert lookup.query label (some location)).enter call lookup
      (.returned (.ok service)))
  | .notFound variantIndex =>
    some ((state.insert lookup.query variantIndex none).enter call lookup
      (.returned (.error lookup.query.notFoundAnywhere)))
  | .returned _ | .panicked => none

def step (context : LookupContext) (state : LookupState) : LookupEvent → Option LookupState
  | .lookup diagComm subfunctionMask =>
    some (state.lookup (context.query diagComm subfunctionMask))
  | .advance call =>
    match state.calls call with
    | some lookup => state.advance context.ecuData call lookup
    | none => none
  | .setVariant name =>
    match state.setting with
    | some _ => none
    | none =>
      let kept := if state.current.index ≠ context.ecuData.position name then state.reset
        else state
      some { kept with setting := some name }
  | .writeVariant =>
    match state.setting with
    | some name =>
      some { state.become { state.current with index := context.ecuData.position name } with
        setting := none }
    | none => none
  | .ecuConnected => some (state.become { state.current with index := none })
  | .clearVariantAndUnload => some (state.reset.become ⟨none, false⟩)
  | .load => some (state.become { state.current with loaded := true })

end LookupState

end DiagnosticAdapter.Lookup
