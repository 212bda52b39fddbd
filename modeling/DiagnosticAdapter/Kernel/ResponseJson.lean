import DiagnosticAdapter.Effects.Failures
import DiagnosticAdapter.Kernel.LinearConversion
import DiagnosticAdapter.Kernel.PayloadDecode

/-!
# The JSON of a response

`serialize_to_json` maps the containers of a response to values.  A value that cannot be
converted is noted with the path of the field, the struct or the list that is left out for it.
-/

namespace DiagnosticAdapter.Kernel

open Codec Effects

variable {conv : Conversions}

/-- `DiagDataTypeContainer` with the entries of its maps in the order of their iteration. -/
inductive IteratedContainer (conv : Conversions) where
  | raw (raw : RawContainer conv)
  | struct (members : List (Text × IteratedContainer conv))
  | repeatingStruct (items : List (List (Text × IteratedContainer conv)))
  | dtcStruct (dtc : DtcContainer)

/-- `DiagDataValue` with its nested values. -/
inductive MappedValue where
  | value (value : DiagDataValue)
  | struct (members : List (Text × MappedValue))
  | repeatingStruct (items : List (List (Text × MappedValue)))

/-- `MappedResponseData`, whose map has every field once. -/
structure IteratedResponse (conv : Conversions) where
  data : List (Text × IteratedContainer conv)
  errors : List FieldParseError
  distinct : (data.map Prod.fst).Nodup

/-- The errors that were noted survive a failure. -/
abbrev JsonMapper := EStateM DiagServiceError (List FieldParseError)

namespace JsonMapper

variable {α : Type}

/-- A `DataError` is noted with the path, and its value left out. -/
def noted (path : Text) (body : JsonMapper α) : JsonMapper (Option α) := fun errors =>
  match body errors with
  | .ok value final => .ok (some value) final
  | .error (.dataError value details) final =>
    .ok none (final ++ [⟨String.ofList path, value, details⟩])
  | .error error final => .error error final

def ofExcept (value : Except DiagServiceError α) : JsonMapper α := fun errors =>
  match value with
  | .ok value => .ok value errors
  | .error error => .error error errors

end JsonMapper

def fieldPath (path name : Text) : Text := path ++ '/' :: name

def createDtc (dtc : DtcContainer) : MappedValue :=
  .struct (("code".toList, .value (.uint32 dtc.code)) ::
    (dtc.displayCode.toList.map fun displayCode =>
      ("display_code".toList, .value (.string displayCode))) ++
    [("fault_name".toList, .value (.string dtc.faultName)),
      ("severity".toList, .value (.uint32 dtc.severity))])

mutual

def createStruct (path : Text) :
    List (Text × IteratedContainer conv) → JsonMapper (List (Text × MappedValue))
  | [] => pure []
  | (name, container) :: members => do
    let value ← createMember (fieldPath path name) container
    let innerMapped ← createStruct path members
    pure ((name, value) :: innerMapped)

def createMember (path : Text) : IteratedContainer conv → JsonMapper MappedValue
  | .raw raw => .ofExcept (.value <$> raw.serializable)
  | .struct members => do
    let nestedMapped ← (createStruct path members).noted path
    pure (.struct (nestedMapped.getD []))
  | .repeatingStruct items => do
    let nestedVec ← createItems path items
    pure (.repeatingStruct nestedVec)
  | .dtcStruct dtc => pure (createDtc dtc)

def createItems (path : Text) :
    List (List (Text × IteratedContainer conv)) → JsonMapper (List (List (Text × MappedValue)))
  | [] => pure []
  | members :: items => do
    let innerMapped ← (createStruct path members).noted path
    let nestedVec ← createItems path items
    pure (innerMapped.toList ++ nestedVec)

end

structure RawLeaf (conv : Conversions) where
  path : Text
  raw : RawContainer conv

def RawLeaf.Fails (leaf : RawLeaf conv) : Prop := ∃ error, leaf.raw.serializable = .error error

mutual

def memberLeaves (path : Text) : List (Text × IteratedContainer conv) → List (RawLeaf conv)
  | [] => []
  | (name, container) :: members =>
    leaves (fieldPath path name) container ++ memberLeaves path members

def leaves (path : Text) : IteratedContainer conv → List (RawLeaf conv)
  | .raw raw => [⟨path, raw⟩]
  | .struct members => memberLeaves path members
  | .repeatingStruct items => itemLeaves path items
  | .dtcStruct _ => []

def itemLeaves (path : Text) : List (List (Text × IteratedContainer conv)) → List (RawLeaf conv)
  | [] => []
  | members :: items => memberLeaves path members ++ itemLeaves path items

end

mutual

/-- The value of a struct where all of its leaves can be converted. -/
def convertedMembers? : List (Text × IteratedContainer conv) → Option (List (Text × MappedValue))
  | [] => some []
  | (name, container) :: members => do
    let value ← converted? container
    let rest ← convertedMembers? members
    some ((name, value) :: rest)

def converted? : IteratedContainer conv → Option MappedValue
  | .raw raw => raw.serializable.toOption.map .value
  | .struct members => (convertedMembers? members).map .struct
  | .repeatingStruct items => (convertedItems? items).map .repeatingStruct
  | .dtcStruct dtc => some (createDtc dtc)

def convertedItems? :
    List (List (Text × IteratedContainer conv)) → Option (List (List (Text × MappedValue)))
  | [] => some []
  | members :: items => do
    let value ← convertedMembers? members
    let rest ← convertedItems? items
    some (value :: rest)

end

mutual

theorem createStruct_of_converted? (path : Text) :
    ∀ (members : List (Text × IteratedContainer conv)) {value : List (Text × MappedValue)},
      convertedMembers? members = some value → ∀ errors,
        createStruct path members errors = .ok value errors
  | [], value, converted, errors => by
    cases converted
    rw [createStruct]
    rfl
  | (name, container) :: members, value, converted, errors => by
    obtain ⟨first, isFirst, converted⟩ := Option.bind_eq_some_iff.1 converted
    obtain ⟨rest, isRest, converted⟩ := Option.bind_eq_some_iff.1 converted
    cases converted
    rw [createStruct, bind_of_ok (createMember_of_converted? _ container isFirst errors),
      bind_of_ok (createStruct_of_converted? path members isRest errors)]
    rfl

theorem createMember_of_converted? (path : Text) :
    ∀ (container : IteratedContainer conv) {value : MappedValue},
      converted? container = some value → ∀ errors,
        createMember path container errors = .ok value errors
  | .raw raw, value, isConverted, errors => by
    rw [converted?, Option.map_eq_some_iff] at isConverted
    obtain ⟨leaf, isLeaf, rfl⟩ := isConverted
    rw [createMember]
    cases serialized : raw.serializable with
    | ok number =>
      rw [serialized] at isLeaf
      cases isLeaf
      rfl
    | error error =>
      rw [serialized] at isLeaf
      cases isLeaf
  | .struct members, value, isConverted, errors => by
    rw [converted?, Option.map_eq_some_iff] at isConverted
    obtain ⟨inner, isInner, rfl⟩ := isConverted
    have noted : (createStruct path members).noted path errors = .ok (some inner) errors := by
      rw [JsonMapper.noted, createStruct_of_converted? path members isInner errors]
    rw [createMember, bind_of_ok noted]
    rfl
  | .repeatingStruct items, value, isConverted, errors => by
    rw [converted?, Option.map_eq_some_iff] at isConverted
    obtain ⟨inner, isInner, rfl⟩ := isConverted
    rw [createMember, bind_of_ok (createItems_of_converted? path items isInner errors)]
    rfl
  | .dtcStruct dtc, value, isConverted, errors => by
    cases isConverted
    rw [createMember]
    rfl

theorem createItems_of_converted? (path : Text) :
    ∀ (items : List (List (Text × IteratedContainer conv)))
      {value : List (List (Text × MappedValue))}, convertedItems? items = some value → ∀ errors,
        createItems path items errors = .ok value errors
  | [], value, converted, errors => by
    cases converted
    rw [createItems]
    rfl
  | members :: items, value, converted, errors => by
    obtain ⟨first, isFirst, converted⟩ := Option.bind_eq_some_iff.1 converted
    obtain ⟨rest, isRest, converted⟩ := Option.bind_eq_some_iff.1 converted
    cases converted
    have noted : (createStruct path members).noted path errors = .ok (some first) errors := by
      rw [JsonMapper.noted, createStruct_of_converted? path members isFirst errors]
    rw [createItems, bind_of_ok noted,
      bind_of_ok (createItems_of_converted? path items isRest errors)]
    rfl

end

mutual

theorem isSome_convertedMembers?_iff (path : Text) :
    ∀ members : List (Text × IteratedContainer conv), (convertedMembers? members).isSome = true ↔
        ∀ leaf ∈ memberLeaves path members, ¬leaf.Fails
  | [] => by simp [convertedMembers?, memberLeaves]
  | (name, container) :: members => by
    have first := isSome_converted?_iff (fieldPath path name) container
    have rest := isSome_convertedMembers?_iff path members
    simp only [memberLeaves, List.forall_mem_append, ← first, ← rest, convertedMembers?]
    cases converted? container <;> cases convertedMembers? members <;> simp

theorem isSome_converted?_iff (path : Text) : ∀ container : IteratedContainer conv,
      (converted? container).isSome = true ↔ ∀ leaf ∈ leaves path container, ¬leaf.Fails
  | .raw raw => by
    rw [converted?, leaves, List.forall_mem_singleton, RawLeaf.Fails]
    cases raw.serializable <;> simp [Except.toOption]
  | .struct members => by
    rw [converted?, leaves, Option.isSome_map]
    exact isSome_convertedMembers?_iff path members
  | .repeatingStruct items => by
    rw [converted?, leaves, Option.isSome_map]
    exact isSome_convertedItems?_iff path items
  | .dtcStruct dtc => by simp [converted?, leaves]

theorem isSome_convertedItems?_iff (path : Text) :
    ∀ items : List (List (Text × IteratedContainer conv)),
      (convertedItems? items).isSome = true ↔ ∀ leaf ∈ itemLeaves path items, ¬leaf.Fails
  | [] => by simp [convertedItems?, itemLeaves]
  | members :: items => by
    have first := isSome_convertedMembers?_iff path members
    have rest := isSome_convertedItems?_iff path items
    simp only [itemLeaves, List.forall_mem_append, ← first, ← rest, convertedItems?]
    cases convertedMembers? members <;> cases convertedItems? items <;> simp

end

section Conversions

variable (convert : DiagCodedType → CompuMethod → Option PhysicalType → JsonValue →
  Except DiagServiceError (List UInt8)) (doubles : Doubles)

/-- The conversions of the adapter, in whatever arithmetic. -/
abbrev adapterConversions (conv : Conversions) : Conversions :=
  compuConversions conv ⟨convert, doubles.linearLookup⟩

variable {convert doubles}

end Conversions

namespace IteratedResponse

def leaves (response : IteratedResponse conv) : List (RawLeaf conv) :=
  memberLeaves [] response.data

end IteratedResponse

namespace ExactDatabase

def conversions : Conversions :=
  adapterConversions (fun _ _ _ _ => .ok []) (exactDoubles fun _ => "") integerConversions

def doubled : IteratedContainer conversions :=
  .raw ⟨[3], 8, .uint32, some ⟨.linear,
    some ⟨some [⟨none, none, none, some ⟨some [0, 2], none⟩, none, none⟩]⟩⟩⟩

def named : IteratedContainer conversions :=
  .raw ⟨[7], 8, .uint32, some ⟨.textTable,
    some ⟨some [⟨none, none, none, none, some ⟨none, some "on".toList, none⟩, none⟩]⟩⟩⟩

end ExactDatabase

end DiagnosticAdapter.Kernel
