import DiagnosticAdapter.Bits.FloatFormat
import DiagnosticAdapter.Codec.BitAccess
import DiagnosticAdapter.Effects.Stateful

/-!
# Communication parameters

`resolve_comparam`: the definition of a complex parameter is walked beside the entries of
its value. A nested definition is walked with the entries of the root again, so a nested
leaf takes the root's entry under its last index.
-/

namespace DiagnosticAdapter.Mdd

open Bits Codec Effects

structure UnitRef where
  factorsitounit : Option FloatValue
  offsetitounit : Option FloatValue
  deriving DecidableEq, Repr

structure NormalDop where
  unitRef : Option UnitRef
  deriving DecidableEq, Repr

structure Dop where
  specificDataAsNormalDop : Option NormalDop
  deriving DecidableEq, Repr

structure RegularComParam where
  dop : Option Dop
  deriving DecidableEq, Repr

inductive ComParamType where
  | regular
  | complex
  | unknown (code : Int)
  deriving DecidableEq, Repr

/-- A definition, by its specific data: none, a regular or a complex one. -/
inductive ComParam where
  | bare (shortName : Option String) (comParamType : ComParamType)
  | regular (shortName : Option String) (comParamType : ComParamType) (data : RegularComParam)
  | complex (shortName : Option String) (comParamType : ComParamType)
      (comParams : Option (List ComParam))

namespace ComParam

def shortName : ComParam → Option String
  | .bare name _ | .regular name _ _ | .complex name _ _ => name

def comParamType : ComParam → ComParamType
  | .bare _ kind | .regular _ kind _ | .complex _ kind _ => kind

def specificDataAsRegularComParam : ComParam → Option RegularComParam
  | .regular _ _ data => some data
  | _ => none

/-- The children of a complex definition, if it has any. -/
def specificDataAsComplexComParam : ComParam → Option (Option (List ComParam))
  | .complex _ _ comParams => some comParams
  | _ => none

end ComParam

structure SimpleValue where
  value : Option String
  deriving DecidableEq, Repr

/-- An entry of a complex value; the tag of an entry may be unknown. -/
inductive SimpleOrComplexValueEntry where
  | none
  | simpleValue (value : SimpleValue)
  | complexValue (entries : List SimpleOrComplexValueEntry)

abbrev ComplexValue := List SimpleOrComplexValueEntry

def entriesItemAsSimpleValue (complexValue : ComplexValue) (idx : Nat) : Option SimpleValue :=
  match complexValue[idx]? with
  | some (.simpleValue value) => some value
  | _ => none

def entriesItemAsComplexValue (complexValue : ComplexValue) (idx : Nat) : Option ComplexValue :=
  match complexValue[idx]? with
  | some (.complexValue entries) => some entries
  | _ => none

structure ComParamRef where
  simpleValue : Option SimpleValue
  complexValue : Option ComplexValue
  comParam : Option ComParam

structure ComParamUnit where
  factorToSiUnit : Option FloatValue
  offsetToSiUnit : Option FloatValue
  deriving DecidableEq, Repr

structure ComParamSimpleValue where
  value : String
  unit : Option ComParamUnit
  deriving DecidableEq, Repr

/-- The entries of a complex value are a hash map. -/
inductive ComParamValue where
  | simple (value : ComParamSimpleValue)
  | complex (entries : List (String × ComParamValue))

def insertEntry (entries : List (String × ComParamValue)) (entry : String × ComParamValue) :
    List (String × ComParamValue) :=
  entry :: entries.filter (·.1 ≠ entry.1)

/-- `collect` into a hash map: a repeated name keeps its last value. -/
def collectEntries (entries : List (String × ComParamValue)) : List (String × ComParamValue) :=
  entries.foldl insertEntry []

def extractDopUnit (dop : Dop) : Option ComParamUnit :=
  dop.specificDataAsNormalDop.map fun normalDop =>
    ⟨normalDop.unitRef.bind (·.factorsitounit), normalDop.unitRef.bind (·.offsetitounit)⟩

/-- `ok_or_else` with an error of the database. -/
def orInvalidDatabase {α : Type} (message : String) : Option α → Except DiagServiceError α
  | some value => .ok value
  | none => .error (.invalidDatabase message)

/-- One entry of a complex parameter; `nested` is what its own definition resolves to. -/
def resolveEntry (complexValue : ComplexValue)
    (nested : Except DiagServiceError (String × ComParamValue)) (i : Nat) (cp : ComParam) :
    Except DiagServiceError (String × ComParamValue) := do
  let shortName ← orInvalidDatabase "ComParam has no short name" cp.shortName
  match cp.comParamType with
  | .regular =>
    let regular ← orInvalidDatabase
      s!"ComParam {shortName} is not regular, but has regular type"
      cp.specificDataAsRegularComParam
    match entriesItemAsSimpleValue complexValue i with
    | some simple =>
      let value ← orInvalidDatabase s!"ComParam {shortName} has no simple value" simple.value
      return (shortName, .simple ⟨value, regular.dop.bind extractDopUnit⟩)
    | none =>
      match entriesItemAsComplexValue complexValue i with
      | some _ =>
        throw (.invalidDatabase s!"ComParam {shortName} is not a complex ComParam")
      | none =>
        throw (.invalidDatabase
          s!"ComplexValue entry for ComParam {shortName} at index {i} has no value")
  | .complex =>
    match entriesItemAsSimpleValue complexValue i with
    | some _ => throw (.invalidDatabase s!"ComParam {shortName} is not a simple ComParam")
    | none =>
      match entriesItemAsComplexValue complexValue i with
      -- The nested value found here is not what the nested definition is resolved with.
      | some _ => nested
      | none =>
        throw (.invalidDatabase
          s!"ComplexValue entry for ComParam {shortName} at index {i} has no value")
  | .unknown _ => throw (.invalidDatabase s!"ComParam {shortName} has unknown type")

def unreachable {α : Type} (message : String) : Except DiagServiceError α :=
  .error (.panicked s!"internal error: entered unreachable code: {message}")

/-- `resolve_complex_value`, with what the entries of the children resolve to. -/
def resolveChildren (entries : Except DiagServiceError (List (String × ComParamValue)))
    (comParam : ComParam) : Except DiagServiceError (String × ComParamValue) := do
  let comParamShortname ← orInvalidDatabase "ComParamRef has no short name" comParam.shortName
  match comParam.comParamType with
  | .complex =>
    let variant ← orInvalidDatabase
      s!"ComParam {comParamShortname} is not complex, but has complex type"
      comParam.specificDataAsComplexComParam
    let _comParams ← orInvalidDatabase
      s!"Complex ComParam {comParamShortname} has no comParams" variant
    let entries ← entries
    return (comParamShortname, .complex (collectEntries entries))
  | _ => unreachable "Will only be called if comparam is complex"

mutual

def childEntries (complexValue : ComplexValue) :
    ComParam → Except DiagServiceError (List (String × ComParamValue))
  | .complex _ _ (some comParams) => resolveEntries complexValue 0 comParams
  | _ => return []

def resolveEntries (complexValue : ComplexValue) :
    Nat → List ComParam → Except DiagServiceError (List (String × ComParamValue))
  | _, [] => return []
  | i, cp :: rest => do
    let entry ← resolveEntry complexValue
      (resolveChildren (childEntries complexValue cp) cp) i cp
    let entries ← resolveEntries complexValue (i + 1) rest
    return entry :: entries

end

def resolveComplexValue (comParam : ComParam) (complexValue : ComplexValue) :
    Except DiagServiceError (String × ComParamValue) :=
  resolveChildren (childEntries complexValue comParam) comParam

section Resolve

-- The `Debug` text of an optional name.
variable (nameDebug : Option String → String)

def resolveWithValue (cpref : ComParamRef) (comParam : ComParam) :
    Except DiagServiceError (String × ComParamValue) := do
  if cpref.simpleValue.isSome ∧ cpref.complexValue.isSome then
    throw (.invalidDatabase
      s!"ComParamRef for {nameDebug comParam.shortName} has both simple and complex value")
  let shortName ← orInvalidDatabase "ComParamRef has no short name" comParam.shortName
  match cpref.simpleValue, cpref.complexValue with
  | some value, _ =>
    let value ← orInvalidDatabase s!"ComParamRef for {shortName} has no simple value" value.value
    match comParam.comParamType with
    | .regular =>
      let regular ← orInvalidDatabase
        s!"ComParam {shortName} is not regular, but has regular type"
        comParam.specificDataAsRegularComParam
      let dop ← orInvalidDatabase
        s!"ComParamRef for {shortName} has no data operation" regular.dop
      return (shortName, .simple ⟨value, extractDopUnit dop⟩)
    | _ => unreachable "Will only be called if comparam is simple"
  | none, some complexValue => resolveComplexValue comParam complexValue
  | none, none => throw (.invalidDatabase s!"ComParamRef for {shortName} has no value")

def resolveComparam (cpref : ComParamRef) : Except DiagServiceError (String × ComParamValue) := do
  let comParam ← orInvalidDatabase "ComParamRef has no ComParam" cpref.comParam
  resolveWithValue nameDebug cpref comParam

end Resolve

inductive EntryLabel where
  | none
  | simple (value : Option String)
  | complex
  deriving DecidableEq, Repr

namespace SimpleOrComplexValueEntry

def label : SimpleOrComplexValueEntry → EntryLabel
  | .none => .none
  | .simpleValue value => .simple value.value
  | .complexValue _ => .complex

def nodeAt : SimpleOrComplexValueEntry → List Nat → Option SimpleOrComplexValueEntry
  | entry, [] => some entry
  | .complexValue entries, index :: path => entries[index]?.bind (nodeAt · path)
  | _, _ :: _ => Option.none

def labelAt (entry : SimpleOrComplexValueEntry) (path : List Nat) : Option EntryLabel :=
  (entry.nodeAt path).map label

def leafAt (entry : SimpleOrComplexValueEntry) (path : List Nat) : Option String :=
  match entry.nodeAt path with
  | some (.simpleValue value) => value.value
  | _ => Option.none

end SimpleOrComplexValueEntry

/-- The names along an index path below a definition. -/
def ComParam.namesAt : ComParam → List Nat → Option (List String)
  | _, [] => some []
  | .complex _ _ (some comParams), index :: path => do
    let child ← comParams[index]?
    let name ← child.shortName
    let names ← child.namesAt path
    return name :: names
  | _, _ :: _ => none

def ComParamValue.leafAt : ComParamValue → List String → Option String
  | .simple value, [] => some value.value
  | .complex entries, name :: names => (entries.lookup name).bind (leafAt · names)
  | _, _ => none

/-- Definition and value have the same shape, and siblings have distinct names. -/
inductive SameShape : ComParam → SimpleOrComplexValueEntry → Prop
  | simple {name value : String} {data : RegularComParam} :
      SameShape (.regular (some name) .regular data) (.simpleValue ⟨some value⟩)
  | complex {name : String} {comParams : List ComParam} {entries : ComplexValue} :
      comParams.length = entries.length →
      (comParams.map ComParam.shortName).Nodup →
      (∀ (index : Nat) child entry, comParams[index]? = some child →
        entries[index]? = some entry → SameShape child entry) →
      SameShape (.complex (some name) .complex (some comParams)) (.complexValue entries)

def ComParamRef.Gives (cpref : ComParamRef) (definition : ComParam)
    (value : SimpleOrComplexValueEntry) : Prop :=
  cpref.comParam = some definition ∧
    match value with
    | .none => False
    | .simpleValue simple => cpref.simpleValue = some simple ∧ cpref.complexValue = none
    | .complexValue entries => cpref.simpleValue = none ∧ cpref.complexValue = some entries

/-- The leaves of the tree are those of the definition, each with the value at its own path. -/
def HoldsAtPaths (definition : ComParam) (value : SimpleOrComplexValueEntry)
    (tree : ComParamValue) : Prop :=
  (∀ path names, definition.namesAt path = some names → tree.leafAt names = value.leafAt path) ∧
    ∀ names, (tree.leafAt names).isSome → ∃ path, definition.namesAt path = some names

/-- No branch taken for impossible is reached, and a value in the shape of its definition
is resolved leaf by leaf. -/
def ResolvesByPath (nameDebug : Option String → String) (cpref : ComParamRef) : Prop :=
  (∀ message, resolveComparam nameDebug cpref ≠ .error (.panicked message)) ∧
    ∀ definition value, cpref.Gives definition value → SameShape definition value →
      ∃ name tree, definition.shortName = some name ∧
        resolveComparam nameDebug cpref = .ok (name, tree) ∧ HoldsAtPaths definition value tree

/-- The type of the definition is not that of its value. -/
def ComParamRef.KindClash (cpref : ComParamRef) : Prop :=
  ∃ comParam name, cpref.comParam = some comParam ∧ comParam.shortName = some name ∧
    ((∃ text, cpref.simpleValue = some ⟨some text⟩ ∧ cpref.complexValue = none ∧
        comParam.comParamType ≠ .regular) ∨
      (cpref.simpleValue = none ∧ cpref.complexValue.isSome ∧ comParam.comParamType ≠ .complex))

/-- Each value below the root looks like the root's own entry under the same last index; a
regular definition has a data operation. -/
def ServedByRoot (definition : ComParam) (value : SimpleOrComplexValueEntry) : Prop :=
  (∀ data, definition.specificDataAsRegularComParam = some data → data.dop.isSome) ∧
    ∀ path index label, value.labelAt (path ++ [index]) = some label →
      value.labelAt [index] = some label

def NoPanic {α : Type} (outcome : Except DiagServiceError α) : Prop :=
  ∀ message, outcome ≠ .error (.panicked message)

namespace NoPanic

variable {α β : Type} {outcome : Except DiagServiceError α}

theorem ok (value : α) : NoPanic (.ok value : Except DiagServiceError α) := by
  intro message
  simp

theorem invalidDatabase (text : String) :
    NoPanic (.error (.invalidDatabase text) : Except DiagServiceError α) := by
  intro message
  simp

theorem orInvalidDatabase (text : String) (value : Option α) :
    NoPanic (orInvalidDatabase text value) := by
  cases value with
  | none => exact invalidDatabase text
  | some value => exact ok value

theorem bind {next : α → Except DiagServiceError β} (first : NoPanic outcome)
    (following : ∀ value, outcome = .ok value → NoPanic (next value)) : NoPanic (outcome >>= next) := by
  cases outcome with
  | error error =>
    intro message equal
    exact first message (by simpa [Bind.bind, Except.bind] using equal)
  | ok value => exact following value rfl

end NoPanic

section Panics

variable {complexValue : ComplexValue} {cp : ComParam} {i : Nat}

theorem noPanic_resolveEntry {nested : Except DiagServiceError (String × ComParamValue)}
    (below : cp.comParamType = .complex → NoPanic nested) :
    NoPanic (resolveEntry complexValue nested i cp) := by
  apply NoPanic.bind (NoPanic.orInvalidDatabase _ _)
  intro shortName named
  cases kind : cp.comParamType with
  | regular =>
    apply NoPanic.bind (NoPanic.orInvalidDatabase _ _)
    intro regular found
    cases entriesItemAsSimpleValue complexValue i with
    | some simple => exact NoPanic.bind (NoPanic.orInvalidDatabase _ _) fun _ _ => NoPanic.ok _
    | none => cases entriesItemAsComplexValue complexValue i <;> exact NoPanic.invalidDatabase _
  | complex =>
    cases entriesItemAsSimpleValue complexValue i with
    | some simple => exact NoPanic.invalidDatabase _
    | none =>
      cases entriesItemAsComplexValue complexValue i with
      | some entries => exact below kind
      | none => exact NoPanic.invalidDatabase _
  | unknown code => exact NoPanic.invalidDatabase _

theorem noPanic_resolveChildren {entries : Except DiagServiceError (List (String × ComParamValue))}
    (kind : cp.comParamType = .complex) (below : NoPanic entries) :
    NoPanic (resolveChildren entries cp) := by
  rw [resolveChildren, kind]
  apply NoPanic.bind (NoPanic.orInvalidDatabase _ _)
  intro shortName named
  apply NoPanic.bind (NoPanic.orInvalidDatabase _ _)
  intro variant found
  apply NoPanic.bind (NoPanic.orInvalidDatabase _ _)
  intro comParams present
  exact NoPanic.bind below fun _ _ => NoPanic.ok _

mutual

theorem noPanic_childEntries : ∀ cp : ComParam, NoPanic (childEntries complexValue cp)
  | .bare _ _ | .regular _ _ _ | .complex _ _ none => NoPanic.ok []
  | .complex _ _ (some comParams) => noPanic_resolveEntries 0 comParams

theorem noPanic_resolveEntries :
    ∀ (i : Nat) (comParams : List ComParam), NoPanic (resolveEntries complexValue i comParams)
  | _, [] => NoPanic.ok []
  | i, cp :: rest => by
    apply NoPanic.bind
    · apply noPanic_resolveEntry
      intro kind
      exact noPanic_resolveChildren kind (noPanic_childEntries cp)
    · intro entry resolved
      exact NoPanic.bind (noPanic_resolveEntries (i + 1) rest) fun _ _ => NoPanic.ok _

end

end Panics

section Entries

variable {entries pairs : List (String × ComParamValue)} {name : String} {value : ComParamValue}

theorem lookup_filter_ne {other : String} (ne : name ≠ other) :
    (entries.filter (·.1 ≠ other)).lookup name = entries.lookup name := by
  induction entries with
  | nil => rfl
  | cons entry rest ih =>
    obtain ⟨key, value⟩ := entry
    by_cases same : key = other
    · subst same
      simpa [List.lookup_cons, beq_eq_false_iff_ne.mpr ne] using ih
    · simp only [ne_eq, same, not_false_eq_true, decide_true, List.filter_cons_of_pos,
        List.lookup_cons]
      rw [ih]

theorem lookup_insertEntry (entry : String × ComParamValue) :
    (insertEntry entries entry).lookup name =
      if name = entry.1 then some entry.2 else entries.lookup name := by
  obtain ⟨key, value⟩ := entry
  by_cases same : name = key
  · simp [insertEntry, same]
  · simp only [insertEntry, same, if_false, List.lookup_cons, beq_eq_false_iff_ne.mpr same]
    exact lookup_filter_ne same

theorem lookup_collectEntries_iff (distinct : (pairs.map Prod.fst).Nodup) :
    (collectEntries pairs).lookup name = some value ↔ (name, value) ∈ pairs := by
  have folded (start : List (String × ComParamValue)) :
      (pairs.foldl insertEntry start).lookup name = some value ↔
        (name, value) ∈ pairs ∨ name ∉ pairs.map Prod.fst ∧ start.lookup name = some value := by
    induction pairs generalizing start with
    | nil => simp
    | cons pair rest ih =>
      obtain ⟨key, kept⟩ := pair
      obtain ⟨fresh, distinctRest⟩ := List.nodup_cons.mp distinct
      rw [List.foldl_cons, ih distinctRest, lookup_insertEntry]
      by_cases same : name = key
      · subst same
        have absent : (name, value) ∉ rest := fun mem =>
          fresh (List.mem_map.mpr ⟨_, mem, rfl⟩)
        simp [absent, eq_comm]
        intro _
        simpa using fresh
      · simp [same]
  simpa [collectEntries] using folded []

end Entries

section Entry

variable {root : ComplexValue} {i : Nat} {name text : String} {tree : ComParamValue}
  {data : RegularComParam} {comParams : List ComParam}
  {nested : Except DiagServiceError (String × ComParamValue)}
  {resolved : String × ComParamValue}

theorem entriesItemAsSimpleValue_eq_some_iff {simple : SimpleValue} :
    entriesItemAsSimpleValue root i = some simple ↔ root[i]? = some (.simpleValue simple) := by
  unfold entriesItemAsSimpleValue
  split <;> simp_all

theorem entriesItemAsComplexValue_eq_some_iff {entries : ComplexValue} :
    entriesItemAsComplexValue root i = some entries ↔ root[i]? = some (.complexValue entries) := by
  unfold entriesItemAsComplexValue
  split <;> simp_all

theorem orInvalidDatabase_bind_eq_ok_iff {α β : Type} {message : String} {value : Option α}
    {next : α → Except DiagServiceError β} {result : β} :
    (orInvalidDatabase message value >>= next) = .ok result ↔
      ∃ found, value = some found ∧ next found = .ok result := by
  cases value <;> simp [orInvalidDatabase, Bind.bind, Except.bind]

theorem orInvalidDatabase_some_bind {α β : Type} {message : String} {value : α}
    {next : α → Except DiagServiceError β} :
    (orInvalidDatabase message (some value) >>= next) = next value := rfl

theorem resolveEntry_regular_eq_ok_iff :
    resolveEntry root nested i (.regular (some name) .regular data) = .ok resolved ↔
      ∃ text, root[i]? = some (.simpleValue ⟨some text⟩) ∧
        resolved = (name, .simple ⟨text, data.dop.bind extractDopUnit⟩) := by
  rw [resolveEntry, orInvalidDatabase_bind_eq_ok_iff]
  simp only [ComParam.shortName, ComParam.comParamType, Option.some.injEq, exists_eq_left',
    orInvalidDatabase_bind_eq_ok_iff, ComParam.specificDataAsRegularComParam]
  cases simple : entriesItemAsSimpleValue root i with
  | some value =>
    obtain ⟨value⟩ := value
    rw [entriesItemAsSimpleValue_eq_some_iff] at simple
    simp only [simple, orInvalidDatabase_bind_eq_ok_iff]
    cases value <;> simp [eq_comm, pure, Except.pure]
  | none =>
    have absent : ∀ text, root[i]? ≠ some (.simpleValue ⟨some text⟩) := by
      intro text present
      rw [← entriesItemAsSimpleValue_eq_some_iff, simple] at present
      cases present
    cases entriesItemAsComplexValue root i <;>
      simp [absent, throw, throwThe, MonadExceptOf.throw]

theorem resolveEntry_complex_eq_ok_iff :
    resolveEntry root nested i (.complex (some name) .complex (some comParams)) = .ok resolved ↔
      (∃ entries, root[i]? = some (.complexValue entries)) ∧ nested = .ok resolved := by
  rw [resolveEntry, orInvalidDatabase_bind_eq_ok_iff]
  simp only [ComParam.shortName, ComParam.comParamType, Option.some.injEq, exists_eq_left']
  cases simple : entriesItemAsSimpleValue root i with
  | some value =>
    rw [entriesItemAsSimpleValue_eq_some_iff] at simple
    simp [simple, throw, throwThe, MonadExceptOf.throw]
  | none =>
    cases found : entriesItemAsComplexValue root i with
    | some entries =>
      rw [entriesItemAsComplexValue_eq_some_iff] at found
      simp [found]
    | none =>
      have absent : ∀ entries, root[i]? ≠ some (.complexValue entries) := by
        intro entries present
        rw [← entriesItemAsComplexValue_eq_some_iff, found] at present
        cases present
      simp [absent, throw, throwThe, MonadExceptOf.throw]

theorem resolveComplexValue_eq_ok_iff :
    resolveComplexValue (.complex (some name) .complex (some comParams)) root = .ok resolved ↔
      ∃ pairs, resolveEntries root 0 comParams = .ok pairs ∧
        resolved = (name, .complex (collectEntries pairs)) := by
  rw [resolveComplexValue, resolveChildren, orInvalidDatabase_bind_eq_ok_iff]
  simp only [ComParam.shortName, ComParam.comParamType, Option.some.injEq, exists_eq_left',
    orInvalidDatabase_bind_eq_ok_iff, ComParam.specificDataAsComplexComParam, childEntries]
  cases resolveEntries root 0 comParams <;>
    simp [Bind.bind, Except.bind, pure, Except.pure, eq_comm]

theorem shortName_of_resolveEntry {child : ComParam}
    (done : resolveEntry root (resolveComplexValue child root) i child = .ok resolved) :
    child.shortName = some resolved.1 := by
  rw [resolveEntry, orInvalidDatabase_bind_eq_ok_iff] at done
  obtain ⟨shortName, named, done⟩ := done
  cases kind : child.comParamType with
  | regular =>
    simp only [kind, orInvalidDatabase_bind_eq_ok_iff] at done
    obtain ⟨regular, found, done⟩ := done
    split at done
    · obtain ⟨value, present, done⟩ := orInvalidDatabase_bind_eq_ok_iff.mp done
      cases done
      exact named
    · split at done <;> cases done
  | complex =>
    simp only [kind] at done
    split at done
    · cases done
    · split at done
      · rw [resolveComplexValue, resolveChildren, orInvalidDatabase_bind_eq_ok_iff] at done
        obtain ⟨comParamShortname, itsName, done⟩ := done
        simp only [kind, orInvalidDatabase_bind_eq_ok_iff] at done
        obtain ⟨variant, found, comParams, present, done⟩ := done
        obtain ⟨entries, below, done⟩ := except_bind_eq_ok_iff.mp done
        cases done
        exact itsName
      · cases done
  | unknown code =>
    simp only [kind] at done
    cases done

theorem resolveEntries_eq_ok_iff {pairs : List (String × ComParamValue)} :
    resolveEntries root i comParams = .ok pairs ↔ comParams.length = pairs.length ∧
        ∀ (k : Nat) child pair, comParams[k]? = some child → pairs[k]? = some pair →
          resolveEntry root (resolveComplexValue child root) (i + k) child = .ok pair := by
  induction comParams generalizing i pairs with
  | nil => cases pairs <;> simp [resolveEntries, pure, Except.pure]
  | cons cp rest ih =>
    have unfolded : resolveEntries root i (cp :: rest) =
        resolveEntry root (resolveComplexValue cp root) i cp >>= fun entry =>
          resolveEntries root (i + 1) rest >>= fun entries => .ok (entry :: entries) := by
      rw [resolveEntries]
      rfl
    have split : resolveEntries root i (cp :: rest) = .ok pairs ↔
        ∃ entry entries, pairs = entry :: entries ∧
          resolveEntry root (resolveComplexValue cp root) i cp = .ok entry ∧
          resolveEntries root (i + 1) rest = .ok entries := by
      rw [unfolded]
      cases resolveEntry root (resolveComplexValue cp root) i cp <;>
        cases resolveEntries root (i + 1) rest <;>
        simp [Bind.bind, Except.bind, eq_comm]
    rw [split]
    constructor
    · rintro ⟨entry, entries, rfl, first, others⟩
      obtain ⟨length, each⟩ := ih.mp others
      refine ⟨by simp [length], ?_⟩
      intro k child pair atChild atPair
      cases k with
      | zero =>
        simp only [List.getElem?_cons_zero, Option.some.injEq] at atChild atPair
        subst atChild atPair
        exact first
      | succ k =>
        rw [List.getElem?_cons_succ] at atChild atPair
        have resolved := each k child pair atChild atPair
        rwa [Nat.add_assoc, Nat.add_comm 1 k] at resolved
    · rintro ⟨length, each⟩
      cases pairs with
      | nil => simp at length
      | cons entry entries =>
        refine ⟨entry, entries, rfl, each 0 cp entry rfl rfl, ?_⟩
        apply ih.mpr
        refine ⟨by simpa using length, ?_⟩
        intro k child pair atChild atPair
        have resolved := each (k + 1) child pair atChild atPair
        rwa [← Nat.add_assoc, Nat.add_right_comm] at resolved

end Entry

section Paths

variable {root entries : ComplexValue} {comParams : List ComParam} {name : String}
  {pairs : List (String × ComParamValue)} {value : SimpleOrComplexValueEntry}

/-- Each value below looks like the root's entry with the same last index. -/
def Serves (root : ComplexValue) (value : SimpleOrComplexValueEntry) : Prop :=
  ∀ path index label, value.labelAt (path ++ [index]) = some label →
    root[index]?.map SimpleOrComplexValueEntry.label = some label

theorem labelAt_cons (index : Nat) (path : List Nat) :
    (SimpleOrComplexValueEntry.complexValue entries).labelAt (index :: path) =
      entries[index]?.bind (·.labelAt path) := by
  cases found : entries[index]? <;>
    simp [SimpleOrComplexValueEntry.labelAt, SimpleOrComplexValueEntry.nodeAt, found]

theorem serves_simpleValue (simple : SimpleValue) : Serves root (.simpleValue simple) := by
  intro path index label found
  cases path <;>
    simp [SimpleOrComplexValueEntry.labelAt, SimpleOrComplexValueEntry.nodeAt] at found

theorem serves_complexValue_iff : Serves root (.complexValue entries) ↔
      ∀ (index : Nat) entry, entries[index]? = some entry →
        root[index]?.map SimpleOrComplexValueEntry.label = some entry.label ∧
          Serves root entry := by
  constructor
  · intro serves index entry found
    constructor
    · apply serves [] index
      simp [found, SimpleOrComplexValueEntry.labelAt, SimpleOrComplexValueEntry.nodeAt]
    · intro path last label below
      apply serves (index :: path) last label
      rw [List.cons_append, labelAt_cons, found]
      exact below
  · intro each path index label below
    cases path with
    | nil =>
      rw [List.nil_append, labelAt_cons, Option.bind_eq_some_iff] at below
      obtain ⟨entry, found, shown⟩ := below
      have same : entry.label = label := by
        simpa [SimpleOrComplexValueEntry.labelAt, SimpleOrComplexValueEntry.nodeAt] using shown
      rw [← same]
      exact (each index entry found).1
    | cons first path =>
      rw [List.cons_append, labelAt_cons, Option.bind_eq_some_iff] at below
      obtain ⟨entry, found, shown⟩ := below
      exact (each first entry found).2 path index label shown

theorem serves_iff_labelAt : Serves root (.complexValue root) ↔ ∀ path index label,
      (SimpleOrComplexValueEntry.complexValue root).labelAt (path ++ [index]) = some label →
        (SimpleOrComplexValueEntry.complexValue root).labelAt [index] = some label := by
  have direct (index : Nat) : (SimpleOrComplexValueEntry.complexValue root).labelAt [index] =
      root[index]?.map SimpleOrComplexValueEntry.label := by
    rw [labelAt_cons]
    cases root[index]? <;> rfl
  simp only [Serves, direct]

theorem namesAt_cons (index : Nat) (path : List Nat) (names : List String) :
    (ComParam.complex (some name) .complex (some comParams)).namesAt (index :: path) = some names ↔
      ∃ child first rest, comParams[index]? = some child ∧ child.shortName = some first ∧
        child.namesAt path = some rest ∧ names = first :: rest := by
  simp only [ComParam.namesAt, Option.bind_eq_bind, Option.bind_eq_some_iff, Option.pure_def,
    Option.some.injEq]
  constructor
  · rintro ⟨child, found, first, named, rest, below, rfl⟩
    exact ⟨child, first, rest, found, named, below, rfl⟩
  · rintro ⟨child, first, rest, found, named, below, rfl⟩
    exact ⟨child, found, first, named, rest, below, rfl⟩

theorem leafAt_cons {index : Nat} {path : List Nat} {entry : SimpleOrComplexValueEntry}
    (found : entries[index]? = some entry) :
    (SimpleOrComplexValueEntry.complexValue entries).leafAt (index :: path) =
      entry.leafAt path := by
  simp [SimpleOrComplexValueEntry.leafAt, SimpleOrComplexValueEntry.nodeAt, found]

theorem holdsAtPaths_complex_iff (sameLength : comParams.length = entries.length)
    (distinct : (comParams.map ComParam.shortName).Nodup)
    (named : comParams.map ComParam.shortName = pairs.map (some ·.1)) :
    HoldsAtPaths (.complex (some name) .complex (some comParams)) (.complexValue entries)
        (.complex (collectEntries pairs)) ↔
      ∀ (index : Nat) child entry pair, comParams[index]? = some child →
        entries[index]? = some entry → pairs[index]? = some pair →
          HoldsAtPaths child entry pair.2 := by
  have distinctPairs : (pairs.map Prod.fst).Nodup := by
    have twice : pairs.map (some ·.1) = (pairs.map Prod.fst).map some := by
      rw [List.map_map]
      rfl
    rw [named, twice] at distinct
    exact List.Nodup.of_map _ distinct
  have pairOf {index : Nat} {child : ComParam} (found : comParams[index]? = some child) :
      ∃ pair, pairs[index]? = some pair ∧ child.shortName = some pair.1 := by
    have mapped := congrArg (·[index]?) named
    simp only [List.getElem?_map, found, Option.map_some] at mapped
    cases atPair : pairs[index]? with
    | none => simp [atPair] at mapped
    | some pair => exact ⟨pair, rfl, by simpa [atPair] using mapped⟩
  have childOf {index : Nat} {pair : String × ComParamValue}
      (found : pairs[index]? = some pair) :
      ∃ child, comParams[index]? = some child ∧ child.shortName = some pair.1 := by
    have mapped := congrArg (·[index]?) named
    simp only [List.getElem?_map, found, Option.map_some] at mapped
    cases atChild : comParams[index]? with
    | none => simp [atChild] at mapped
    | some child => exact ⟨child, rfl, by simpa [atChild] using mapped⟩
  have looked {index : Nat} {pair : String × ComParamValue}
      (found : pairs[index]? = some pair) (names : List String) :
      (ComParamValue.complex (collectEntries pairs)).leafAt (pair.1 :: names) =
        pair.2.leafAt names := by
    have lookup : (collectEntries pairs).lookup pair.1 = some pair.2 :=
      (lookup_collectEntries_iff distinctPairs).mpr (List.mem_of_getElem? found)
    simp [ComParamValue.leafAt, lookup]
  constructor
  · rintro ⟨values, leaves⟩ index child entry pair atChild atEntry atPair
    have childName : child.shortName = some pair.1 := by
      obtain ⟨other, atOther, its⟩ := childOf atPair
      rw [atChild, Option.some.injEq] at atOther
      rwa [atOther]
    constructor
    · intro path names below
      have whole := values (index :: path) (pair.1 :: names)
        ((namesAt_cons ..).mpr ⟨child, pair.1, names, atChild, childName, below, rfl⟩)
      rwa [looked atPair, leafAt_cons atEntry] at whole
    · intro names present
      rw [← looked atPair] at present
      obtain ⟨path, whole⟩ := leaves _ present
      cases path with
      | nil => simp [ComParam.namesAt] at whole
      | cons first path =>
        obtain ⟨other, _, rest, atOther, otherName, below, equal⟩ :=
          (namesAt_cons ..).mp whole
        rw [List.cons.injEq] at equal
        obtain ⟨rfl, rfl⟩ := equal
        -- Siblings have distinct names, so the path goes through this very child.
        have same : first = index := by
          have inside : first < (comParams.map ComParam.shortName).length := by
            simpa using (List.getElem?_eq_some_iff.mp atOther).1
          apply (List.getElem?_inj inside distinct).mp
          simp [atOther, atChild, otherName, childName]
        subst same
        rw [atChild] at atOther
        cases atOther
        exact ⟨path, below⟩
  · intro each
    constructor
    · intro path names whole
      cases path with
      | nil =>
        simp only [ComParam.namesAt, Option.some.injEq] at whole
        subst whole
        rfl
      | cons index path =>
        obtain ⟨child, first, rest, atChild, childName, below, rfl⟩ :=
          (namesAt_cons ..).mp whole
        obtain ⟨pair, atPair, pairName⟩ := pairOf atChild
        rw [childName, Option.some.injEq] at pairName
        have inside : index < entries.length := by
          rw [← sameLength]
          exact (List.getElem?_eq_some_iff.mp atChild).1
        have atEntry : entries[index]? = some entries[index] := List.getElem?_eq_getElem inside
        rw [pairName, looked atPair, leafAt_cons atEntry]
        exact (each index child _ pair atChild atEntry atPair).1 path rest below
    · intro names present
      cases names with
      | nil => simp [ComParamValue.leafAt] at present
      | cons first rest =>
        cases found : (collectEntries pairs).lookup first with
        | none => simp [ComParamValue.leafAt, found] at present
        | some tree =>
          have mem := (lookup_collectEntries_iff distinctPairs).mp found
          obtain ⟨index, atPair⟩ := List.getElem?_of_mem mem
          obtain ⟨child, atChild, childName⟩ := childOf atPair
          have inside : index < entries.length := by
            rw [← sameLength]
            exact (List.getElem?_eq_some_iff.mp atChild).1
          have atEntry : entries[index]? = some entries[index] :=
            List.getElem?_eq_getElem inside
          rw [looked atPair] at present
          obtain ⟨path, below⟩ :=
            (each index child _ _ atChild atEntry atPair).2 rest present
          exact ⟨index :: path,
            (namesAt_cons ..).mpr ⟨child, first, rest, atChild, childName, below, rfl⟩⟩

end Paths

section Shape

variable {root : ComplexValue} {definition : ComParam} {value : SimpleOrComplexValueEntry}

/-- The outcome is the tree of the definition, with each leaf at its path. -/
def YieldsPaths (definition : ComParam) (value : SimpleOrComplexValueEntry)
    (outcome : Except DiagServiceError (String × ComParamValue)) : Prop :=
  ∃ name tree, definition.shortName = some name ∧ outcome = .ok (name, tree) ∧
    HoldsAtPaths definition value tree

theorem holdsAtPaths_simple_iff {name text found : String} {data : RegularComParam}
    {unit : Option ComParamUnit} :
    HoldsAtPaths (.regular (some name) .regular data) (.simpleValue ⟨some text⟩)
        (.simple ⟨found, unit⟩) ↔ found = text := by
  constructor
  · intro holds
    have atRoot := holds.1 [] [] rfl
    simpa [ComParamValue.leafAt, SimpleOrComplexValueEntry.leafAt,
      SimpleOrComplexValueEntry.nodeAt] using atRoot
  · rintro rfl
    constructor
    · intro path names named
      cases path with
      | nil =>
        simp only [ComParam.namesAt, Option.some.injEq] at named
        subst named
        rfl
      | cons index path => simp [ComParam.namesAt] at named
    · intro names present
      cases names with
      | nil => exact ⟨[], rfl⟩
      | cons first rest => simp [ComParamValue.leafAt] at present

theorem yieldsPaths_complex_iff {name : String} {comParams : List ComParam}
    {entries : ComplexValue} (sameLength : comParams.length = entries.length)
    (distinct : (comParams.map ComParam.shortName).Nodup) :
    YieldsPaths (.complex (some name) .complex (some comParams)) (.complexValue entries)
        (resolveComplexValue (.complex (some name) .complex (some comParams)) root) ↔
      ∀ (index : Nat) child entry, comParams[index]? = some child → entries[index]? = some entry →
          YieldsPaths child entry
            (resolveEntry root (resolveComplexValue child root) index child) := by
  have namesOf {pairs : List (String × ComParamValue)}
      (each : resolveEntries root 0 comParams = .ok pairs) :
      comParams.map ComParam.shortName = pairs.map (some ·.1) := by
    obtain ⟨length, each⟩ := resolveEntries_eq_ok_iff.mp each
    apply List.ext_getElem (by simpa using length)
    intro index inside insidePairs
    rw [List.length_map] at inside insidePairs
    rw [List.getElem_map, List.getElem_map]
    exact shortName_of_resolveEntry (each index _ _ (List.getElem?_eq_getElem inside)
      (List.getElem?_eq_getElem insidePairs))
  constructor
  · rintro ⟨_, tree, _, resolved, holds⟩ index child entry atChild atEntry
    obtain ⟨pairs, done, equal⟩ := resolveComplexValue_eq_ok_iff.mp resolved
    rw [Prod.mk.injEq] at equal
    obtain ⟨rfl, rfl⟩ := equal
    have named := namesOf done
    obtain ⟨length, each⟩ := resolveEntries_eq_ok_iff.mp done
    have inside : index < pairs.length := by
      rw [← length]
      exact (List.getElem?_eq_some_iff.mp atChild).1
    have atPair : pairs[index]? = some pairs[index] := List.getElem?_eq_getElem inside
    have entryDone := each index child _ atChild atPair
    rw [Nat.zero_add] at entryDone
    exact ⟨_, _, shortName_of_resolveEntry entryDone, entryDone,
      (holdsAtPaths_complex_iff sameLength distinct named).mp holds index child entry _
        atChild atEntry atPair⟩
  · intro each
    have picked (index : Nat) : ∃ pair, ∀ child entry, comParams[index]? = some child →
        entries[index]? = some entry →
          resolveEntry root (resolveComplexValue child root) index child = .ok pair ∧
            HoldsAtPaths child entry pair.2 := by
      by_cases inside : index < comParams.length
      · have insideEntries : index < entries.length := by rwa [← sameLength]
        obtain ⟨name, tree, -, done, holds⟩ := each index _ _
          (List.getElem?_eq_getElem inside) (List.getElem?_eq_getElem insideEntries)
        refine ⟨(name, tree), ?_⟩
        intro child entry atChild atEntry
        rw [List.getElem?_eq_getElem inside, Option.some.injEq] at atChild
        rw [List.getElem?_eq_getElem insideEntries, Option.some.injEq] at atEntry
        subst atChild atEntry
        exact ⟨done, holds⟩
      · refine ⟨("", .complex []), ?_⟩
        intro child entry atChild
        exact absurd (List.getElem?_eq_some_iff.mp atChild).1 inside
    choose pairAt pairAt_spec using picked
    let pairs := (List.range comParams.length).map pairAt
    have atIndex {index : Nat} {pair : String × ComParamValue}
        (atPair : pairs[index]? = some pair) : pair = pairAt index := by
      simp only [pairs, List.getElem?_map, Option.map_eq_some_iff, List.getElem?_eq_some_iff,
        List.getElem_range] at atPair
      obtain ⟨_, ⟨_, rfl⟩, rfl⟩ := atPair
      rfl
    have entryAt {index : Nat} {child : ComParam} (atChild : comParams[index]? = some child) :
        ∃ entry, entries[index]? = some entry := by
      have inside : index < entries.length := by
        rw [← sameLength]
        exact (List.getElem?_eq_some_iff.mp atChild).1
      exact ⟨_, List.getElem?_eq_getElem inside⟩
    have done : resolveEntries root 0 comParams = .ok pairs := by
      apply resolveEntries_eq_ok_iff.mpr
      refine ⟨by simp [pairs], ?_⟩
      intro index child pair atChild atPair
      obtain ⟨entry, atEntry⟩ := entryAt atChild
      rw [Nat.zero_add, atIndex atPair]
      exact (pairAt_spec index child entry atChild atEntry).1
    refine ⟨name, .complex (collectEntries pairs), rfl,
      resolveComplexValue_eq_ok_iff.mpr ⟨pairs, done, rfl⟩, ?_⟩
    apply (holdsAtPaths_complex_iff sameLength distinct (namesOf done)).mpr
    intro index child entry pair atChild atEntry atPair
    rw [atIndex atPair]
    exact (pairAt_spec index child entry atChild atEntry).2

theorem yieldsPaths_root_iff_of_entries {name : String} {comParams : List ComParam}
    {entries : ComplexValue} (sameLength : comParams.length = entries.length)
    (distinct : (comParams.map ComParam.shortName).Nodup)
    (each : ∀ (index : Nat) child entry, comParams[index]? = some child →
      entries[index]? = some entry → ∀ index, (YieldsPaths child entry
            (resolveEntry root (resolveComplexValue child root) index child) ↔
          root[index]?.map SimpleOrComplexValueEntry.label = some entry.label ∧
            Serves root entry)) :
    YieldsPaths (.complex (some name) .complex (some comParams)) (.complexValue entries)
        (resolveComplexValue (.complex (some name) .complex (some comParams)) root) ↔
      Serves root (.complexValue entries) := by
  rw [yieldsPaths_complex_iff sameLength distinct, serves_complexValue_iff]
  constructor
  · intro yields index entry atEntry
    have inside : index < comParams.length := by
      rw [sameLength]
      exact (List.getElem?_eq_some_iff.mp atEntry).1
    have atChild := List.getElem?_eq_getElem inside
    exact (each index _ entry atChild atEntry index).mp (yields index _ entry atChild atEntry)
  · intro serves index child entry atChild atEntry
    exact (each index child entry atChild atEntry index).mpr (serves index entry atEntry)

/-- One entry yields its paths exactly when the root shows the same under its index and under
the last index of every path below. -/
theorem yieldsPaths_entry_iff (same : SameShape definition value) (index : Nat) :
    YieldsPaths definition value
        (resolveEntry root (resolveComplexValue definition root) index definition) ↔
      root[index]?.map SimpleOrComplexValueEntry.label = some value.label ∧ Serves root value := by
  induction same generalizing index with
  | @simple name text data =>
    simp only [YieldsPaths, resolveEntry_regular_eq_ok_iff, serves_simpleValue, and_true]
    constructor
    · rintro ⟨_, tree, _, ⟨found, atRoot, equal⟩, holds⟩
      rw [Prod.mk.injEq] at equal
      obtain ⟨rfl, rfl⟩ := equal
      rw [holdsAtPaths_simple_iff] at holds
      subst holds
      simp [atRoot, SimpleOrComplexValueEntry.label]
    · intro shown
      obtain ⟨entry, atRoot, shown⟩ := Option.map_eq_some_iff.mp shown
      cases entry with
      | none | complexValue entries => cases shown
      | simpleValue simple =>
        obtain ⟨_⟩ := simple
        cases shown
        exact ⟨name, _, rfl, ⟨text, atRoot, rfl⟩, holdsAtPaths_simple_iff.mpr rfl⟩
  | @complex name comParams entries sameLength distinct below ih =>
    rw [← yieldsPaths_root_iff_of_entries sameLength distinct ih]
    simp only [YieldsPaths, resolveEntry_complex_eq_ok_iff]
    constructor
    · rintro ⟨_, tree, named, ⟨⟨found, atRoot⟩, done⟩, holds⟩
      exact ⟨by simp [atRoot, SimpleOrComplexValueEntry.label], _, tree, named, done, holds⟩
    · rintro ⟨shown, _, tree, named, done, holds⟩
      obtain ⟨entry, atRoot, shown⟩ := Option.map_eq_some_iff.mp shown
      cases entry with
      | none | simpleValue simple => cases shown
      | complexValue found => exact ⟨_, tree, named, ⟨⟨found, atRoot⟩, done⟩, holds⟩

theorem yieldsPaths_root_iff {entries : ComplexValue}
    (same : SameShape definition (.complexValue entries)) :
    YieldsPaths definition (.complexValue entries) (resolveComplexValue definition root) ↔
      Serves root (.complexValue entries) := by
  cases same with
  | complex sameLength distinct below =>
    apply yieldsPaths_root_iff_of_entries sameLength distinct
    intro index child entry atChild atEntry
    exact yieldsPaths_entry_iff (below index child entry atChild atEntry)

end Shape

section Reference

variable {nameDebug : Option String → String} {cpref : ComParamRef} {comParam : ComParam}

theorem resolveComparam_eq (found : cpref.comParam = some comParam) :
    resolveComparam nameDebug cpref = resolveWithValue nameDebug cpref comParam := by
  rw [resolveComparam, found]
  rfl

theorem resolveWithValue_simple {simple : SimpleValue} {other : Option ComParam}
    : resolveWithValue nameDebug ⟨some simple, none, other⟩ comParam =
      orInvalidDatabase "ComParamRef has no short name" comParam.shortName >>= fun shortName =>
        orInvalidDatabase s!"ComParamRef for {shortName} has no simple value" simple.value >>=
          fun value => (match comParam.comParamType with
            | .regular =>
              orInvalidDatabase s!"ComParam {shortName} is not regular, but has regular type"
                comParam.specificDataAsRegularComParam >>= fun regular =>
                  orInvalidDatabase s!"ComParamRef for {shortName} has no data operation"
                    regular.dop >>= fun dop =>
                      .ok (shortName, .simple ⟨value, extractDopUnit dop⟩)
            | _ => unreachable "Will only be called if comparam is simple") := by
  simp only [resolveWithValue, Option.isSome, Bool.false_eq_true, and_false, if_false]
  rfl

theorem resolveWithValue_complex {entries : ComplexValue} {other : Option ComParam}
    : resolveWithValue nameDebug ⟨none, some entries, other⟩ comParam =
      orInvalidDatabase "ComParamRef has no short name" comParam.shortName >>= fun _ =>
        resolveComplexValue comParam entries := by
  simp only [resolveWithValue, Option.isSome, Bool.false_eq_true, false_and, if_false]

theorem not_noPanic_unreachable {message : String} :
    ¬NoPanic (unreachable message : Except DiagServiceError (String × ComParamValue)) := by
  intro fine
  exact fine _ rfl

theorem noPanic_resolveComparam_iff :
    NoPanic (resolveComparam nameDebug cpref) ↔ ¬cpref.KindClash := by
  obtain ⟨simpleValue, complexValue, comParam⟩ := cpref
  cases comParam with
  | none => simp [ComParamRef.KindClash, resolveComparam, orInvalidDatabase, NoPanic, Bind.bind,
      Except.bind]
  | some comParam =>
    rw [resolveComparam_eq rfl]
    cases named : comParam.shortName with
    | none =>
      have clash : ¬ComParamRef.KindClash ⟨simpleValue, complexValue, some comParam⟩ := by
        rintro ⟨_, name, equal, itsName, _⟩
        cases equal
        rw [named] at itsName
        cases itsName
      simp only [clash, not_false_eq_true, iff_true]
      rw [resolveWithValue]
      split
      · exact NoPanic.invalidDatabase _
      · rw [named]
        exact NoPanic.invalidDatabase _
    | some name =>
      have clash : ComParamRef.KindClash ⟨simpleValue, complexValue, some comParam⟩ ↔
          (∃ text, simpleValue = some ⟨some text⟩ ∧ complexValue = none ∧
              comParam.comParamType ≠ .regular) ∨
            (simpleValue = none ∧ complexValue.isSome ∧ comParam.comParamType ≠ .complex) := by
        simp [ComParamRef.KindClash, named]
      rw [clash]
      cases simpleValue with
      | some simple =>
        cases complexValue with
        | some entries =>
          have fine : NoPanic (resolveWithValue nameDebug
              ⟨some simple, some entries, some comParam⟩ comParam) :=
            NoPanic.invalidDatabase _
          exact iff_of_true fine (by simp)
        | none =>
          obtain ⟨value⟩ := simple
          rw [resolveWithValue_simple, named, orInvalidDatabase_some_bind]
          cases value with
          | none => exact iff_of_true (NoPanic.invalidDatabase _) (by simp)
          | some text =>
            rw [orInvalidDatabase_some_bind]
            cases kind : comParam.comParamType with
            | regular =>
              refine iff_of_true ?_ (by simp)
              apply NoPanic.bind (NoPanic.orInvalidDatabase _ _)
              intro regular data
              exact NoPanic.bind (NoPanic.orInvalidDatabase _ _) fun _ _ =>
                NoPanic.ok _
            | complex | unknown code => exact iff_of_false not_noPanic_unreachable (by simp)
      | none =>
        cases complexValue with
        | none =>
          have fine : NoPanic (resolveWithValue nameDebug
              ⟨none, none, some comParam⟩ comParam) := by
            rw [resolveWithValue, if_neg (by simp), named]
            exact NoPanic.invalidDatabase _
          exact iff_of_true fine (by simp)
        | some entries =>
          rw [resolveWithValue_complex, named, orInvalidDatabase_some_bind]
          by_cases kind : comParam.comParamType = .complex
          · exact iff_of_true
              (noPanic_resolveChildren kind (noPanic_childEntries comParam))
              (by simp [kind])
          · refine iff_of_false ?_ (by simp [kind])
            rw [resolveComplexValue, resolveChildren, named, orInvalidDatabase_some_bind]
            cases other : comParam.comParamType with
            | complex => exact absurd other kind
            | regular | unknown code => exact not_noPanic_unreachable

/-- A complex parameter is resolved without an `unreachable!`, and leaf by leaf for a value of
its shape, exactly when its type fits its value, its value has what the root needs, and each
value below the root looks like the root's entry under the same last index. -/
theorem resolvesByPath_iff : ResolvesByPath nameDebug cpref ↔
    ¬cpref.KindClash ∧ ∀ definition value, cpref.Gives definition value →
      SameShape definition value → ServedByRoot definition value := by
  rw [ResolvesByPath]
  apply and_congr noPanic_resolveComparam_iff
  apply forall_congr'
  intro definition
  apply forall_congr'
  intro value
  apply forall_congr'
  rintro ⟨found, gives⟩
  apply forall_congr'
  intro same
  obtain ⟨simpleValue, complexValue, comParam⟩ := cpref
  subst found
  rw [resolveComparam_eq rfl]
  change YieldsPaths definition value _ ↔ _
  cases value with
  | none => exact gives.elim
  | simpleValue simple =>
    obtain ⟨rfl, rfl⟩ := gives
    cases same with
    | @simple name text data =>
      rw [resolveWithValue_simple, ComParam.shortName, orInvalidDatabase_some_bind,
        orInvalidDatabase_some_bind]
      simp only [ComParam.comParamType, ComParam.specificDataAsRegularComParam,
        orInvalidDatabase_some_bind]
      have below : ∀ path index label,
          (SimpleOrComplexValueEntry.simpleValue ⟨some text⟩).labelAt (path ++ [index]) ≠
            some label := by
        intro path index label
        cases path <;>
          simp [SimpleOrComplexValueEntry.labelAt, SimpleOrComplexValueEntry.nodeAt]
      obtain ⟨dop⟩ := data
      cases dop with
      | none =>
        apply iff_of_false
        · rintro ⟨_, tree, _, done, _⟩
          cases done
        · intro served
          have present := served.1 ⟨none⟩ rfl
          cases present
      | some dop =>
        apply iff_of_true
        · exact ⟨name, _, rfl, rfl, holdsAtPaths_simple_iff.mpr rfl⟩
        · constructor
          · intro data its
            cases its
            rfl
          · intro path index label found
            exact absurd found (below path index label)
  | complexValue entries =>
    obtain ⟨rfl, rfl⟩ := gives
    rw [resolveWithValue_complex]
    have named : ∃ name, definition.shortName = some name := by
      cases same
      exact ⟨_, rfl⟩
    obtain ⟨name, named⟩ := named
    rw [named]
    change YieldsPaths definition _ (resolveComplexValue definition entries) ↔ _
    rw [yieldsPaths_root_iff same, serves_iff_labelAt]
    cases same
    simp [ServedByRoot, ComParam.specificDataAsRegularComParam]

end Reference

namespace NestedTable

/-- A retry count beside a nested address. -/
def definition : ComParam :=
  .complex (some "CP_Table") .complex (some [ .regular (some "CP_Retries") .regular ⟨none⟩,
    .complex (some "CP_Address") .complex (some [
      .regular (some "CP_LogicalAddress") .regular ⟨none⟩])])

def value : ComplexValue :=
  [.simpleValue ⟨some "3"⟩, .complexValue [.simpleValue ⟨some "4096"⟩]]

def cpref : ComParamRef := ⟨none, some value, some definition⟩

theorem resolveComparam_nested (nameDebug : Option String → String) :
    resolveComparam nameDebug cpref = .ok ("CP_Table", .complex [
      ("CP_Address", .complex [("CP_LogicalAddress", .simple ⟨"3", none⟩)]),
      ("CP_Retries", .simple ⟨"3", none⟩)]) := rfl

theorem sameShape : SameShape definition (.complexValue value) := by
  apply SameShape.complex rfl (by decide)
  intro index child entry atChild atEntry
  match index with
  | 0 =>
    cases atChild
    cases atEntry
    exact SameShape.simple
  | 1 =>
    cases atChild
    cases atEntry
    apply SameShape.complex rfl (by decide)
    intro index child entry atChild atEntry
    match index with
    | 0 =>
      cases atChild
      cases atEntry
      exact SameShape.simple
    | _ + 1 => simp at atChild
  | _ + 2 => simp at atChild

theorem not_resolvesByPath_nested : ¬∀ (nameDebug : Option String → String) (cpref : ComParamRef),
      ResolvesByPath nameDebug cpref := by
  intro everyRefResolves
  obtain ⟨name, tree, _, resolved, holds, _⟩ := (everyRefResolves (fun _ => "") cpref).2 definition
    (.complexValue value) ⟨rfl, rfl, rfl⟩ sameShape
  rw [resolveComparam_nested] at resolved
  cases resolved
  have atAddress := holds [1, 0] ["CP_Address", "CP_LogicalAddress"] rfl
  revert atAddress
  decide

end NestedTable

end DiagnosticAdapter.Mdd
