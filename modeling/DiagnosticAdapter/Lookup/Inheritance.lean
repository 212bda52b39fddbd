import DiagnosticAdapter.Lookup.ServiceLookup
import DiagnosticAdapter.Lookup.Traversal
import Mathlib.Data.List.Flatten

/-!
# Inheritance along parent references

`get_parent_ref_diag_comms_recursive`: the diag comms of the layers that a list of parent
references leads to, less those that are not inherited.
-/

namespace DiagnosticAdapter.Lookup

open Kernel (Text)

variable {T : Type}

namespace ParentRef

def nestedRefs : ParentRef → List ParentRef
  | .nested _ _ parentRefs => parentRefs
  | .ecuSharedData _ _ | .unsupported => []

def diagLayer? : ParentRef → Option DiagLayer
  | .nested _ diagLayer _ | .ecuSharedData _ diagLayer => diagLayer
  | .unsupported => none

def notInheritedDiagCommShortNames : ParentRef → List Text
  | .nested notInherited _ _ | .ecuSharedData notInherited _ => notInherited
  | .unsupported => []

theorem sum_sizeOf_le (parentRefs : List ParentRef) :
    (parentRefs.map sizeOf).sum ≤ sizeOf parentRefs := by
  induction parentRefs with
  | nil => simp
  | cons parentRef parentRefs ih =>
    simp only [List.map_cons, List.sum_cons, List.cons.sizeOf_spec]
    omega

theorem sum_sizeOf_nestedRefs_lt (parentRef : ParentRef) :
    (parentRef.nestedRefs.map sizeOf).sum < sizeOf parentRef := by
  cases parentRef with
  | nested notInherited diagLayer parentRefs =>
    have := sum_sizeOf_le parentRefs
    simp only [nestedRefs, nested.sizeOf_spec]
    omega
  | ecuSharedData notInherited diagLayer | unsupported => simp [nestedRefs]

noncomputable def forest : Forest ParentRef where
  children := nestedRefs
  size := sizeOf
  size_children := sum_sizeOf_nestedRefs_lt

@[simp]
theorem forest_children (parentRef : ParentRef) :
    forest.children parentRef = parentRef.nestedRefs := rfl

end ParentRef

/-- The loop of `get_parent_ref_diag_layers_with_refs_recursive` from the result so far and the
stack. -/
def layersWithRefs (result : List (ParentRef × DiagLayer)) (stack : List ParentRef) :
    List (ParentRef × DiagLayer) :=
  match _top : stack.getLast? with
  | none => result
  | some parentRef =>
    let stack := stack.dropLast ++ parentRef.nestedRefs
    match parentRef.diagLayer? with
    | some diagLayer => layersWithRefs (result ++ [(parentRef, diagLayer)]) stack
    | none => layersWithRefs result stack
termination_by ParentRef.forest.weight stack
decreasing_by all_goals
  have split := List.dropLast_append_getLast? parentRef _top
  rw [← split]
  simp only [Forest.weight_append, Forest.weight_singleton, List.dropLast_concat]
  have := ParentRef.forest.weight_children parentRef
  simp only [ParentRef.forest] at this ⊢
  omega

def getParentRefDiagLayersWithRefsRecursive (parentRefs : List ParentRef) :
    List (ParentRef × DiagLayer) :=
  layersWithRefs [] parentRefs

/-- Diag comms of a kind, as a layer lists them. -/
structure Extraction (T : Type) where
  extract : DiagLayer → Option (List T)
  getName : T → Option Text

namespace Extraction

/-- The layer's diag comms, less those that the reference does not let through. -/
def inherited (extraction : Extraction T) : ParentRef × DiagLayer → Option (List T)
  | (parentRef, diagLayer) => (extraction.extract diagLayer).map fun items =>
    items.filter fun item => (extraction.getName item).all fun name =>
      !parentRef.notInheritedDiagCommShortNames.contains name

def getParentRefDiagCommsRecursive (extraction : Extraction T) (parentRefs : List ParentRef) :
    Option (List T) :=
  match ((getParentRefDiagLayersWithRefsRecursive parentRefs).filterMap
      extraction.inherited).flatten with
  | [] => none
  | allItems => some allItems

end Extraction

def ParentRef.withLayer (parentRef : ParentRef) : Option (ParentRef × DiagLayer) :=
  parentRef.diagLayer?.map fun diagLayer => (parentRef, diagLayer)

theorem layersWithRefs_concat (result : List (ParentRef × DiagLayer)) (stack : List ParentRef)
    (parentRef : ParentRef) :
    layersWithRefs result (stack ++ [parentRef]) =
      layersWithRefs (result ++ parentRef.withLayer.toList) (stack ++ parentRef.nestedRefs) := by
  rw [layersWithRefs]
  split
  · rename_i empty
    simp at empty
  · rename_i last isLast
    rw [List.getLast?_concat] at isLast
    cases isLast
    simp only [List.dropLast_concat, ParentRef.withLayer]
    cases parentRef.diagLayer? with
    | none => simp
    | some diagLayer => rfl

theorem layersWithRefs_eq (result : List (ParentRef × DiagLayer)) (stack : List ParentRef) :
    layersWithRefs result stack =
      result ++ (ParentRef.forest.visits stack).filterMap (·.withLayer) := by
  induction weighs : ParentRef.forest.weight stack using Nat.strong_induction_on
    generalizing result stack with
  | _ size ih =>
    obtain rfl | ⟨rest, parentRef, rfl⟩ := stack.eq_nil_or_concat
    · rw [layersWithRefs]
      simp
    · rw [List.concat_eq_append] at weighs ⊢
      have smaller : ParentRef.forest.weight (rest ++ parentRef.nestedRefs) < size := by
        have := ParentRef.forest.weight_children parentRef
        simp only [Forest.weight_append, Forest.weight_singleton] at weighs ⊢
        rw [ParentRef.forest_children] at this
        omega
      rw [layersWithRefs_concat, ih _ smaller _ _ rfl, Forest.visits_concat,
        List.filterMap_cons, ParentRef.forest_children]
      cases parentRef.withLayer with
      | none => simp
      | some layer => simp

namespace Extraction

variable {extraction : Extraction T} {parentRefs path : List ParentRef} {parentRef : ParentRef}
  {item : T}

/-- The reference lists the name of the diag comm as not inherited. -/
def Excludes (extraction : Extraction T) (parentRef : ParentRef) (item : T) : Prop :=
  ∃ name, extraction.getName item = some name ∧ name ∈ parentRef.notInheritedDiagCommShortNames

/-- The layer that the reference leads to has the diag comm. -/
def Offers (extraction : Extraction T) (parentRef : ParentRef) (item : T) : Prop :=
  ∃ diagLayer items, parentRef.diagLayer? = some diagLayer ∧
    extraction.extract diagLayer = some items ∧ item ∈ items

def ownItems (extraction : Extraction T) (parentRef : ParentRef) : List T :=
  ((parentRef.withLayer.bind extraction.inherited).getD [])

theorem getD_getParentRefDiagCommsRecursive (parentRefs : List ParentRef) :
    (extraction.getParentRefDiagCommsRecursive parentRefs).getD [] =
      (ParentRef.forest.visits parentRefs).flatMap extraction.ownItems := by
  have listed : (extraction.getParentRefDiagCommsRecursive parentRefs).getD [] =
      ((getParentRefDiagLayersWithRefsRecursive parentRefs).filterMap
        extraction.inherited).flatten := by
    rw [getParentRefDiagCommsRecursive]
    split
    · rename_i empty
      rw [empty]
      rfl
    · rfl
  rw [listed, getParentRefDiagLayersWithRefsRecursive, layersWithRefs_eq, List.nil_append,
    List.filterMap_filterMap]
  induction ParentRef.forest.visits parentRefs with
  | nil => rfl
  | cons parentRef visits ih =>
    rw [List.filterMap_cons, List.flatMap_cons, ← ih, ownItems]
    cases parentRef.withLayer.bind extraction.inherited <;> rfl

theorem mem_ownItems_iff : item ∈ extraction.ownItems parentRef ↔
      extraction.Offers parentRef item ∧ ¬ extraction.Excludes parentRef item := by
  have free : ((extraction.getName item).all fun name =>
      !parentRef.notInheritedDiagCommShortNames.contains name) = true ↔
      ¬ extraction.Excludes parentRef item := by
    simp [Excludes, Option.all_eq_true]
  rw [ownItems, ParentRef.withLayer, Offers, ← free]
  cases layer : parentRef.diagLayer? with
  | none => simp
  | some diagLayer =>
    simp only [Option.map_some, Option.bind_some, inherited, Option.some.injEq,
      exists_and_left, exists_eq_left']
    cases extracted : extraction.extract diagLayer with
    | none => simp
    | some items => simp [List.mem_filter]

/-- A path of references leads to a layer with the diag comm, and none of them lists its
name as not inherited. -/
def Inherits (extraction : Extraction T) (parentRefs : List ParentRef) (item : T) : Prop :=
  ∃ path parentRef, ParentRef.forest.Path parentRefs (path ++ [parentRef]) ∧
    extraction.Offers parentRef item ∧
    ∀ reference ∈ path ++ [parentRef], ¬ extraction.Excludes reference item

/-- The same without a look at the references before the last one. -/
def Reaches (extraction : Extraction T) (parentRefs : List ParentRef) (item : T) : Prop :=
  ∃ path parentRef, ParentRef.forest.Path parentRefs (path ++ [parentRef]) ∧
    extraction.Offers parentRef item ∧ ¬ extraction.Excludes parentRef item

theorem mem_getParentRefDiagCommsRecursive_iff :
    item ∈ (extraction.getParentRefDiagCommsRecursive parentRefs).getD [] ↔
      extraction.Reaches parentRefs item := by
  rw [getD_getParentRefDiagCommsRecursive, List.mem_flatMap]
  simp only [Forest.mem_visits_iff, mem_ownItems_iff, Reaches]
  constructor
  · rintro ⟨parentRef, ⟨path, isPath⟩, offered⟩
    exact ⟨path, parentRef, isPath, offered⟩
  · rintro ⟨path, parentRef, isPath, offered⟩
    exact ⟨parentRef, ⟨path, isPath⟩, offered⟩

theorem sublist_of_path (isPath : ParentRef.forest.Path parentRefs path) :
    (path.flatMap extraction.ownItems).Sublist
      ((extraction.getParentRefDiagCommsRecursive parentRefs).getD []) := by
  rw [getD_getParentRefDiagCommsRecursive]
  exact isPath.sublist_visits.flatMap _

/-- The diag comms returned are those inherited, and they come in the order of the
layers on every path. -/
structure FollowsTree (extraction : Extraction T) (parentRefs : List ParentRef) : Prop where
  exactly : ∀ item, item ∈ (extraction.getParentRefDiagCommsRecursive parentRefs).getD [] ↔
    extraction.Inherits parentRefs item
  ordered : ∀ path, ParentRef.forest.Path parentRefs path →
    (path.flatMap extraction.ownItems).Sublist
      ((extraction.getParentRefDiagCommsRecursive parentRefs).getD [])

theorem Inherits.reaches (inherits : extraction.Inherits parentRefs item) :
    extraction.Reaches parentRefs item := by
  obtain ⟨path, parentRef, isPath, offered, free⟩ := inherits
  exact ⟨path, parentRef, isPath, offered,
    free parentRef (List.mem_append_right _ (List.mem_singleton_self parentRef))⟩

/-- The tree is followed as long as every diag comm reached past an exclusion higher up
is also inherited along another path. -/
theorem followsTree_iff (extraction : Extraction T) (parentRefs : List ParentRef) :
    extraction.FollowsTree parentRefs ↔
      ∀ item, extraction.Reaches parentRefs item → extraction.Inherits parentRefs item := by
  constructor
  · intro follows item reaches
    exact (follows.exactly item).1 (mem_getParentRefDiagCommsRecursive_iff.2 reaches)
  · intro inherited
    constructor
    · intro item
      rw [mem_getParentRefDiagCommsRecursive_iff]
      exact ⟨inherited item, Inherits.reaches⟩
    · intro path isPath
      exact sublist_of_path isPath

end Extraction

def serviceExtraction : Extraction DiagService := ⟨(·.diagServices), (·.shortName)⟩

section Grandparent

def readService : DiagService := ⟨some "Read".toList, some 0x22, none, 0⟩

def protocolRef : ParentRef :=
  .nested [] (some ⟨some "Protocol".toList, some [readService]⟩) []

/-- A functional group inherits the service, and the variant does not want it. -/
def groupRef : ParentRef :=
  .nested ["Read".toList] (some ⟨some "Group".toList, some []⟩) [protocolRef]

theorem excluded_service_returned :
    ¬ ∀ (T : Type) (extraction : Extraction T) (parentRefs : List ParentRef),
      extraction.FollowsTree parentRefs := by
  intro everyExtractionFollows
  have follows := everyExtractionFollows DiagService serviceExtraction [groupRef]
  have reached : serviceExtraction.Reaches [groupRef] readService := by
    refine ⟨[groupRef], protocolRef, ?_, ⟨_, _, rfl, rfl, List.mem_singleton_self _⟩, ?_⟩
    · exact .step (List.mem_singleton_self _) (.root (List.mem_singleton_self _))
    · rintro ⟨name, _, excluded⟩
      cases excluded
  have mem := Extraction.mem_getParentRefDiagCommsRecursive_iff.2 reached
  obtain ⟨path, parentRef, isPath, _, free⟩ := (follows.exactly readService).1 mem
  obtain ⟨root, isRoot, passed⟩ := isPath.exists_root
  rw [List.mem_singleton] at isRoot
  subst isRoot
  exact free groupRef passed ⟨"Read".toList, rfl, List.mem_singleton_self _⟩

end Grandparent

end DiagnosticAdapter.Lookup
