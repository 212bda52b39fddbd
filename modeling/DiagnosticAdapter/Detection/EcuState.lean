import Mathlib.Data.String.Basic

/-!
# ECU states and duplicate groups

What variant detection knows about an ECU, and which ECU descriptions share one
transport target.
-/

namespace DiagnosticAdapter.Detection

inductive Connectivity where
  | online
  | offline
  deriving DecidableEq, Repr

inductive VariantState where
  | notTested
  | detected (name : String) (isBaseVariant isFallback : Bool)
  | duplicate
  | notDetected
  deriving DecidableEq, Repr

def VariantState.isDetected : VariantState → Bool
  | .detected .. => true
  | _ => false

def VariantState.isFallback : VariantState → Bool
  | .detected _ _ isFallback => isFallback
  | _ => false

structure EcuState where
  connectivity : Connectivity
  variantState : VariantState
  variantIndex : Option Nat
  deriving DecidableEq, Repr

namespace EcuState

def default : EcuState := ⟨.offline, .notTested, none⟩

def isFallback (status : EcuState) : Bool := status.variantState.isFallback

def isOnlineAndDetected (status : EcuState) : Bool :=
  status.connectivity == .online && status.variantState.isDetected

end EcuState

def needsVariantDetection (status : EcuState) : Bool :=
  status.variantState == .notTested || (status.connectivity == .offline &&
      (status.variantState.isDetected || status.variantState == .notDetected))

structure Fleet where
  loaded : List String
  duplicatingEcuNames : String → Option (List String)

namespace Fleet

variable (fleet : Fleet)

/-- The members of the ECU's duplicate group that are loaded, without the ECU itself. -/
def loadedDuplicates (ecuName : String) : List String :=
  ((fleet.duplicatingEcuNames ecuName).getD []).filter (· ∈ fleet.loaded)

/-- The smallest loaded member of the ECU's duplicate group. -/
def duplicateGroupRepresentative (ecuName : String) : String :=
  if ecuName ∈ fleet.loaded then
    (fleet.loadedDuplicates ecuName).foldl min ecuName
  else
    ecuName

/-- The databases whose duplicates `mark_duplicate_ecus_by_address` has set: those that
share a transport target. -/
def marked {Target : Type} [DecidableEq Target] (loaded : List String)
    (target : String → Option Target) : Fleet where
  loaded := loaded
  duplicatingEcuNames ecuName :=
    match target ecuName with
    | none => none
    | some key =>
      let ecuNames := loaded.filter fun name => target name = some key
      if ecuNames.length ≤ 1 then none else some (ecuNames.filter (· ≠ ecuName))

/-- Loaded ECUs that name each other, and no ECU outside, as duplicates. -/
structure IsDuplicateGroup (group : List String) : Prop where
  loaded : ∀ member ∈ group, member ∈ fleet.loaded
  inside : ∀ member ∈ group, ∀ name,
    name ∈ fleet.loadedDuplicates member ↔ name ∈ group ∧ name ≠ member
  outside : ∀ name ∈ fleet.loaded, name ∉ group →
    ∀ member ∈ group, member ∉ fleet.loadedDuplicates name

end Fleet

theorem mem_loadedDuplicates_marked {Target : Type} [DecidableEq Target] {loaded : List String}
    {target : String → Option Target} {ecuName : String} (isLoaded : ecuName ∈ loaded)
    (name : String) :
    name ∈ (Fleet.marked loaded target).loadedDuplicates ecuName ↔
      (∃ key, target ecuName = some key ∧ target name = some key) ∧ name ∈ loaded ∧
        name ≠ ecuName := by
  unfold Fleet.loadedDuplicates
  cases own : target ecuName with
  | none => simp [Fleet.marked, own]
  | some key =>
    by_cases single : (loaded.filter fun name => target name = some key).length ≤ 1
    · have duplicates : (Fleet.marked loaded target).duplicatingEcuNames ecuName = none := by
        simp only [Fleet.marked, own, if_pos single]
      rw [duplicates]
      constructor
      · intro member
        cases member
      · intro ⟨⟨other, sameKey, shared⟩, nameLoaded, ne⟩
        cases sameKey
        -- the ECU and its duplicate are two
        have ecuMember : ecuName ∈ loaded.filter fun name => target name = some key :=
          List.mem_filter.mpr ⟨isLoaded, by simp [own]⟩
        have nameMember : name ∈ loaded.filter fun name => target name = some key :=
          List.mem_filter.mpr ⟨nameLoaded, by simp [shared]⟩
        obtain ⟨i, iBound, atI⟩ := List.mem_iff_getElem.mp ecuMember
        obtain ⟨j, jBound, atJ⟩ := List.mem_iff_getElem.mp nameMember
        have sameIndex : i = j := by omega
        subst sameIndex
        exact absurd (atJ.symm.trans atI) ne
    · have duplicates : (Fleet.marked loaded target).duplicatingEcuNames ecuName =
          some ((loaded.filter fun name => target name = some key).filter (· ≠ ecuName)) := by
        simp only [Fleet.marked, own, if_neg single]
      have sameLoaded : (Fleet.marked loaded target).loaded = loaded := rfl
      simp only [duplicates, sameLoaded, Option.getD_some, List.mem_filter, decide_eq_true_eq,
        Option.some.injEq, exists_eq_left']
      tauto

theorem isDuplicateGroup_marked {Target : Type} [DecidableEq Target] (loaded : List String)
    (target : String → Option Target) (key : Target) :
    (Fleet.marked loaded target).IsDuplicateGroup
      (loaded.filter fun name => target name = some key) := by
  have inGroup : ∀ name, name ∈ (loaded.filter fun name => target name = some key) ↔
      name ∈ loaded ∧ target name = some key := by
    intro name
    simp
  constructor
  · intro member member'
    exact ((inGroup member).mp member').1
  · intro member isMember name
    obtain ⟨isLoaded, own⟩ := (inGroup member).mp isMember
    rw [mem_loadedDuplicates_marked isLoaded, inGroup]
    simp only [own, Option.some.injEq, exists_eq_left']
    tauto
  · intro name isLoaded notMember member isMember duplicate
    obtain ⟨-, memberKey⟩ := (inGroup member).mp isMember
    obtain ⟨⟨other, own, shared⟩, -, -⟩ := (mem_loadedDuplicates_marked isLoaded member).mp duplicate
    rw [memberKey] at shared
    cases shared
    exact notMember ((inGroup name).mpr ⟨isLoaded, own⟩)

theorem foldl_min_le (names : List String) (first : String) :
    names.foldl min first ≤ first ∧ ∀ name ∈ names, names.foldl min first ≤ name := by
  induction names generalizing first with
  | nil => simp
  | cons name names ih =>
    obtain ⟨head, tail⟩ := ih (min first name)
    rw [List.foldl_cons]
    refine ⟨head.trans (min_le_left _ _), ?_⟩
    intro other member
    rcases List.mem_cons.mp member with same | later
    · rw [same]
      exact head.trans (min_le_right _ _)
    · exact tail other later

theorem foldl_min_mem (names : List String) (first : String) :
    names.foldl min first = first ∨ names.foldl min first ∈ names := by
  induction names generalizing first with
  | nil => exact .inl rfl
  | cons name names ih =>
    rw [List.foldl_cons]
    rcases ih (min first name) with same | member
    · rw [same]
      rcases min_choice first name with isFirst | isName
      · exact .inl isFirst
      · rw [isName]
        exact .inr List.mem_cons_self
    · exact .inr (List.mem_cons_of_mem _ member)

namespace Fleet.IsDuplicateGroup

variable {fleet : Fleet} {group : List String}

theorem representative_mem (isGroup : fleet.IsDuplicateGroup group) {member : String}
    (inGroup : member ∈ group) : fleet.duplicateGroupRepresentative member ∈ group := by
  unfold duplicateGroupRepresentative
  rw [if_pos (isGroup.loaded member inGroup)]
  rcases foldl_min_mem (fleet.loadedDuplicates member) member with same | duplicate
  · rw [same]
    exact inGroup
  · exact ((isGroup.inside member inGroup _).mp duplicate).1

variable {member other : String}

section

variable (isGroup : fleet.IsDuplicateGroup group) (inGroup : member ∈ group)

include isGroup inGroup

theorem representative_le (otherInGroup : other ∈ group) :
    fleet.duplicateGroupRepresentative member ≤ other := by
  unfold duplicateGroupRepresentative
  rw [if_pos (isGroup.loaded member inGroup)]
  obtain ⟨leMember, leDuplicate⟩ := foldl_min_le (fleet.loadedDuplicates member) member
  by_cases same : other = member
  · rw [same]
    exact leMember
  · exact leDuplicate other ((isGroup.inside member inGroup other).mpr ⟨otherInGroup, same⟩)

theorem representative_eq (otherInGroup : other ∈ group) :
    fleet.duplicateGroupRepresentative member = fleet.duplicateGroupRepresentative other :=
  le_antisymm (isGroup.representative_le inGroup (isGroup.representative_mem otherInGroup))
    (isGroup.representative_le otherInGroup (isGroup.representative_mem inGroup))

theorem mem_of_representative_eq
    (same : fleet.duplicateGroupRepresentative other = fleet.duplicateGroupRepresentative member) :
    other ∈ group := by
  by_contra notInGroup
  have shared := isGroup.representative_mem inGroup
  rw [← same] at shared
  unfold duplicateGroupRepresentative at shared
  split at shared
  case isTrue isLoaded =>
    rcases foldl_min_mem (fleet.loadedDuplicates other) other with itself | duplicate
    · rw [itself] at shared
      exact notInGroup shared
    · exact isGroup.outside other isLoaded notInGroup _ shared duplicate
  case isFalse => exact notInGroup shared

end

end Fleet.IsDuplicateGroup

end DiagnosticAdapter.Detection
