import DiagnosticAdapter.Mdd.Databases
import Mathlib.Data.List.MinMax

/-!
# Database loading and the order of the files

Revisions and conflicts are resolved one file at a time, so with three files of one name
the outcome depends on their order; the file manager is always that of the last file.
-/

namespace DiagnosticAdapter.Mdd

universe u

section Entry

variable (content : String → MddContent)

def manager (path : String) : EcuManager := (content path).ecuManager path

def entryOf (paths : List String) : Option (EcuManager × EcuMetadata) :=
  paths.foldl (fun entry path => some (updateEntry entry (manager content path) ⟨path, true⟩)) none

def SameAddress (path other : String) : Prop :=
  (manager content path).logicalAddressEq (manager content other) = true

instance (path other : String) : Decidable (SameAddress content path other) :=
  inferInstanceAs (Decidable (_ = true))

/-- At least two files, no two of them with the same addresses. -/
def AllDiffer (paths : List String) : Prop :=
  2 ≤ paths.length ∧ paths.Pairwise fun path other => ¬SameAddress content path other

instance (paths : List String) : Decidable (AllDiffer content paths) :=
  inferInstanceAs (Decidable (_ ∧ _))

variable {content} {first path other third : String} {rest paths : List String} {valid : Bool}

theorem sameAddress_iff : SameAddress content path other ↔
    (content path).logicalAddress = (content other).logicalAddress ∧
      (content path).logicalGatewayAddress = (content other).logicalGatewayAddress := by
  simp [SameAddress, EcuManager.logicalAddressEq, manager, MddContent.ecuManager]

theorem SameAddress.refl (path : String) : SameAddress content path path :=
  sameAddress_iff.mpr ⟨rfl, rfl⟩

theorem SameAddress.symm (same : SameAddress content path other) :
    SameAddress content other path := by
  rw [sameAddress_iff] at same ⊢
  exact ⟨same.1.symm, same.2.symm⟩

theorem SameAddress.trans (same : SameAddress content path other)
    (next : SameAddress content other third) : SameAddress content path third := by
  rw [sameAddress_iff] at same next ⊢
  exact ⟨same.1.trans next.1, same.2.trans next.2⟩

theorem entryOf_concat (paths : List String) (path : String) : entryOf content (paths ++ [path]) =
      some (updateEntry (entryOf content paths) (manager content path) ⟨path, true⟩) :=
  List.foldl_concat ..

theorem updateEntry_of_differ (differ : ¬SameAddress content path other) :
    updateEntry (some (manager content other, ⟨other, valid⟩)) (manager content path) ⟨path, true⟩ =
      (manager content other, ⟨other, false⟩) := by
  have unequal : (manager content path).logicalAddressEq (manager content other) = false :=
    Bool.eq_false_iff.mpr differ
  simp [updateEntry, unequal]

/-- A newer one with the same addresses replaces it, and forgets that it was invalid. -/
theorem updateEntry_of_newer (same : SameAddress content path other)
    (newer : (content other).revision < (content path).revision) :
    updateEntry (some (manager content other, ⟨other, valid⟩)) (manager content path) ⟨path, true⟩ =
      (manager content path, ⟨path, true⟩) := by
  rw [updateEntry, same, if_neg (by simp)]
  exact if_pos newer

theorem updateEntry_of_older (same : SameAddress content path other)
    (older : ¬(content other).revision < (content path).revision) :
    updateEntry (some (manager content other, ⟨other, valid⟩)) (manager content path) ⟨path, true⟩ =
      (manager content other, ⟨other, valid⟩) := by
  rw [updateEntry, same, if_neg (by simp)]
  exact if_neg older

variable (content) in
theorem exists_entryOf (first : String) (rest : List String) : ∃ path ∈ first :: rest, ∃ valid,
      entryOf content (first :: rest) = some (manager content path, ⟨path, valid⟩) ∧
        SameAddress content path first := by
  induction rest using List.reverseRecOn with
  | nil => exact ⟨first, by simp, true, rfl, .refl first⟩
  | append_singleton rest next ih =>
    obtain ⟨path, mem, valid, entry, same⟩ := ih
    rw [← List.cons_append, entryOf_concat, entry]
    by_cases agrees : SameAddress content next path
    · by_cases newer : (content path).revision < (content next).revision
      · rw [updateEntry_of_newer agrees newer]
        exact ⟨next, by simp, true, rfl, agrees.trans same⟩
      · rw [updateEntry_of_older agrees newer]
        exact ⟨path, List.mem_append_left _ mem, valid, rfl, same⟩
    · rw [updateEntry_of_differ agrees]
      exact ⟨path, List.mem_append_left _ mem, false, rfl, same⟩

theorem entryOf_of_differ
    (differ : (first :: rest).Pairwise fun path other => ¬SameAddress content path other) :
    entryOf content (first :: rest) = some (manager content first, ⟨first, rest.isEmpty⟩) := by
  induction rest using List.reverseRecOn with
  | nil => rfl
  | append_singleton rest next ih =>
    rw [← List.cons_append, List.pairwise_append] at differ
    obtain ⟨before, -, last⟩ := differ
    rw [← List.cons_append, entryOf_concat, ih before, updateEntry_of_differ]
    · simp
    · intro same
      exact last first (by simp) next (by simp) same.symm

theorem entryOf_of_newest_last (same : SameAddress content path first)
    (newest : ∀ other ∈ first :: rest, SameAddress content other first →
      (content other).revision < (content path).revision) :
    entryOf content (first :: rest ++ [path]) = some (manager content path, ⟨path, true⟩) := by
  obtain ⟨other, mem, valid, entry, agrees⟩ := exists_entryOf content first rest
  rw [entryOf_concat, entry, updateEntry_of_newer (same.trans agrees.symm)
    (newest other mem agrees)]

end Entry

section Maps

variable (content : String → MddContent)

def named (ecuName : String) (paths : List String) : List String :=
  paths.filter fun path => (content path).ecuName == ecuName

def loadedMaps (paths : List String) : LoadedEcuMap × LoadedFileManagers :=
  paths.foldl (fun maps path => insertMdd maps path (content path)) (∅, ∅)

variable {content} {paths : List String} {path ecuName : String}

theorem mem_named : path ∈ named content ecuName paths ↔
    path ∈ paths ∧ (content path).ecuName = ecuName := by
  simp [named]

theorem named_concat (paths : List String) (path ecuName : String) :
    named content ecuName (paths ++ [path]) =
      if (content path).ecuName = ecuName then named content ecuName paths ++ [path]
      else named content ecuName paths := by
  rw [named, List.filter_append]
  split <;> simp [named, *]

theorem loadedMaps_concat (paths : List String) (path : String) :
    loadedMaps content (paths ++ [path]) =
      insertMdd (loadedMaps content paths) path (content path) :=
  List.foldl_concat ..

theorem lookup_loadedEcus (paths : List String) (ecuName : String) :
    (loadedMaps content paths).1.lookup ecuName =
      entryOf content (named content ecuName paths) := by
  induction paths using List.reverseRecOn with
  | nil => rfl
  | append_singleton paths path ih =>
    rw [loadedMaps_concat, named_concat, insertMdd, insertOrUpdateEcu]
    by_cases mine : (content path).ecuName = ecuName
    · subst mine
      rw [if_pos rfl, AList.lookup_insert, entryOf_concat, ih]
      rfl
    · rw [if_neg mine, AList.lookup_insert_ne (Ne.symm mine), ih]

theorem lookup_fileManagersMap (paths : List String) (ecuName : String) :
    (loadedMaps content paths).2.lookup ecuName =
      (named content ecuName paths).getLast?.map fun path => (content path).fileManager path := by
  induction paths using List.reverseRecOn with
  | nil => rfl
  | append_singleton paths path ih =>
    rw [loadedMaps_concat, named_concat, insertMdd]
    by_cases mine : (content path).ecuName = ecuName
    · subst mine
      rw [if_pos rfl, AList.lookup_insert, List.getLast?_concat, Option.map_some]
    · rw [if_neg mine, AList.lookup_insert_ne (Ne.symm mine), ih]

theorem foldlM_loadMdd {config : Configuration} {store : MddStore}
    (loads : ∀ path ∈ paths, store path = .ok (content path))
    (maps : LoadedEcuMap × LoadedFileManagers) :
    paths.foldlM (loadMdd config store) maps =
      .ok (paths.foldl (fun maps path => insertMdd maps path (content path)) maps) := by
  induction paths generalizing maps with
  | nil => rfl
  | cons path paths ih =>
    rw [List.foldlM_cons, loadMdd, loads path List.mem_cons_self]
    exact ih (fun other mem => loads other (List.mem_cons_of_mem _ mem)) _

end Maps

section Collect

variable {Value : Type u} {toLowercase : String → String}
  {entries : List (Σ _ : String, Value)} {ecuName : String} {value : Value}

theorem collect_append (entries others : List (Σ _ : String, Value)) :
    collect toLowercase (entries ++ others) ecuName =
      (collect toLowercase others ecuName).or (collect toLowercase entries ecuName) := by
  induction others using List.reverseRecOn with
  | nil => simp [collect]
  | append_singleton others entry ih =>
    rw [← List.append_assoc, collect, List.foldl_concat, collect, List.foldl_concat]
    by_cases mine : ecuName = toLowercase entry.1
    · subst mine
      simp
    · rw [Function.update_of_ne mine, Function.update_of_ne mine]
      exact ih

theorem collect_eq_none_iff : collect toLowercase entries ecuName = none ↔
      ∀ entry ∈ entries, toLowercase entry.1 ≠ ecuName := by
  induction entries using List.reverseRecOn with
  | nil => simp [collect]
  | append_singleton entries entry ih =>
    rw [collect_append, Option.or_eq_none_iff, ih]
    by_cases mine : ecuName = toLowercase entry.1
    · subst mine
      simp [collect]
    · simp only [collect, List.foldl_cons, List.foldl_nil, Function.update_of_ne mine, true_and,
        List.mem_append, List.mem_singleton]
      constructor
      · rintro others _ (mem | rfl)
        · exact others _ mem
        · exact Ne.symm mine
      · intro others other mem
        exact others other (.inl mem)

theorem collect_eq_some (found : ∃ entry ∈ entries, toLowercase entry.1 = ecuName)
    (unique : ∀ entry ∈ entries, toLowercase entry.1 = ecuName → entry.2 = value) :
    collect toLowercase entries ecuName = some value := by
  induction entries using List.reverseRecOn with
  | nil => simp at found
  | append_singleton entries entry ih =>
    rw [collect_append]
    by_cases mine : ecuName = toLowercase entry.1
    · subst mine
      simp [collect, unique entry (by simp) rfl]
    · simp only [collect, List.foldl_cons, List.foldl_nil, Function.update_of_ne mine,
        Option.none_or]
      obtain ⟨other, mem, same⟩ := found
      obtain before | rfl : other ∈ entries ∨ other = entry := by simpa using mem
      · exact ih ⟨other, before, same⟩
          fun other mem => unique other (List.mem_append_left _ mem)
      · exact absurd same.symm mine

variable {order : HashOrder} {loadedEcus : LoadedEcuMap} {fileManagersMap : LoadedFileManagers}

theorem mem_validEntries {entry : Σ _ : String, EcuManager} :
    entry ∈ ((order.ecus loadedEcus.entries).filter (·.2.2.valid)).map
        (fun entry => (⟨entry.1, entry.2.1⟩ : Σ _ : String, EcuManager)) ↔
      ∃ mddPath, loadedEcus.lookup entry.1 = some (entry.2, ⟨mddPath, true⟩) := by
  obtain ⟨name, ecuManager⟩ := entry
  simp only [List.mem_map, List.mem_filter, (order.permutesEcus _).mem_iff]
  constructor
  · rintro ⟨⟨name, ecuManager, mddPath, valid⟩, ⟨mem, rfl⟩, same⟩
    cases same
    exact ⟨mddPath, AList.mem_lookup_iff.mpr mem⟩
  · rintro ⟨mddPath, found⟩
    exact ⟨⟨name, ecuManager, mddPath, true⟩, ⟨AList.mem_lookup_iff.mp found, rfl⟩, rfl⟩

theorem mem_keptEntries {databases : String → Option EcuManager}
    {entry : Σ _ : String, FileManager} :
    entry ∈ (order.files fileManagersMap.entries).filter
        (fun entry => (databases (toLowercase entry.1)).isSome) ↔
      fileManagersMap.lookup entry.1 = some entry.2 ∧
        (databases (toLowercase entry.1)).isSome = true := by
  rw [List.mem_filter, (order.permutesFiles _).mem_iff, ← Option.mem_def, AList.mem_lookup_iff]

end Collect

section Files

variable (toLowercase : String → String) (content : String → MddContent)
  (mddPaths : List String)

/-- Two files of the name, in any letter case, have different addresses. -/
def Conflict (ecuName : String) : Prop :=
  ∃ path ∈ mddPaths, ∃ other ∈ mddPaths, toLowercase (content path).ecuName = ecuName ∧
    toLowercase (content other).ecuName = ecuName ∧ ¬SameAddress content path other

structure Resolved (loaded : Databases) : Prop where
  absent : ∀ ecuName, (∀ path ∈ mddPaths, toLowercase (content path).ecuName ≠ ecuName) →
    loaded.databases ecuName = none ∧ loaded.fileManagers ecuName = none
  conflicting : ∀ ecuName, Conflict toLowercase content mddPaths ecuName →
    loaded.databases ecuName = none ∧ loaded.fileManagers ecuName = none
  newest : ∀ path ∈ mddPaths,
    ¬Conflict toLowercase content mddPaths (toLowercase (content path).ecuName) →
    (∀ other ∈ mddPaths, toLowercase (content other).ecuName = toLowercase (content path).ecuName →
        (content other).revision ≤ (content path).revision) →
    loaded.databases (toLowercase (content path).ecuName) = some (manager content path) ∧
      loaded.fileManagers (toLowercase (content path).ecuName) =
        some ((content path).fileManager path)

/-- Where two files have one name up to letter case, every exact name of it has two files or
more, and all files of an exact name have different addresses. -/
def OrderFree : Prop :=
  ∀ path ∈ mddPaths, ∀ other ∈ mddPaths, path ≠ other →
    toLowercase (content path).ecuName = toLowercase (content other).ecuName →
      AllDiffer content (named content (content path).ecuName mddPaths)

instance : Decidable (OrderFree toLowercase content mddPaths) :=
  inferInstanceAs (Decidable (∀ path ∈ mddPaths, ∀ other ∈ mddPaths, _))

def resultOf (order : HashOrder) (paths : List String) : Databases :=
  let databases := validDatabases toLowercase order (loadedMaps content paths).1
  ⟨databases, keptFileManagers toLowercase order databases (loadedMaps content paths).2⟩

variable {toLowercase content mddPaths} {order : HashOrder} {paths : List String}
  {path other ecuName : String}

section

variable {store : MddStore} (loads : ∀ path ∈ paths, store path = .ok (content path))

include loads

theorem loadDatabases_ok {config : Configuration} {loaded : Databases}
    (returned : loadDatabases toLowercase config store order paths = .ok loaded) :
    loaded = resultOf toLowercase content order paths := by
  rw [loadDatabases, foldlM_loadMdd loads] at returned
  simp only [bind, Except.bind] at returned
  split at returned
  · cases returned
  · cases returned
    rfl

theorem loadDatabases_of_loads :
    loadDatabases toLowercase ⟨false, false, []⟩ store order paths =
      .ok (resultOf toLowercase content order paths) := by
  rw [loadDatabases, foldlM_loadMdd loads]
  rfl

end

theorem databases_eq_none (invalid : ∀ name, toLowercase name = ecuName → ∀ ecuManager mddPath,
      entryOf content (named content name paths) ≠ some (ecuManager, ⟨mddPath, true⟩)) :
    (resultOf toLowercase content order paths).databases ecuName = none ∧
      (resultOf toLowercase content order paths).fileManagers ecuName = none := by
  have none : (resultOf toLowercase content order paths).databases ecuName = Option.none := by
    refine collect_eq_none_iff.mpr fun entry mem same => ?_
    obtain ⟨mddPath, found⟩ := mem_validEntries.mp mem
    rw [lookup_loadedEcus] at found
    exact invalid entry.1 same entry.2 mddPath found
  refine ⟨none, collect_eq_none_iff.mpr fun entry mem same => ?_⟩
  obtain ⟨-, kept⟩ := mem_keptEntries.mp mem
  rw [same] at kept
  exact Option.isSome_iff_ne_none.mp kept none

theorem databases_ne_none {ecuManager : EcuManager} {mddPath : String}
    (valid : entryOf content (named content ecuName paths) = some (ecuManager, ⟨mddPath, true⟩)) :
    (resultOf toLowercase content order paths).databases (toLowercase ecuName) ≠ none := by
  intro none
  refine collect_eq_none_iff.mp none ⟨ecuName, ecuManager⟩ (mem_validEntries.mpr ⟨mddPath, ?_⟩) rfl
  rw [lookup_loadedEcus, valid]

theorem resultOf_single (perm : paths.Perm mddPaths) (nodup : mddPaths.Nodup)
    (mem : path ∈ mddPaths)
    (single : ∀ other ∈ mddPaths,
      toLowercase (content other).ecuName = toLowercase (content path).ecuName → other = path) :
    (resultOf toLowercase content order paths).databases (toLowercase (content path).ecuName) =
        some (manager content path) ∧
      (resultOf toLowercase content order paths).fileManagers
          (toLowercase (content path).ecuName) = some ((content path).fileManager path) := by
  have only : ∀ name, toLowercase name = toLowercase (content path).ecuName →
      ∀ other ∈ named content name paths, other = path := by
    intro name same other listed
    obtain ⟨others, rfl⟩ := mem_named.mp listed
    exact single other (perm.mem_iff.mp others) same
  have itself : named content (content path).ecuName paths = [path] := by
    have unique := (perm.nodup_iff.mpr nodup).filter
      fun other => (content other).ecuName == (content path).ecuName
    apply List.perm_singleton.mp
    apply (List.perm_ext_iff_of_nodup unique (List.nodup_singleton path)).mpr
    intro other
    rw [List.mem_singleton]
    constructor
    · exact only _ rfl other
    · rintro rfl
      exact mem_named.mpr ⟨perm.mem_iff.mpr mem, rfl⟩
  have databases : (resultOf toLowercase content order paths).databases
      (toLowercase (content path).ecuName) = some (manager content path) := by
    refine collect_eq_some ⟨⟨(content path).ecuName, manager content path⟩, ?_, rfl⟩ ?_
    · rw [mem_validEntries, lookup_loadedEcus, itself]
      exact ⟨path, rfl⟩
    · intro entry listed same
      obtain ⟨mddPath, found⟩ := mem_validEntries.mp listed
      rw [lookup_loadedEcus] at found
      cases kept : named content entry.1 paths with
      | nil =>
        rw [kept] at found
        cases found
      | cons first rest =>
        obtain ⟨source, among, valid, entry', -⟩ := exists_entryOf content first rest
        rw [kept, entry'] at found
        have sameManager := (Prod.mk.inj (Option.some.inj found)).1
        rw [← sameManager, only _ same source (by rw [kept]; exact among)]
  refine ⟨databases, collect_eq_some ⟨⟨(content path).ecuName,
    (content path).fileManager path⟩, ?_, rfl⟩ ?_⟩
  · rw [mem_keptEntries, lookup_fileManagersMap, itself]
    exact ⟨rfl, Option.isSome_iff_exists.mpr ⟨_, databases⟩⟩
  · intro entry listed same
    obtain ⟨found, -⟩ := mem_keptEntries.mp listed
    rw [lookup_fileManagersMap] at found
    obtain ⟨source, last, value⟩ := Option.map_eq_some_iff.mp found
    rw [← value, only _ same source (List.mem_of_getLast? last)]

theorem allDiffer_perm (differ : AllDiffer content paths) {others : List String}
    (perm : others.Perm paths) : AllDiffer content others :=
  ⟨perm.length_eq ▸ differ.1, (perm.pairwise_iff fun differ same => differ same.symm).mpr differ.2⟩

theorem entryOf_of_allDiffer (differ : AllDiffer content paths) (ecuManager : EcuManager)
    (mddPath : String) : entryOf content paths ≠ some (ecuManager, ⟨mddPath, true⟩) := by
  obtain ⟨several, differ⟩ := differ
  match paths, several, differ with
  | first :: second :: rest, _, differ =>
    rw [entryOf_of_differ differ]
    simp

theorem resolved_of_orderFree (nodup : mddPaths.Nodup)
    (orderFree : OrderFree toLowercase content mddPaths) (perm : paths.Perm mddPaths) :
    Resolved toLowercase content mddPaths (resultOf toLowercase content order paths) := by
  constructor
  · intro ecuName absent
    refine databases_eq_none fun name same ecuManager mddPath => ?_
    have nothing : named content name paths = [] := by
      refine List.filter_eq_nil_iff.mpr fun path mem named => ?_
      refine absent path (perm.mem_iff.mp mem) ?_
      rw [beq_iff_eq.mp named, same]
    rw [nothing]
    exact nofun
  · rintro ecuName ⟨path, mem, other, others, rfl, same, differ⟩
    have distinct : path ≠ other := by
      rintro rfl
      exact differ (.refl path)
    refine databases_eq_none fun name here ecuManager mddPath => ?_
    cases kept : named content name paths with
    | nil => exact nofun
    | cons first rest =>
      obtain ⟨listed, rfl⟩ := mem_named.mp (show first ∈ named content name paths by
        rw [kept]
        exact List.mem_cons_self)
      have firstMember := perm.mem_iff.mp listed
      have partner : ∃ second ∈ mddPaths, first ≠ second ∧
          toLowercase (content first).ecuName = toLowercase (content second).ecuName := by
        by_cases itself : first = path
        · exact ⟨other, others, itself ▸ distinct, here.trans same.symm⟩
        · exact ⟨path, mem, itself, here⟩
      obtain ⟨second, secondMember, apart, sameName⟩ := partner
      rw [← kept]
      exact entryOf_of_allDiffer (allDiffer_perm
        (orderFree first firstMember second secondMember apart sameName)
        (perm.filter _)) ecuManager mddPath
  · intro path mem agreeing newest
    refine resultOf_single perm nodup mem fun other others same => ?_
    by_contra distinct
    obtain ⟨several, differ⟩ := orderFree other others path mem distinct same
    match kept : named content (content other).ecuName mddPaths, several, differ with
    | first :: second :: rest, _, differ =>
      have listed : ∀ third ∈ first :: second :: rest, third ∈ mddPaths ∧
          toLowercase (content third).ecuName = toLowercase (content path).ecuName := by
        intro third among
        rw [← kept] at among
        obtain ⟨thirdMember, named⟩ := mem_named.mp among
        exact ⟨thirdMember, by rw [named, same]⟩
      obtain ⟨firstMember, firstNamed⟩ := listed first (by simp)
      obtain ⟨secondMember, secondNamed⟩ := listed second (by simp)
      exact agreeing ⟨first, firstMember, second, secondMember, firstNamed, secondNamed,
        (List.pairwise_cons.mp differ).1 second (by simp)⟩

variable (content) in
theorem exists_newest (mem : path ∈ paths) : ∃ newest ∈ paths, ∀ other ∈ paths,
      (content other).revision ≤ (content newest).revision := by
  let revision := fun other => (content other).revision
  cases maximal : paths.argmax revision with
  | none =>
    rw [List.argmax_eq_none.mp maximal] at mem
    exact absurd mem List.not_mem_nil
  | some newest =>
    refine ⟨newest, List.argmax_mem maximal, fun other listed => ?_⟩
    exact List.le_of_mem_argmax (f := revision) listed maximal

theorem exists_entryOf_valid (nodup : paths.Nodup) (kept : path ∈ paths)
    (distinct : ∀ path ∈ paths, ∀ other ∈ paths, path ≠ other →
      (content path).revision ≠ (content other).revision)
    (agreeing : ¬AllDiffer content paths) :
    ∃ others, others.Perm paths ∧
      ∃ source, entryOf content others = some (manager content source, ⟨source, true⟩) := by
  by_cases several : 2 ≤ paths.length
  · have pair : ∃ first ∈ paths, ∃ second ∈ paths, first ≠ second ∧
        SameAddress content first second := by
      by_contra none
      refine agreeing ⟨several,
        nodup.pairwise_of_forall_ne fun first mem second among apart same => ?_⟩
      exact none ⟨first, mem, second, among, apart, same⟩
    obtain ⟨first, mem, second, among, apart, same⟩ := pair
    let alike := paths.filter fun other =>
      (manager content other).logicalAddressEq (manager content first)
    have mem_alike : ∀ other, other ∈ alike ↔ other ∈ paths ∧ SameAddress content other first :=
      fun other => List.mem_filter
    obtain ⟨newest, newestAlike, maximal⟩ := exists_newest content
      ((mem_alike first).mpr ⟨mem, .refl first⟩)
    obtain ⟨newestMember, newestSame⟩ := (mem_alike newest).mp newestAlike
    obtain ⟨older, olderMember, olderSame, differs⟩ :
        ∃ older ∈ paths, SameAddress content older first ∧ older ≠ newest := by
      by_cases isFirst : first = newest
      · exact ⟨second, among, same.symm, fun equal => apart (isFirst.trans equal.symm)⟩
      · exact ⟨first, mem, .refl first, isFirst⟩
    have before : (older :: (paths.erase newest).erase older).Perm (paths.erase newest) :=
      (List.perm_cons_erase (List.mem_erase_of_ne differs |>.mpr olderMember)).symm
    refine ⟨older :: (paths.erase newest).erase older ++ [newest], ?_, newest,
      entryOf_of_newest_last (newestSame.trans olderSame.symm) ?_⟩
    · exact ((before.append_right [newest]).trans (List.perm_append_singleton ..)).trans
        (List.perm_cons_erase newestMember).symm
    · intro other listed agrees
      have remaining := before.mem_iff.mp listed
      have otherMember := List.mem_of_mem_erase remaining
      have notNewer := maximal other ((mem_alike other).mpr ⟨otherMember, agrees.trans olderSame⟩)
      refine lt_of_le_of_ne notNewer ?_
      refine distinct other otherMember newest newestMember ?_
      rintro rfl
      exact nodup.not_mem_erase remaining
  · match paths, List.length_pos_of_mem kept, Nat.lt_of_not_le several with
    | [single], _, _ => exact ⟨[single], .refl _, single, rfl⟩

def HashOrder.lastName (ecuName : String) : HashOrder where
  ecus entries := entries
  files entries := entries.filter (fun entry => !(entry.1 == ecuName)) ++
    entries.filter fun entry => entry.1 == ecuName
  permutesEcus _ := .refl _
  permutesFiles entries := List.perm_append_comm.trans (List.filter_append_perm _ entries)

theorem HashOrder.lastName_files (ecuName : String) (entries : List (Σ _ : String, FileManager)) :
    (HashOrder.lastName ecuName).files entries =
      entries.filter (fun entry => !(entry.1 == ecuName)) ++
        entries.filter (fun entry => entry.1 == ecuName) :=
  rfl

theorem fileManagers_of_last
    (kept : ((resultOf toLowercase content (.lastName ecuName) paths).databases
      (toLowercase ecuName)).isSome = true)
    (last : (named content ecuName paths).getLast? = some path) :
    (resultOf toLowercase content (.lastName ecuName) paths).fileManagers (toLowercase ecuName) =
      some ((content path).fileManager path) := by
  have found : (loadedMaps content paths).2.lookup ecuName =
      some ((content path).fileManager path) := by
    rw [lookup_fileManagersMap, last, Option.map_some]
  have value : collect toLowercase (((loadedMaps content paths).2.entries.filter
      fun entry => entry.1 == ecuName).filter fun entry =>
        ((resultOf toLowercase content (.lastName ecuName) paths).databases
          (toLowercase entry.1)).isSome) (toLowercase ecuName) =
      some ((content path).fileManager path) := by
    refine collect_eq_some ?_ ?_
    · refine ⟨⟨ecuName, (content path).fileManager path⟩, ?_, rfl⟩
      refine List.mem_filter.mpr ⟨List.mem_filter.mpr ⟨AList.mem_lookup_iff.mp found, ?_⟩, kept⟩
      exact beq_self_eq_true ecuName
    · intro entry mem _
      obtain ⟨listed, -⟩ := List.mem_filter.mp mem
      obtain ⟨inMap, named⟩ := List.mem_filter.mp listed
      obtain ⟨name, fileManager⟩ := entry
      obtain rfl := beq_iff_eq.mp named
      have value := AList.mem_lookup_iff.mpr inMap
      rw [found] at value
      exact (Option.some.inj value).symm
  calc (resultOf toLowercase content (.lastName ecuName) paths).fileManagers (toLowercase ecuName)
    _ = _ := by
        simp only [resultOf, keptFileManagers]
        rw [HashOrder.lastName_files, List.filter_append, collect_append]
    _ = _ := by
        simp only [resultOf] at value
        rw [value, Option.some_or]

theorem conflict_of_resolved (resolved : ∀ order paths, paths.Perm mddPaths →
      Resolved toLowercase content mddPaths (resultOf toLowercase content order paths))
    (mem : path ∈ mddPaths) (among : other ∈ mddPaths) (apart : path ≠ other)
    (sameName : toLowercase (content path).ecuName = toLowercase (content other).ecuName) :
    Conflict toLowercase content mddPaths (toLowercase (content path).ecuName) := by
  by_contra agreeing
  let group := mddPaths.filter fun third =>
    toLowercase (content third).ecuName == toLowercase (content path).ecuName
  have mem_group : ∀ third, third ∈ group ↔ third ∈ mddPaths ∧
      toLowercase (content third).ecuName = toLowercase (content path).ecuName := by
    simp [group]
  obtain ⟨newest, newestInGroup, maximal⟩ := exists_newest content
    ((mem_group path).mpr ⟨mem, rfl⟩)
  obtain ⟨newestMember, newestName⟩ := (mem_group newest).mp newestInGroup
  obtain ⟨older, olderMember, olderName, differs⟩ : ∃ older ∈ mddPaths,
      toLowercase (content older).ecuName = toLowercase (content path).ecuName ∧
        older ≠ newest := by
    by_cases isFirst : path = newest
    · exact ⟨other, among, sameName.symm, fun equal => apart (isFirst.trans equal.symm)⟩
    · exact ⟨path, mem, rfl, isFirst⟩
  have perm : (mddPaths.erase older ++ [older]).Perm mddPaths :=
    (List.perm_append_singleton ..).trans (List.perm_cons_erase olderMember).symm
  obtain ⟨databases, fileManagers⟩ :=
    (resolved (.lastName (content older).ecuName) _ perm).newest newest newestMember
      (newestName ▸ agreeing) fun third listed same =>
        maximal third ((mem_group third).mpr ⟨listed, same.trans newestName⟩)
  rw [newestName, ← olderName] at databases fileManagers
  have wrong := fileManagers_of_last (Option.isSome_iff_exists.mpr ⟨_, databases⟩)
    (show (named content (content older).ecuName (mddPaths.erase older ++ [older])).getLast? =
      some older by rw [named_concat, if_pos rfl, List.getLast?_concat])
  rw [fileManagers] at wrong
  exact differs (congrArg FileManager.mddPath (Option.some.inj wrong)).symm

theorem orderFree_of_resolved (nodup : mddPaths.Nodup)
    (distinct : ∀ path ∈ mddPaths, ∀ other ∈ mddPaths, path ≠ other →
      toLowercase (content path).ecuName = toLowercase (content other).ecuName →
        (content path).revision ≠ (content other).revision)
    (resolved : ∀ order paths, paths.Perm mddPaths →
      Resolved toLowercase content mddPaths (resultOf toLowercase content order paths)) :
    OrderFree toLowercase content mddPaths := by
  intro path mem other among apart sameName
  have conflict := conflict_of_resolved resolved mem among apart sameName
  by_contra agreeing
  have others := nodup.filter fun third => (content third).ecuName == (content path).ecuName
  obtain ⟨front, perm, source, valid⟩ := exists_entryOf_valid others
    (mem_named.mpr ⟨mem, rfl⟩) (fun third listed fourth listed' apart => by
      obtain ⟨thirdMember, thirdName⟩ := mem_named.mp listed
      obtain ⟨fourthMember, fourthName⟩ := mem_named.mp listed'
      exact distinct third thirdMember fourth fourthMember apart
        (congrArg toLowercase (thirdName.trans fourthName.symm))) agreeing
  let back := mddPaths.filter fun third => !((content third).ecuName == (content path).ecuName)
  have ordered : (front ++ back).Perm mddPaths :=
    (perm.append_right back).trans (List.filter_append_perm _ mddPaths)
  have only : named content (content path).ecuName (front ++ back) = front := by
    rw [named, List.filter_append, List.filter_eq_self.mpr, List.filter_eq_nil_iff.mpr,
      List.append_nil]
    · intro third listed
      have otherName := (List.mem_filter.mp listed).2
      simpa using otherName
    · intro third listed
      exact (List.mem_filter.mp (perm.mem_iff.mp listed)).2
  rw [← only] at valid
  exact databases_ne_none valid ((resolved (.lastName "") _ ordered).conflicting _ conflict).1

/-- Every order of the files gives what is to be loaded if and only if the files of a name are
one, or conflict pairwise. -/
theorem resolved_iff (toLowercase : String → String) (content : String → MddContent)
    (store : MddStore) (mddPaths : List String) (nodup : mddPaths.Nodup)
    (distinct : ∀ path ∈ mddPaths, ∀ other ∈ mddPaths, path ≠ other →
      toLowercase (content path).ecuName = toLowercase (content other).ecuName →
        (content path).revision ≠ (content other).revision)
    (loads : ∀ path ∈ mddPaths, store path = .ok (content path)) :
    (∀ config order paths, paths.Perm mddPaths → ∀ loaded,
      loadDatabases toLowercase config store order paths = .ok loaded →
        Resolved toLowercase content mddPaths loaded) ↔
      OrderFree toLowercase content mddPaths := by
  constructor
  · intro resolved
    refine orderFree_of_resolved nodup distinct fun order paths perm => ?_
    exact resolved ⟨false, false, []⟩ order paths perm _
      (loadDatabases_of_loads fun path mem => loads path (perm.mem_iff.mp mem))
  · intro orderFree config order paths perm loaded returned
    rw [loadDatabases_ok (fun path mem => loads path (perm.mem_iff.mp mem)) returned]
    exact resolved_of_orderFree nodup orderFree perm

def lowercase (text : String) : String := String.ofList (text.toList.map Char.toLower)

def flxcContent (logicalAddress : UInt16) (revision : String) : MddContent :=
  ⟨"FLXC1000", logicalAddress, 0x1000, revision, ["flash"]⟩

def conflictContent (path : String) : MddContent :=
  if path = "a.mdd" then flxcContent 0x1001 "1.0"
  else if path = "b.mdd" then flxcContent 0x1002 "2.0"
  else { flxcContent 0x2001 "1.0" with ecuName := "FSNR2000" }

theorem conflict_and_single_resolved :
    OrderFree lowercase conflictContent ["a.mdd", "b.mdd", "c.mdd"] ∧
      ∀ config order paths, paths.Perm ["a.mdd", "b.mdd", "c.mdd"] → ∀ loaded,
        loadDatabases lowercase config (fun path => .ok (conflictContent path)) order paths =
          .ok loaded →
        Resolved lowercase conflictContent ["a.mdd", "b.mdd", "c.mdd"] loaded :=
  ⟨by decide, (resolved_iff lowercase conflictContent (fun path => .ok (conflictContent path))
    ["a.mdd", "b.mdd", "c.mdd"] (by decide) (by decide) (fun _ _ => rfl)).mpr (by decide)⟩

/-- The newest of three files has the addresses of the oldest, and the one between them others. -/
def revalidatedContent (path : String) : MddContent :=
  if path = "a.mdd" then flxcContent 0x1001 "1.0"
  else if path = "b.mdd" then flxcContent 0x1002 "2.0"
  else flxcContent 0x1001 "3.0"

/-- The newest file makes the entry valid again, though two files conflict. -/
theorem revalidated_not_resolved :
    ¬ ∀ (toLowercase : String → String) (content : String → MddContent) (store : MddStore)
        (mddPaths : List String), mddPaths.Nodup →
      (∀ path ∈ mddPaths, ∀ other ∈ mddPaths, path ≠ other →
        toLowercase (content path).ecuName = toLowercase (content other).ecuName →
          (content path).revision ≠ (content other).revision) →
      (∀ path ∈ mddPaths, store path = .ok (content path)) →
      ∀ config order paths, paths.Perm mddPaths → ∀ loaded,
        loadDatabases toLowercase config store order paths = .ok loaded →
          Resolved toLowercase content mddPaths loaded := by
  intro everyLoadResolved
  have resolved := everyLoadResolved lowercase revalidatedContent
    (fun path => .ok (revalidatedContent path)) ["a.mdd", "b.mdd", "c.mdd"] (by decide) (by decide) (fun _ _ => rfl) ⟨false, false, []⟩
    ⟨id, id, fun _ => .refl _, fun _ => .refl _⟩ _ (.refl _) _ rfl
  have none := (resolved.conflicting "flxc1000"
    ⟨"a.mdd", by decide, "b.mdd", by decide, by decide, by decide, by decide⟩).1
  exact absurd none (by decide)

/-- Without any conflict, the older file coming last leaves its file manager. -/
example :
    let content := fun path => flxcContent 0x1001 (if path = "a.mdd" then "2.0" else "1.0")
    let loaded := resultOf lowercase content ⟨id, id, fun _ => .refl _, fun _ => .refl _⟩
      ["a.mdd", "b.mdd"]
    loaded.databases "flxc1000" = some (manager content "a.mdd") ∧
      (loaded.fileManagers "flxc1000").map FileManager.mddPath = some "b.mdd" := by
  decide

end Files

end DiagnosticAdapter.Mdd
