import DiagnosticAdapter.Storage.PointOfNoReturn
import DiagnosticAdapter.Storage.Shown

/-!
# A commit performs its operations

The abstract storage is a map from collections to keys to bytes, and every
operation is a change of that map.  Applying the operations on the disk follows
the map up to backups, which the commit removes at its end.
-/

namespace DiagnosticAdapter.Storage

open Effects Function

/-- What an operation means for the map; `staged` are the files staged for the
transaction. -/
def Operation.perform (staged : FileName → Option Bytes) : Operation → Contents → Contents
  | .write collection key stagedPath, store =>
    update store collection.asStr (some (update ((store collection.asStr).getD fun _ => none) key
        (staged stagedPath)))
  | .delete collection key, store =>
    update store collection.asStr
      ((store collection.asStr).map fun content => update content key none)
  | .deleteAll collection, store =>
    update store collection.asStr ((store collection.asStr).map fun _ _ => none)
  | .createCollection name, store =>
    update store name.asStr (some ((store name.asStr).getD fun _ => none))
  | .deleteCollection name, store => update store name.asStr none
  | .copyCollection source dest _, store => update store dest.asStr (store source.asStr)

/-- What an operation means for the files of the collections. -/
def Operation.performFiles (staged : FileName → Option Bytes) :
    Operation → (FileName → Content) → FileName → Content
  | .write collection key stagedPath, files =>
    update files collection.asStr (update (files collection.asStr) key (staged stagedPath))
  | .delete collection key, files =>
    update files collection.asStr (update (files collection.asStr) key none)
  | .deleteAll collection, files | .deleteCollection collection, files =>
    update files collection.asStr fun _ => none
  | .createCollection _, files => files
  | .copyCollection source dest _, files => update files dest.asStr (files source.asStr)

def performAll (staged : FileName → Option Bytes) (operations : List Operation)
    (store : Contents) : Contents :=
  operations.foldl (fun store operation => operation.perform staged store) store

section Abstract

variable {staged : FileName → Option Bytes} {store : Contents} {operations : List Operation}
  {operation : Operation} {name key : FileName}

theorem file_update (content : Option Content) :
    Contents.file (update store name content) =
      update store.file name (fun key => content.bind fun content => content key) := by
  funext other key
  by_cases same : other = name
  · subst same
    simp [Contents.file]
  · simp [Contents.file, same]

theorem file_perform : (operation.perform staged store).file =
    operation.performFiles staged store.file := by
  cases operation with
  | write collection key stagedPath =>
    rw [Operation.perform, file_update, Operation.performFiles]
    congr 1
    cases stored : store collection.asStr with
    | none =>
      funext other
      simp [update_apply, Contents.file, stored]
    | some content => rw [Contents.file_of_stored stored]; rfl
  | delete collection key =>
    rw [Operation.perform, file_update, Operation.performFiles]
    congr 1
    cases stored : store collection.asStr with
    | none =>
      funext other
      simp [update_apply, Contents.file, stored]
    | some content => rw [Contents.file_of_stored stored]; rfl
  | deleteAll collection =>
    rw [Operation.perform, file_update, Operation.performFiles]
    congr 1
    funext key
    cases store collection.asStr <;> rfl
  | createCollection created =>
    rw [Operation.perform, file_update, Operation.performFiles]
    refine Eq.trans (congrArg _ ?_) (update_eq_self created.asStr store.file)
    funext key
    cases stored : store created.asStr <;> simp [Contents.file, stored]
  | deleteCollection collection => exact file_update none
  | copyCollection source dest destExisted => exact file_update (store source.asStr)

theorem perform_of_not_named (unnamed : name ∉ operation.collectionNames) :
    operation.perform staged store name = store name := by
  cases operation with
  | copyCollection source dest destExisted =>
    have apart : name ≠ dest.asStr := by
      rintro rfl
      simp [Operation.collectionNames] at unnamed
    rw [Operation.perform, update_of_ne apart]
  | _ =>
    rw [Operation.perform, update_of_ne]
    rintro rfl
    simp [Operation.collectionNames] at unnamed

theorem collection_perform (there : operation.perform staged store name ≠ none) :
    name ∈ operation.collectionNames ∨ store name ≠ none := by
  by_cases named : name ∈ operation.collectionNames
  · exact .inl named
  · rw [perform_of_not_named named] at there
    exact .inr there

theorem key_perform (there : (operation.perform staged store).file name key ≠ none) :
    key ∈ operation.keyNames ∨ ∃ other, store.file other key ≠ none := by
  rw [file_perform] at there
  cases operation with
  | write collection changed _ | delete collection changed =>
    by_cases same : name = collection.asStr
    · rw [Operation.performFiles, same, update_self] at there
      by_cases target : key = changed
      · exact .inl (by simp [Operation.keyNames, target])
      · rw [update_of_ne target] at there
        exact .inr ⟨_, there⟩
    · rw [Operation.performFiles, update_of_ne same] at there
      exact .inr ⟨name, there⟩
  | createCollection created => exact .inr ⟨name, there⟩
  | deleteAll collection | deleteCollection collection =>
    by_cases same : name = collection.asStr
    · rw [Operation.performFiles, same, update_self] at there
      exact absurd rfl there
    · rw [Operation.performFiles, update_of_ne same] at there
      exact .inr ⟨name, there⟩
  | copyCollection source dest _ =>
    by_cases same : name = dest.asStr
    · rw [Operation.performFiles, same, update_self] at there
      exact .inr ⟨_, there⟩
    · rw [Operation.performFiles, update_of_ne same] at there
      exact .inr ⟨name, there⟩

end Abstract

section View

variable {contents : Contents} {content : Content} {name key : FileName}

end View

section Steps

variable {staged : FileName → Option Bytes} {store : Contents} {name key : FileName}

/-- From every state with `pre` the program, if it succeeds, leads to `post`. -/
abbrev Leads (pre : Disk → Prop) (program : FileM Unit) (post : Disk → Prop) : Prop :=
  Triple (fun _ _ => True) pre program (fun _ => post) (fun _ => True) (fun _ => True)

theorem leads_call {pre post : Disk → Prop} {change : Disk → Except StorageError Disk}
    (moves : ∀ disk next, pre disk → change disk = .ok next → post next) :
    Leads pre (call change) post := by
  apply Triple.step
  · exact fun _ _ => trivial
  · exact fun _ _ _ _ _ _ => trivial
  · exact fun disk next start changed => ⟨trivial, moves disk next start changed⟩
  · exact fun _ _ _ _ => trivial

/-- In the state the operation is applied to, no file is another spelling of
the key it writes or deletes, and a collection that is copied onto itself is
there and empty. -/
def Operation.Unhindered (contents : Contents) : Operation → Prop
  | .write collection key _ | .delete collection key =>
    keySpelling.Unrivalled (contents.file collection.asStr) key
  | .copyCollection source dest _ =>
    source.asStr = dest.asStr → contents source.asStr = some fun _ => none
  | _ => True

end Steps

/-- The names an operation refers to are neither those of backups nor those of
staging files. -/
def Operation.PlainNames (operation : Operation) : Prop :=
  (∀ name ∈ operation.collectionNames, Original name) ∧ ∀ key ∈ operation.keyNames, Plain key

instance (operation : Operation) : Decidable operation.PlainNames :=
  inferInstanceAs (Decidable ((∀ name ∈ operation.collectionNames, Original name) ∧
    ∀ key ∈ operation.keyNames, Plain key))

def AllUnhindered (staged : FileName → Option Bytes) : List Operation → Contents → Prop
  | [], _ => True
  | operation :: rest, contents =>
    operation.Unhindered contents ∧ AllUnhindered staged rest (operation.perform staged contents)

section Runs

variable {staged : FileName → Option Bytes} {store contents : Contents}
  {operations : List Operation} {operation : Operation}

theorem PlainContents.file (plain : PlainContents store) {name key : FileName}
    (there : store.file name key ≠ none) : Plain key := by
  obtain ⟨content, stored, inside⟩ := Contents.exists_of_file there
  exact plain.keys name content stored key inside

theorem PlainContents.perform (plain : PlainContents store) (named : operation.PlainNames) :
    PlainContents (operation.perform staged store) := by
  refine ⟨fun name there => ?_, fun name content stored key there => ?_⟩
  · rcases collection_perform there with mentioned | before
    · exact named.1 name mentioned
    · exact plain.names name before
  · have found : (operation.perform staged store).file name key ≠ none := by
      simpa [Contents.file, stored] using there
    rcases key_perform found with mentioned | ⟨other, before⟩
    · exact named.2 key mentioned
    · exact plain.file before

theorem PlainContents.performAll (plain : PlainContents store)
    (named : ∀ operation ∈ operations, operation.PlainNames) :
    PlainContents (performAll staged operations store) := by
  induction operations generalizing store with
  | nil => exact plain
  | cons operation rest ih =>
    exact ih (plain.perform (named operation (by simp)))
      fun other mem => named other (List.mem_cons_of_mem operation mem)

theorem perform_eq_none_iff (same : ∀ name, store name = none ↔ contents name = none)
    (name : FileName) :
    operation.perform staged store name = none ↔ operation.perform staged contents name = none := by
  cases operation with
  | write collection _ _ | createCollection collection | deleteCollection collection =>
    by_cases target : name = collection.asStr
    · simp [Operation.perform, target]
    · simp [Operation.perform, target, same name]
  | delete collection _ | deleteAll collection =>
    by_cases target : name = collection.asStr
    · simp [Operation.perform, target, same collection.asStr]
    · simp [Operation.perform, target, same name]
  | copyCollection source dest _ =>
    by_cases target : name = dest.asStr
    · simp [Operation.perform, target, same source.asStr]
    · simp [Operation.perform, target, same name]

/-- A key in normal form that has no other spelling changes in the map as in
the collection. -/
theorem shown_update {files latest : Content} {changed : FileName}
    (valid : isValidKey changed = true)
    (normal : normalizeKey changed = changed) (content : Option Bytes)
    (shown : ∀ key, latest key ≠ none →
      ∃ file, keySpelling.Shown files file ∧ normalizeKey file = key) (key : FileName)
    (there : update latest changed content key ≠ none) :
    ∃ file, keySpelling.Shown (update files changed content) file ∧ normalizeKey file = key := by
  by_cases same : key = changed
  · rw [same, update_self] at there
    exact ⟨changed, ⟨valid, by rwa [update_self]⟩, normal.trans same.symm⟩
  · rw [update_of_ne same] at there
    obtain ⟨file, ⟨listed, stored⟩, spelled⟩ := shown key there
    have apart : file ≠ changed := by
      rintro rfl
      exact same (spelled.symm.trans normal)
    exact ⟨file, ⟨listed, by rwa [update_of_ne apart]⟩, spelled⟩

theorem StandsFor.changed {collection changed : FileName} (stands : StandsFor contents store)
    (plain : Plain changed) (normal : normalizeKey changed = changed)
    (unrivalled : keySpelling.Unrivalled (contents.file collection) changed)
    (content : Option Bytes) (name : FileName) :
    let latest := update store.file collection (update (store.file collection) changed content)
    let files := update contents.file collection
      (update (contents.file collection) changed content)
    keySpelling.Tidy (latest name) (files name) ∧ ∀ key, latest name key ≠ none →
      ∃ file, keySpelling.Shown (files name) file ∧ normalizeKey file = key := by
  intro latest files
  by_cases same : name = collection
  · subst same
    have valid : isValidKey changed = true := by simp [isValidKey, plain.1.2, plain.2]
    simp only [latest, files, update_self]
    exact ⟨(stands.tidy name).change normal unrivalled content,
      shown_update valid normal content (stands.shown name)⟩
  · simp only [latest, files, update_of_ne same]
    exact ⟨stands.tidy name, stands.shown name⟩

/-- An operation does to the map what it does to the files. -/
theorem StandsFor.perform (stands : StandsFor contents store) (named : operation.PlainNames)
    (normal : ∀ key ∈ operation.keyNames, normalizeKey key = key)
    (unhindered : operation.Unhindered contents) :
    StandsFor (operation.perform staged contents) (operation.perform staged store) := by
  have both : ∀ name,
      keySpelling.Tidy (operation.performFiles staged store.file name)
        (operation.performFiles staged contents.file name) ∧
      ∀ key, operation.performFiles staged store.file name key ≠ none →
        ∃ file, keySpelling.Shown (operation.performFiles staged contents.file name) file ∧
          normalizeKey file = key := by
    intro name
    cases operation with
    | write collection key _ | delete collection key =>
      have mentioned : key ∈ [key] := by simp
      exact stands.changed (named.2 key mentioned) (normal key mentioned) unhindered _ name
    | createCollection created => exact ⟨stands.tidy name, stands.shown name⟩
    | deleteAll collection | deleteCollection collection =>
      by_cases same : name = collection.asStr
      · simp only [Operation.performFiles, same, update_self]
        exact ⟨Lookup.Spelling.Tidy.empty _ _, fun _ there => absurd rfl there⟩
      · simp only [Operation.performFiles, update_of_ne same]
        exact ⟨stands.tidy name, stands.shown name⟩
    | copyCollection source dest _ =>
      by_cases same : name = dest.asStr
      · simp only [Operation.performFiles, same, update_self]
        exact ⟨stands.tidy _, stands.shown _⟩
      · simp only [Operation.performFiles, update_of_ne same]
        exact ⟨stands.tidy name, stands.shown name⟩
  refine ⟨perform_eq_none_iff stands.collections, fun name => ?_, fun name => ?_⟩
  · rw [file_perform, file_perform]
    exact (both name).1
  · rw [file_perform, file_perform]
    exact (both name).2

theorem StandsFor.performAll (stands : StandsFor contents store)
    (named : ∀ operation ∈ operations, operation.PlainNames)
    (normal : ∀ operation ∈ operations, ∀ key ∈ operation.keyNames, normalizeKey key = key)
    (unhindered : AllUnhindered staged operations contents) :
    StandsFor (performAll staged operations contents) (performAll staged operations store) := by
  induction operations generalizing store contents with
  | nil => exact stands
  | cons operation rest ih =>
    exact ih
      (stands.perform (named operation (by simp)) (normal operation (by simp)) unhindered.1)
      (fun other mem => named other (List.mem_cons_of_mem operation mem))
      (fun other mem => normal other (List.mem_cons_of_mem operation mem)) unhindered.2

end Runs

end DiagnosticAdapter.Storage
