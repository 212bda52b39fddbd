import DiagnosticAdapter.Storage.LocalStorage

/-!
# States from which recovery reaches a given target

`Recoverable target operations contents` says, collection by collection, how
the contents may differ from `target` so that undoing `operations` leads back
to it: a collection was moved aside as a whole, or it was kept and some of its
files were moved aside or newly written, or it was created by one of the
operations.  The list of operations is the part that is still to be undone.
-/

namespace DiagnosticAdapter.Storage

open Function

/-- How a kept collection `present` may differ from `original`. -/
structure KeptFolder (operations : List Operation) (name : FileName)
    (original present : Content) : Prop where
  originalPlain : ∀ key, original key ≠ none → Plain key
  names : ∀ key, present key ≠ none → Original key ∨ ∃ base, Original base ∧ key = backupName base
  old : ∀ key bytes, original key = some bytes →
    (present key = some bytes ∧ present (backupName key) = none) ∨
      present (backupName key) = some bytes
  new : ∀ key, Original key → original key = none → present (backupName key) = none ∧
      (present key ≠ none → ∃ operation ∈ operations, operation.writesTo name key = true)

/-- The collection holds only what was written after one of the operations
created it. -/
def CreatedFolder (operations : List Operation) (name : FileName) (present : Content) : Prop :=
  ∃ before operation after, operations = before ++ operation :: after ∧
    operation.creates name = true ∧
    ∀ key, present key ≠ none → Original key ∧ ∃ written ∈ after, written.writesTo name key = true

/-- What the target, the collection itself and its backup may be. -/
inductive RecoverableAt (operations : List Operation) (name : FileName) :
    Option Content → Option Content → Option Content → Prop where
  | displaced {original present} :
      (∀ key, original key ≠ none → Plain key) →
      RecoverableAt operations name (some original) present (some original)
  | kept {original present} :
      KeptFolder operations name original present →
      RecoverableAt operations name (some original) (some present) none
  | absent : RecoverableAt operations name none none none
  | copied {present} :
      (∃ operation ∈ operations, operation.copiesToNew name = true) →
      RecoverableAt operations name none (some present) none
  | created {present} :
      CreatedFolder operations name present →
      RecoverableAt operations name none (some present) none

structure Recoverable (target : Contents) (operations : List Operation)
    (contents : Contents) : Prop where
  names : ∀ name, contents name ≠ none →
    Original name ∨ ∃ base, Original base ∧ name = backupName base
  each : ∀ name, Original name →
    RecoverableAt operations name (target name) (contents name) (contents (backupName name))

/-- The target holds none of the collections the operations create. -/
structure Compatible (target : Contents) (operations : List Operation) : Prop where
  names : ∀ operation ∈ operations, operation.OriginalNames
  created : ∀ operation ∈ operations, ∀ name, operation.creates name = true → target name = none
  copied : ∀ operation ∈ operations, ∀ name, operation.copiesToNew name = true → target name = none

/-- A file that undoing a write would remove is new, or a backup shows that
it is not. -/
def Guarded (target : Contents) (operations : List Operation) (contents : Contents) : Prop :=
  ∀ operation ∈ operations, ∀ name key, operation.writesTo name key = true →
    target.file name key = none ∨ contents (backupName name) ≠ none ∨
      contents.file name (backupName key) ≠ none

/-- No collection or key is a backup, and no key is a staging file. -/
structure PlainContents (contents : Contents) : Prop where
  names : ∀ name, contents name ≠ none → Original name
  keys : ∀ name content, contents name = some content → ∀ key, content key ≠ none → Plain key

theorem PlainContents.of_forall {disk : Disk} (plain : ∀ entry ∈ disk.collections.entries,
      Original entry.1 ∧ ∀ key ∈ entry.2.keys, Plain key) : PlainContents disk.contents := by
  have found : ∀ name content, disk.contents name = some content →
      ∃ folder : Folder, ⟨name, folder⟩ ∈ disk.collections.entries ∧
        content = fun key => folder.lookup key := by
    intro name content stored
    obtain ⟨folder, there, same⟩ := Disk.exists_folder_of_contents stored
    exact ⟨folder, AList.mem_lookup_iff.mp there, same⟩
  refine ⟨fun name there => ?_, fun name content stored key there => ?_⟩
  · obtain ⟨content, stored⟩ := Option.ne_none_iff_exists'.mp there
    obtain ⟨folder, mem, _⟩ := found name content stored
    exact (plain _ mem).1
  · obtain ⟨folder, mem, rfl⟩ := found name content stored
    exact (plain _ mem).2 key (((Disk.lists_folder_keys folder).2 key).mpr there)

section Lists

variable {operations before after : List Operation} {operation last : Operation}

theorem append_singleton_eq_split (split : operations ++ [last] = before ++ operation :: after) :
    (after = [] ∧ before = operations ∧ operation = last) ∨
      ∃ rest, after = rest ++ [last] ∧ operations = before ++ operation :: rest := by
  rcases List.eq_nil_or_concat after with empty | ⟨rest, final, rfl⟩
  · subst empty
    obtain ⟨same, single⟩ := List.append_inj' split rfl
    exact .inl ⟨rfl, same.symm, by simpa using single.symm⟩
  · have assoc : operations ++ [last] = (before ++ operation :: rest) ++ [final] := by
      simpa using split
    obtain ⟨same, single⟩ := List.append_inj' assoc rfl
    simp only [List.cons.injEq, and_true] at single
    subst single
    exact .inr ⟨rest, by simp, same⟩

theorem CreatedFolder.mono {name : FileName} {present : Content} (more : List Operation)
    (created : CreatedFolder operations name present) :
    CreatedFolder (operations ++ more) name present := by
  obtain ⟨before, operation, after, rfl, creates, written⟩ := created
  refine ⟨before, operation, after ++ more, by simp, creates, ?_⟩
  intro key found
  obtain ⟨plain, writer, mem, writes⟩ := written key found
  exact ⟨plain, writer, List.mem_append_left _ mem, writes⟩

theorem KeptFolder.mono {name : FileName} {original present : Content} (more : List Operation)
    (kept : KeptFolder operations name original present) :
    KeptFolder (operations ++ more) name original present := by
  refine ⟨kept.originalPlain, kept.names, kept.old, ?_⟩
  intro key plain fresh
  obtain ⟨unsaved, writer⟩ := kept.new key plain fresh
  refine ⟨unsaved, fun found => ?_⟩
  obtain ⟨operation, mem, writes⟩ := writer found
  exact ⟨operation, List.mem_append_left _ mem, writes⟩

theorem RecoverableAt.mono {name : FileName} {target present backup : Option Content}
    (more : List Operation) (recoverable : RecoverableAt operations name target present backup) :
    RecoverableAt (operations ++ more) name target present backup := by
  cases recoverable with
  | displaced plain => exact .displaced plain
  | kept folder => exact .kept (folder.mono more)
  | absent => exact .absent
  | copied copies =>
    obtain ⟨operation, mem, copies⟩ := copies
    exact .copied ⟨operation, List.mem_append_left _ mem, copies⟩
  | created folder => exact .created (folder.mono more)

theorem RecoverableAt.backup_eq_none {name : FileName} {present backup : Option Content}
    (here : RecoverableAt operations name none present backup) : backup = none := by
  cases here <;> rfl

theorem Recoverable.mono {target contents : Contents} (more : List Operation)
    (recoverable : Recoverable target operations contents) :
    Recoverable target (operations ++ more) contents :=
  ⟨recoverable.names, fun name plain => (recoverable.each name plain).mono more⟩

end Lists

section Updates

variable {target contents : Contents} {operations : List Operation} {name : FileName}

theorem KeptFolder.refl {original : Content} (plain : ∀ key, original key ≠ none → Plain key) :
    KeptFolder operations name original original := by
  have noBackup : ∀ key, Original key → original (backupName key) = none := by
    intro key originalKey
    by_contra there
    exact (plain _ there).1.backupName_ne originalKey rfl
  refine ⟨plain, fun key there => .inl (plain key there).1, ?_, ?_⟩
  · exact fun key bytes stored => .inl ⟨stored, noBackup key (plain key (by simp [stored])).1⟩
  · exact fun key originalKey fresh => ⟨noBackup key originalKey, fun there => absurd fresh there⟩

theorem PlainContents.recoverable (plain : PlainContents target) (operations : List Operation) :
    Recoverable target operations target := by
  refine ⟨fun name found => .inl (plain.names name found), ?_⟩
  intro name originalName
  have noBackup : target (backupName name) = none := by
    by_contra found
    exact (plain.names _ found).backupName_ne originalName rfl
  rw [noBackup]
  cases stored : target name with
  | none => exact .absent
  | some original => exact .kept (.refl (plain.keys name original stored))

section

variable (recoverable : Recoverable target operations contents) (original : Original name)

include recoverable original

theorem Recoverable.updateLive {present : Option Content}
    (here : RecoverableAt operations name (target name) present (contents (backupName name))) :
    Recoverable target operations (update contents name present) := by
  refine ⟨?_, ?_⟩
  · intro other found
    by_cases same : other = name
    · exact .inl (same ▸ original)
    · rw [update_of_ne same] at found
      exact recoverable.names other found
  · intro other otherOriginal
    have backupApart : backupName other ≠ name :=
      (original.backupName_ne otherOriginal).symm
    rw [update_of_ne backupApart]
    by_cases same : other = name
    · subst same
      rw [update_self]
      exact here
    · rw [update_of_ne same]
      exact recoverable.each other otherOriginal

theorem Recoverable.updateBoth {present backup : Option Content}
    (here : RecoverableAt operations name (target name) present backup) :
    Recoverable target operations
      (update (update contents name present) (backupName name) backup) := by
  have apart : name ≠ backupName name := (backupName_ne_self name).symm
  refine ⟨?_, ?_⟩
  · intro other found
    by_cases same : other = backupName name
    · exact .inr ⟨name, original, same⟩
    · rw [update_of_ne same] at found
      by_cases live : other = name
      · exact .inl (live ▸ original)
      · rw [update_of_ne live] at found
        exact recoverable.names other found
  · intro other otherOriginal
    have notBackup : other ≠ backupName name := otherOriginal.backupName_ne original
    rw [update_of_ne notBackup]
    by_cases same : other = name
    · subst same
      rw [update_self, update_self]
      exact here
    · have backupApart : backupName other ≠ backupName name := by simpa using same
      rw [update_of_ne same, update_of_ne backupApart,
        update_of_ne (original.backupName_ne otherOriginal).symm]
      exact recoverable.each other otherOriginal

end

end Updates

end DiagnosticAdapter.Storage
