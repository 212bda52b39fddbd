import DiagnosticAdapter.Lookup.Spelling
import DiagnosticAdapter.Storage.Visible

/-!
# The keys of a collection

Keys are normalized on every access, while the files of a collection can have
names in any case.  The calls that look for a key rename such a file first.
-/

namespace DiagnosticAdapter.Storage

open Effects
open Lookup (Spelling)

/-- How the files of a collection are named and which of them are listed. -/
def keySpelling : Spelling FileName where
  normal := normalizeKey
  normal_normal := normalizeKey_normalizeKey
  listed := isValidKey

structure MetadataProperty where
  key : String
  value : String
  deriving DecidableEq, Repr

structure Metadata where
  name : FileName
  dataSize : Nat
  customProps : List MetadataProperty
  deriving DecidableEq, Repr

section Calls

variable (sanitizePaths : Bool) (name key : FileName)

def metadata : FileM Metadata := do
  Program.ofExcept (sanitizePathSegment sanitizePaths (normalizeKey key))
  ensureNormalizedOnDisk name (normalizeKey key)
  match ← Program.look fun disk => disk.contents.file name (normalizeKey key) with
  | none => Program.fail (.keyNotFound (String.ofList (normalizeKey key)))
  | some bytes => do
    sync
    pure ⟨normalizeKey key, bytes.length, []⟩

def filePath : FileM FileName := do
  ensureNormalizedOnDisk name (normalizeKey key)
  Program.ofExcept (sanitizePathSegment sanitizePaths (normalizeKey key))
  if ← fileExists name (normalizeKey key) then pure (normalizeKey key)
  else Program.fail (.keyNotFound (String.ofList (normalizeKey key)))

def len : FileM Nat := do
  let keys ← listKeysInDir name
  pure keys.length

end Calls

/-- What looking for a key does to the disk: nothing, or one file of the
collection gets its normalized name. -/
inductive Healed (name key : FileName) (disk : Disk) : Disk → Prop where
  | unchanged : Healed name key disk disk
  | renamed {next : Disk} {content : Content} {entry : FileName} {bytes : Bytes} :
      disk.contents name = some content → content key = none →
      isValidKey entry = true → normalizeKey entry = key → content entry = some bytes →
      next.contents =
        Function.update disk.contents name (some (Spelling.renamed content entry key bytes)) →
      next.staging = disk.staging → next.wal = disk.wal → Healed name key disk next

section Healing

variable {disk next : Disk} {name key entry : FileName}

theorem differsInCase_iff (normal : normalizeKey key = key) : differsInCase key entry = true ↔
      isValidKey entry = true ∧ entry ≠ key ∧ normalizeKey entry = key := by
  simp only [differsInCase, Bool.and_eq_true, bne_iff_ne, ne_eq, beq_iff_eq, normal, and_assoc]

theorem Healed.of_renameFile (normal : normalizeKey key = key)
    (missing : disk.contents.file name key = none) (differs : differsInCase key entry = true)
    (renamed : disk.renameFile name entry key = .ok next) : Healed name key disk next := by
  obtain ⟨sameWal, sameStaging, content, bytes, stored, found, changed⟩ :=
    Disk.renameFile_ok renamed
  obtain ⟨valid, _, spelled⟩ := (differsInCase_iff normal).mp differs
  rw [Contents.file, stored, Option.bind_some] at missing
  exact .renamed stored missing valid spelled found changed sameStaging sameWal

theorem ensureNormalizedOnDisk_healed {failed : Disk → Prop} (normal : normalizeKey key = key) :
    Triple (fun _ _ => True) (fun state => state = disk) (ensureNormalizedOnDisk name key)
      (fun _ => Healed name key disk) failed (fun _ => True) := by
  apply Triple.lookThen
  intro exists_
  cases exists_ with
  | true => exact Triple.pure fun state start => start.1 ▸ .unchanged
  | false =>
    have start : ∀ state, state = disk ∧ (state.contents.file name key).isSome = false →
        state = disk ∧ disk.contents.file name key = none := by
      rintro state ⟨rfl, missing⟩
      exact ⟨rfl, by simpa using missing⟩
    have listed : Triple (fun _ _ => True)
        (fun state => state = disk ∧ (state.contents.file name key).isSome = false)
        (Program.attempt (readFolder name))
        (fun _ state => state = disk ∧ disk.contents.file name key = none)
        failed (fun _ => True) := by
      have inner : Triple (fun _ _ => True)
          (fun state => state = disk ∧ (state.contents.file name key).isSome = false)
          (readFolder name)
          (fun _ state => state = disk ∧ disk.contents.file name key = none)
          (fun state => state = disk ∧ disk.contents.file name key = none)
          (fun _ => True) := by
        apply Triple.list
        · exact fun _ _ => trivial
        · exact fun _ _ _ _ => start
        · exact fun state _ _ there _ _ => start state there
        · exact fun state _ there _ => start state there
      exact Triple.attempt inner (fun _ _ done => done) (fun _ _ done => done)
    refine Triple.bind listed fun listing => ?_
    cases listing with
    | error _ => exact Triple.pure fun state there => there.1 ▸ .unchanged
    | ok entries =>
      cases found : entries.find? (differsInCase key) with
      | none =>
        simp only [found]
        exact Triple.pure fun state there => there.1 ▸ .unchanged
      | some entry =>
        simp only [found]
        have renamed : Triple (fun _ _ => True)
            (fun state => state = disk ∧ disk.contents.file name key = none)
            (renameFile name entry key) (fun _ => Healed name key disk)
            (Healed name key disk) (fun _ => True) := by
          apply Triple.step
          · exact fun _ _ => trivial
          · rintro _ _ _ _ state ⟨rfl, _⟩
            exact .unchanged
          · rintro state next ⟨rfl, missing⟩ moved
            exact ⟨trivial, .of_renameFile normal missing (List.find?_some found) moved⟩
          · rintro state _ ⟨rfl, _⟩ _
            exact .unchanged
        exact Triple.bind (Triple.attempt renamed (fun _ _ done => done)
          fun _ _ done => done) fun _ => Triple.pure fun _ done => done

theorem Healed.wal (healed : Healed name key disk next) : next.wal = disk.wal := by
  cases healed with
  | unchanged => rfl
  | renamed _ _ _ _ _ _ _ same => exact same

theorem Healed.staging (healed : Healed name key disk next) : next.staging = disk.staging := by
  cases healed with
  | unchanged => rfl
  | renamed _ _ _ _ _ _ same _ => exact same

theorem Healed.files (healed : Healed name key disk next) :
    next.contents.file name = disk.contents.file name ∨
      ∃ entry bytes, disk.contents.file name key = none ∧ isValidKey entry = true ∧
        normalizeKey entry = key ∧ disk.contents.file name entry = some bytes ∧
        next.contents.file name = Spelling.renamed (disk.contents.file name) entry key bytes := by
  cases healed with
  | unchanged => exact .inl rfl
  | @renamed next content entry bytes stored missing valid spelled found changed _ _ =>
    have files : disk.contents.file name = content := Contents.file_of_stored stored
    refine .inr ⟨entry, bytes, ?_⟩
    rw [files]
    refine ⟨missing, valid, spelled, found, ?_⟩
    funext file
    rw [Contents.file, changed, Function.update_self, Option.bind_some]

theorem Healed.tidy {latest : FileName → Option Bytes} (healed : Healed name key disk next)
    (tidy : keySpelling.Tidy latest (disk.contents.file name)) :
    keySpelling.Tidy latest (next.contents.file name) := by
  rcases healed.files with same | ⟨entry, bytes, _, valid, spelled, found, changed⟩
  · rwa [same]
  · rw [changed]
    exact tidy.rename valid found spelled

theorem Healed.complete {latest : FileName → Option Bytes} (healed : Healed name key disk next)
    (complete : keySpelling.Complete latest (disk.contents.file name)) :
    keySpelling.Complete latest (next.contents.file name) := by
  rcases healed.files with same | ⟨entry, bytes, _, _, spelled, _, changed⟩
  · rwa [same]
  · rw [changed]
    exact complete.rename spelled

theorem Healed.shown (healed : Healed name key disk next) (normal : normalizeKey key = key)
    {file : FileName} (shown : keySpelling.Shown (next.contents.file name) file) :
    ∃ before, keySpelling.Shown (disk.contents.file name) before ∧
      normalizeKey before = normalizeKey file := by
  rcases healed.files with same | ⟨entry, bytes, _, valid, spelled, found, changed⟩
  · exact ⟨file, same ▸ shown, rfl⟩
  · rw [changed] at shown
    rcases shown.of_renamed with rfl | ⟨_, before⟩
    · exact ⟨entry, ⟨valid, by simp [found]⟩, spelled.trans normal.symm⟩
    · exact ⟨file, before, rfl⟩

theorem Healed.keeps (healed : Healed name key disk next) {file : FileName}
    (normal : normalizeKey file = file) (there : disk.contents.file name file ≠ none) :
    next.contents.file name file ≠ none := by
  rcases healed.files with same | ⟨entry, bytes, missing, _, spelled, _, changed⟩
  · rwa [same]
  · rw [changed]
    by_cases target : file = key
    · simp [Spelling.renamed, target]
    · have apart : file ≠ entry := by
        rintro rfl
        exact target (normal.symm.trans spelled)
      rwa [Spelling.renamed, Function.update_of_ne target, Function.update_of_ne apart]

end Healing

/-- The content of the file whose name is the key in some case. -/
def firstContent (disk : Disk) (name key : FileName) : Option Bytes :=
  (((disk.collections.lookup name).getD ∅).entries.find? fun file =>
    isValidKey file.1 && normalizeKey file.1 == key).map fun file => file.2

/-- No two files have one name in different cases. -/
def DistinctKeys (content : FileName → Option Bytes) : Prop :=
  ∀ file other, content file ≠ none → content other ≠ none →
    normalizeKey file = normalizeKey other → file = other

section Distinct

variable {disk : Disk} {name : FileName}

theorem firstContent_some {key : FileName} {bytes : Bytes}
    (first : firstContent disk name key = some bytes) :
    ∃ file, isValidKey file = true ∧ normalizeKey file = key ∧
      disk.contents.file name file = some bytes := by
  obtain ⟨⟨file, stored⟩, found, same⟩ := Option.map_eq_some_iff.mp first
  have matched := List.find?_some found
  simp only [Bool.and_eq_true, beq_iff_eq] at matched
  refine ⟨file, matched.1, matched.2, ?_⟩
  have mem := List.mem_of_find?_eq_some found
  cases folder : disk.collections.lookup name with
  | none => simp [folder] at mem
  | some content =>
    rw [folder, Option.getD_some] at mem
    rw [Contents.file_of_stored (Disk.contents_of_lookup folder)]
    exact (AList.mem_lookup_iff.mpr mem).trans (congrArg some same)

theorem firstContent_of_file (distinct : DistinctKeys (disk.contents.file name))
    {file : FileName} {bytes : Bytes} (valid : isValidKey file = true)
    (stored : disk.contents.file name file = some bytes) :
    firstContent disk name (normalizeKey file) = some bytes := by
  have present : firstContent disk name (normalizeKey file) ≠ none := by
    intro missing
    cases folder : disk.collections.lookup name with
    | none => simp [Contents.file, Disk.contents, folder] at stored
    | some content =>
      rw [Contents.file_of_stored (Disk.contents_of_lookup folder)] at stored
      have mem := AList.mem_lookup_iff.mp stored
      simp only [firstContent, folder, Option.getD_some, Option.map_eq_none_iff,
        List.find?_eq_none] at missing
      simpa [valid] using missing _ mem
  obtain ⟨found, first⟩ := Option.ne_none_iff_exists'.mp present
  obtain ⟨other, _, same, otherStored⟩ := firstContent_some first
  have one := distinct other file (by simp [otherStored]) (by simp [stored]) same
  rw [first, ← otherStored, one, stored]

theorem DistinctKeys.tidy (distinct : DistinctKeys (disk.contents.file name)) :
    keySpelling.Tidy (firstContent disk name) (disk.contents.file name) :=
  ⟨fun _ _ valid stored => firstContent_of_file distinct valid stored,
    fun file shown other otherShown same => distinct other file otherShown.2 shown.2 same,
    fun file shown there => distinct _ file there shown.2 (normalizeKey_normalizeKey file)⟩

theorem exists_shown_of_firstContent {key : FileName} (stored : firstContent disk name key ≠ none) :
    ∃ file, keySpelling.Shown (disk.contents.file name) file ∧ normalizeKey file = key := by
  obtain ⟨bytes, first⟩ := Option.ne_none_iff_exists'.mp stored
  obtain ⟨file, valid, spelled, found⟩ := firstContent_some first
  exact ⟨file, ⟨valid, Option.ne_none_iff_exists'.mpr ⟨bytes, found⟩⟩, spelled⟩

end Distinct

end DiagnosticAdapter.Storage
