import DiagnosticAdapter.Storage.KeyLookup

/-!
# What the users of the storage see

The storage stands for a map of collections, keys and contents in which every
file is found under its normalized key.  The reading calls answer as this map
says, whatever spelling the files have on the disk.
-/

namespace DiagnosticAdapter.Storage

open Effects

/-- The reading calls answer as the map says, in either build. -/
structure Shows (store : Contents) (disk : Disk) : Prop where
  collection : ∀ (sanitizePaths : Bool) (env : Env Site FileName) (clock : Nat)
    (name : CollectionName), Trusted sanitizePaths name.asStr →
    ((getCollection sanitizePaths name env .read clock disk).result = .ok () ↔
      sanitizePathSegment sanitizePaths name.asStr = .ok () ∧ store name.asStr ≠ none)
  list : ∀ (env : Env Site FileName) (clock : Nat) (name : FileName), env.Faultless .read →
    ∃ keys, (listKeysInDir name env .read clock disk).result = .ok keys ∧ keys.Nodup ∧
      ∀ key, key ∈ keys ↔ store.file name key ≠ none
  read : ∀ (sanitizePaths : Bool) (env : Env Site FileName) (clock : Nat) (name key : FileName)
    (bytes : Bytes), Trusted sanitizePaths (normalizeKey key) → env.Faultless .read →
    ((read sanitizePaths name key env .read clock disk).result = .ok bytes ↔
      sanitizePathSegment sanitizePaths (normalizeKey key) = .ok () ∧
        store.file name (normalizeKey key) = some bytes)

/-- The map has the same collections, and in each of them the content of every
listed file under its normalized key. -/
structure StandsFor (contents store : Contents) : Prop where
  collections : ∀ name, store name = none ↔ contents name = none
  tidy : ∀ name, keySpelling.Tidy (store.file name) (contents.file name)
  shown : ∀ name key, store.file name key ≠ none →
    ∃ file, keySpelling.Shown (contents.file name) file ∧ normalizeKey file = key

theorem forall_file (disk : Disk) (name : FileName) (property : FileName → Prop)
    (each : ∀ file ∈ ((disk.collections.lookup name).getD ∅).keys, property file) :
    ∀ file, disk.contents.file name file ≠ none → property file := by
  intro file there
  obtain ⟨content, stored, inside⟩ := Contents.exists_of_file there
  obtain ⟨folder, lookup, rfl⟩ := Disk.exists_folder_of_contents stored
  apply each file
  rw [lookup, Option.getD_some]
  exact ((Disk.lists_folder_keys folder).2 file).mpr (by simp [inside])

theorem DistinctKeys.of_forall {disk : Disk} (distinct : ∀ entry ∈ disk.collections.entries,
      ∀ file ∈ entry.2.keys, ∀ other ∈ entry.2.keys,
        normalizeKey file = normalizeKey other → file = other) (name : FileName) :
    DistinctKeys (disk.contents.file name) := by
  intro file other there otherThere same
  obtain ⟨content, stored, inside⟩ := Contents.exists_of_file there
  rw [Contents.file_of_stored stored] at otherThere
  obtain ⟨folder, lookup, rfl⟩ := Disk.exists_folder_of_contents stored
  have listed : ∀ key, folder.lookup key ≠ none → key ∈ folder.keys :=
    fun key found => ((Disk.lists_folder_keys folder).2 key).mpr found
  exact distinct _ (AList.mem_lookup_iff.mp lookup) file (listed file inside) other
    (listed other otherThere) same

section Standing

variable {store : Contents} {disk : Disk} {sanitizePaths : Bool} {env : Env Site FileName}
  {clock : Nat} {name key : FileName}

theorem PlainContents.isValidKey (plain : PlainContents disk.contents)
    (there : disk.contents.file name key ≠ none) : isValidKey key = true := by
  obtain ⟨content, stored, inside⟩ := Contents.exists_of_file there
  obtain ⟨⟨_, original⟩, unstaged⟩ := plain.keys name content stored key inside
  simp [Storage.isValidKey, original, unstaged]

theorem getCollection_result {name : CollectionName}
    (same : store name.asStr = none ↔ disk.contents name.asStr = none) :
    (getCollection sanitizePaths name env .read clock disk).result = .ok () ↔
      sanitizePathSegment sanitizePaths name.asStr = .ok () ∧ store name.asStr ≠ none := by
  rw [ne_eq, same]
  cases checked : sanitizePathSegment sanitizePaths name.asStr with
  | error error => simp [getCollection, checked, bind, Program.andThen, Program.ofExcept]
  | ok accepted =>
    cases stored : disk.contents name.asStr <;>
      simp [getCollection, checked, stored, bind, Program.andThen, Program.ofExcept, dirExists,
        Program.look, Program.fail, pure]

/-- A key of which no file is a spelling is not read. -/
theorem read_of_absent (plain : PlainContents disk.contents) (absent : ∀ file,
      keySpelling.Shown (disk.contents.file name) file → normalizeKey file ≠ normalizeKey key) :
    Triple (fun _ _ => True) (fun state => state = disk) (read sanitizePaths name key)
      (fun _ _ => False) (fun _ => True) (fun _ => True) := by
  unfold read
  cases checked : sanitizePathSegment sanitizePaths (normalizeKey key) with
  | error error =>
    intro env site clock state _ _
    exact ⟨fun _ _ => trivial, trivial⟩
  | ok accepted =>
    refine Triple.ofExceptThen rfl (Triple.bind
      (ensureNormalizedOnDisk_healed (normalizeKey_normalizeKey key)) fun _ =>
        Triple.lookThen fun found => ?_)
    cases found with
    | none => exact Triple.fail fun _ _ => trivial
    | some bytes =>
      refine Triple.assume False ?_ False.elim
      rintro next ⟨healed, there⟩
      rcases healed.files with same | ⟨entry, content, _, valid, spelled, stored, _⟩
      · rw [same] at there
        have present : disk.contents.file name (normalizeKey key) ≠ none := by simp [there]
        exact absent _ ⟨plain.isValidKey present, present⟩ (normalizeKey_normalizeKey key)
      · exact absent entry ⟨valid, by simp [stored]⟩ spelled

theorem StandsFor.list (stands : StandsFor disk.contents store) (calm : env.Faultless .read) :
    ∃ keys, (listKeysInDir name env .read clock disk).result = .ok keys ∧ keys.Nodup ∧
      ∀ key, key ∈ keys ↔ store.file name key ≠ none := by
  obtain ⟨_, listed, names, lists, rfl⟩ :=
    (listKeysInDir_lists name env .read clock disk calm rfl).succeeds
  refine ⟨_, listed, (stands.tidy name).nodup_map lists.1 fun file mem => (lists.2 file).mp mem,
    fun key => ?_⟩
  simp only [List.mem_map, List.mem_filter, lists.2]
  constructor
  · rintro ⟨file, ⟨there, valid⟩, rfl⟩
    obtain ⟨bytes, found⟩ := Option.ne_none_iff_exists'.mp there
    exact Option.ne_none_iff_exists'.mpr ⟨bytes, (stands.tidy name).current file bytes valid found⟩
  · intro stored
    obtain ⟨file, shown, spelled⟩ := stands.shown name key stored
    exact ⟨file, ⟨shown.2, shown.1⟩, spelled⟩

theorem StandsFor.read (stands : StandsFor disk.contents store)
    (plain : PlainContents disk.contents) (calm : env.Faultless .read) (bytes : Bytes) :
    (read sanitizePaths name key env .read clock disk).result = .ok bytes ↔
      sanitizePathSegment sanitizePaths (normalizeKey key) = .ok () ∧
        store.file name (normalizeKey key) = some bytes := by
  cases stored : store.file name (normalizeKey key) with
  | none =>
    have absent : ∀ file, keySpelling.Shown (disk.contents.file name) file →
        normalizeKey file ≠ normalizeKey key := by
      intro file shown spelled
      obtain ⟨content, found⟩ := Option.ne_none_iff_exists'.mp shown.2
      have current := (stands.tidy name).current file content shown.1 found
      change store.file name (normalizeKey file) = _ at current
      rw [spelled, stored] at current
      cases current
    have ended := @read_of_absent disk sanitizePaths name key plain absent env .read clock disk
      trivial rfl
    exact ⟨fun read => (ended.of_ok read).elim, fun both => by cases both.2⟩
  | some content =>
    cases checked : sanitizePathSegment sanitizePaths (normalizeKey key) with
    | error error =>
      constructor
      · intro read
        rw [Storage.read, checked] at read
        cases read
      · rintro ⟨passed, _⟩
        cases passed
    | ok accepted =>
      have found : Listed sanitizePaths name (store.file name) disk key content :=
        ⟨stands.tidy name, stands.shown name _ (by simp [stored]), checked, stored⟩
      rw [found.read_result calm, Except.ok.injEq, Option.some.injEq]
      exact (and_iff_right rfl).symm

theorem StandsFor.shows (stands : StandsFor disk.contents store)
    (plain : PlainContents disk.contents) : Shows store disk :=
  ⟨fun _ _ _ name _ => getCollection_result (stands.collections name.asStr),
    fun _ _ _ calm => stands.list calm,
    fun _ _ _ _ _ bytes _ calm => stands.read plain calm bytes⟩

end Standing

end DiagnosticAdapter.Storage
