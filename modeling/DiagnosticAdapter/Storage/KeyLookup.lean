import DiagnosticAdapter.Storage.KeyCalls

/-!
# Finding a listed key

In undisturbed surroundings every call finds a key that the listing names, in
any case, with the content the collection stands for.
-/

namespace DiagnosticAdapter.Storage

open Effects
open Lookup (Spelling)

variable {codec : Codec} {sanitizePaths : Bool} {collection : CollectionName} {disk next : Disk}
  {name key file : FileName}
  {latest : FileName → Option Bytes} {bytes : Bytes}

theorem Healed.lookup (healed : Healed name key disk next)
    (tidy : keySpelling.Tidy latest (disk.contents.file name))
    (shown : keySpelling.Shown (disk.contents.file name) file) (spelled : normalizeKey file = key)
    (there : next.contents.file name key ≠ none) :
    next.contents.file name key = latest key := by
  rcases healed.files with same | ⟨entry, stored, _, valid, entrySpelled, found, changed⟩
  · subst spelled
    rw [same] at there ⊢
    exact tidy.lookup shown there
  · rw [changed, Spelling.renamed, Function.update_self, ← entrySpelled]
    exact (tidy.current entry stored valid found).symm

theorem ensureNormalizedOnDisk_finds (tidy : keySpelling.Tidy latest (disk.contents.file name))
    (shown : keySpelling.Shown (disk.contents.file name) file)
    (spelled : normalizeKey file = key) :
    Triple Env.Faultless (fun state => state = disk) (ensureNormalizedOnDisk name key)
      (fun _ next => next.contents.file name key ≠ none) (fun _ => False) (fun _ => True) := by
  have normal : normalizeKey key = key := by rw [← spelled, normalizeKey_normalizeKey]
  apply Triple.lookThen
  intro exists_
  cases exists_ with
  | true => exact Triple.pure fun state start => Option.isSome_iff_ne_none.mp start.2
  | false =>
    have listed : Triple Env.Faultless
        (fun state => state = disk ∧ (state.contents.file name key).isSome = false)
        (Program.attempt (readFolder name))
        (fun listing state => (state = disk ∧ disk.contents.file name key = none) ∧
          ∃ entries, listing = .ok entries ∧ Lists entries (disk.contents.file name))
        (fun _ => False) (fun _ => True) := by
      have inner : Triple Env.Faultless
          (fun state => state = disk ∧ (state.contents.file name key).isSome = false)
          (readFolder name)
          (fun entries state => (state = disk ∧ disk.contents.file name key = none) ∧
            Lists entries (disk.contents.file name))
          (fun _ => False) (fun _ => True) := by
        refine Triple.calmList (fun _ _ => trivial) ?_ ?_
        · rintro state found entries ⟨rfl, missing⟩ listing permuted
          obtain ⟨content, stored, lists⟩ := Disk.folderKeys_ok listing
          refine ⟨⟨rfl, by simpa using missing⟩, permuted.nodup_iff.mpr lists.1, fun entry => ?_⟩
          rw [permuted.mem_iff, lists.2 entry]
          simp [Contents.file, stored]
        · rintro state error ⟨rfl, _⟩ refused
          obtain ⟨stored, found⟩ := Option.ne_none_iff_exists'.mp shown.2
          simp [Contents.file, Disk.folderKeys_error refused] at found
      exact Triple.attempt inner
        (fun entries state done => ⟨done.1, entries, rfl, done.2⟩) (fun _ _ no => no.elim)
    refine Triple.bind listed fun listing => Triple.assume
      (∃ entries, listing = .ok entries ∧ Lists entries (disk.contents.file name))
      (fun _ start => start.2) ?_
    rintro ⟨entries, rfl, lists⟩
    refine Triple.assume (disk.contents.file name key = none)
      (fun _ start => start.1.2) fun missing => ?_
    -- The listing contains the file, and it has another name than the key.
    have apart : file ≠ key := by
      rintro rfl
      exact shown.2 missing
    cases found : entries.find? (differsInCase key) with
    | none =>
      have passed := List.find?_eq_none.mp found file ((lists.2 file).mpr shown.2)
      exact absurd ((differsInCase_iff normal).mpr ⟨shown.1, apart, spelled⟩) passed
    | some entry =>
      simp only [found]
      obtain ⟨valid, _, entrySpelled⟩ := (differsInCase_iff normal).mp (List.find?_some found)
      have there := (lists.2 entry).mp (List.mem_of_find?_eq_some found)
      have renamed : Triple Env.Faultless
          (fun state => (state = disk ∧ disk.contents.file name key = none) ∧
            ∃ names, Except.ok entries = (Except.ok names : Except StorageError _) ∧
              Lists names (disk.contents.file name))
          (renameFile name entry key) (fun _ next => next.contents.file name key ≠ none)
          (fun _ => False) (fun _ => True) := by
        refine Triple.calmStep (fun _ _ => trivial) ?_ ?_
        · rintro state next ⟨⟨rfl, _⟩, _⟩ moved
          obtain ⟨_, _, content, stored, _, _, changed⟩ := Disk.renameFile_ok moved
          refine ⟨trivial, ?_⟩
          simp [Contents.file, changed]
        · rintro state error ⟨⟨rfl, _⟩, _⟩ refused
          exact there (Disk.renameFile_error refused)
      exact Triple.bind (Triple.attempt renamed (fun _ _ done => done)
        fun _ _ no => no.elim) fun _ => Triple.pure fun _ done => done

/-- A listed file, and the map that the collection stands for. -/
structure Listed (sanitizePaths : Bool) (name : FileName) (latest : FileName → Option Bytes)
    (disk : Disk)
    (key : FileName) (bytes : Bytes) : Prop where
  tidy : keySpelling.Tidy latest (disk.contents.file name)
  shown : ∃ file, keySpelling.Shown (disk.contents.file name) file ∧
    normalizeKey file = normalizeKey key
  accepted : sanitizePathSegment sanitizePaths (normalizeKey key) = .ok ()
  stored : latest (normalizeKey key) = some bytes

theorem Listed.looked (listed : Listed sanitizePaths name latest disk key bytes) :
    Triple Env.Faultless (fun state => state = disk)
      (ensureNormalizedOnDisk name (normalizeKey key))
      (fun _ next => next.wal = disk.wal ∧ next.contents.file name (normalizeKey key) = some bytes)
      (fun _ => False) (fun _ => True) := by
  obtain ⟨file, shown, spelled⟩ := listed.shown
  intro env site clock state calm start
  subst start
  have healed := @ensureNormalizedOnDisk_healed state name (normalizeKey key) (fun _ => False)
    (normalizeKey_normalizeKey key) env site clock state trivial rfl
  have both := healed.and
    (ensureNormalizedOnDisk_finds listed.tidy shown spelled env site clock state calm rfl)
  refine both.weaken (fun _ next found => ?_) (fun _ no => no.1) (fun _ _ => trivial)
  exact ⟨found.1.wal, (found.1.lookup listed.tidy shown spelled found.2).trans listed.stored⟩

section Calls

variable {env : Env Site FileName} {clock : Nat}

theorem Listed.reads {Result : Type} (listed : Listed sanitizePaths name latest disk key bytes)
    {found : Bytes → FileM Result} {missing : FileM Result} {result : Result}
    (answers : Triple Env.Faultless (fun _ => True) (found bytes) (fun value _ => value = result)
      (fun _ => False) (fun _ => True)) (calm : env.Faultless .read) :
    ((Program.ofExcept (sanitizePathSegment sanitizePaths (normalizeKey key)) >>= fun _ =>
      ensureNormalizedOnDisk name (normalizeKey key) >>= fun _ =>
        Program.look (fun disk => disk.contents.file name (normalizeKey key)) >>= fun stored =>
          match stored with
          | none => missing
          | some bytes => found bytes) env .read clock disk).result = .ok result := by
  rw [listed.accepted]
  have read : Triple Env.Faultless
      (fun next => next.wal = disk.wal ∧ next.contents.file name (normalizeKey key) = some bytes)
      (Program.look (fun disk => disk.contents.file name (normalizeKey key)) >>= fun stored =>
        match stored with
        | none => missing
        | some bytes => found bytes)
      (fun value _ => value = result) (fun _ => False) (fun _ => True) := by
    refine Triple.lookThen fun stored => Triple.assume (stored = some bytes)
      (fun _ start => start.2.symm.trans start.1.2) ?_
    rintro rfl
    exact Triple.consequence answers (fun _ _ calm => calm) (fun _ _ => trivial)
      (fun _ _ done => done) (fun _ no => no) (fun _ passed => passed)
  obtain ⟨value, ended, rfl⟩ := (Triple.ofExceptThen rfl
    (Triple.bind listed.looked fun _ => read) env .read clock disk calm rfl).succeeds
  exact ended

theorem Listed.read_result (listed : Listed sanitizePaths name latest disk key bytes)
    (calm : env.Faultless .read) :
    (read sanitizePaths name key env .read clock disk).result = .ok bytes :=
  listed.reads (Triple.bind openAndSync_calm fun _ => Triple.pure fun _ _ => rfl) calm

theorem sync_calm {kept failed : Disk → Prop} :
    Triple Env.Faultless kept sync (fun _ => kept) failed (fun _ => True) := by
  unfold sync call
  refine Triple.calmStep (fun _ _ => trivial) ?_ (by simp)
  intro state next start changed
  cases changed
  exact ⟨trivial, start⟩

theorem Listed.metadata_result (listed : Listed sanitizePaths name latest disk key bytes)
    (calm : env.Faultless .read) :
    (metadata sanitizePaths name key env .read clock disk).result =
      .ok ⟨normalizeKey key, bytes.length, []⟩ :=
  listed.reads (Triple.bind sync_calm fun _ => Triple.pure fun _ _ => rfl) calm

section

variable (listed : Listed sanitizePaths collection.asStr latest disk key bytes)

include listed

theorem Listed.delete_finds (calm : env.Faultless .record) :
    (delete codec sanitizePaths collection key env .record clock disk).state.contents.file
        collection.asStr (normalizeKey key) = some bytes := by
  have there : Triple Env.Faultless (fun state => state = disk)
      (delete codec sanitizePaths collection key)
      (fun _ next => next.contents.file collection.asStr (normalizeKey key) = some bytes)
      (fun next => next.contents.file collection.asStr (normalizeKey key) = some bytes)
      (fun _ => True) := by
    refine Triple.bind (Triple.consequence listed.looked (fun _ _ calm => calm)
      (fun _ start => start) (fun _ _ done => done.2) (fun _ no => no.elim)
      (fun _ passed => passed)) fun _ => ?_
    rw [listed.accepted]
    refine Triple.ofExceptThen rfl (Triple.lookThen fun exists_ => ?_)
    cases exists_ with
    | false => exact Triple.fail fun _ start => start.1
    | true =>
      refine Triple.consequence (record_appends _) (fun _ _ _ => trivial)
        (fun _ start => start.1) ?_ (fun _ failed => failed) (fun _ passed => passed)
      rintro _ next ⟨_, middle, found, appended⟩
      rw [appended.1]
      exact found
  exact (there env .record clock disk calm rfl).state

theorem Listed.delete_records {data : Bytes} (logged : disk.wal = some data)
    (fits : (codec.toBytes (.delete collection (normalizeKey key))).length < 4294967296)
    (calm : env.Faultless .record) :
    (delete codec sanitizePaths collection key env .record clock disk).result =
      .ok (.delete collection (normalizeKey key)) := by
  have appends : ∀ {pre : Disk → Prop}, (∀ state, pre state → state.wal = some data) →
      Triple Env.Faultless pre (record codec (.delete collection (normalizeKey key)))
        (fun operation _ => operation = .delete collection (normalizeKey key))
        (fun _ => False) (fun _ => True) := by
    intro pre open_
    have appended : Triple Env.Faultless pre
        (appendOperation codec (.delete collection (normalizeKey key))) (fun _ _ => True)
        (fun _ => False) (fun _ => True) := by
      refine Triple.calmStep (fun _ _ => trivial) (fun _ _ _ _ => ⟨trivial, trivial⟩) ?_
      intro state error start refused
      simp [Disk.appendOperation, not_le.mpr fits, open_ state start] at refused
    exact Triple.bind appended fun _ => Triple.pure fun _ _ => rfl
  have recorded : Triple Env.Faultless (fun state => state = disk)
      (delete codec sanitizePaths collection key)
      (fun operation _ => operation = .delete collection (normalizeKey key))
      (fun _ => False) (fun _ => True) := by
    refine Triple.bind listed.looked fun _ => ?_
    rw [listed.accepted]
    refine Triple.ofExceptThen rfl (Triple.lookThen fun exists_ => ?_)
    cases exists_ with
    | false =>
      apply Triple.fail
      rintro state ⟨⟨_, found⟩, missing⟩
      simp [found] at missing
    | true => exact appends fun _ start => start.1.1.trans logged
  obtain ⟨_, ended, rfl⟩ := (recorded env .record clock disk calm rfl).succeeds
  exact ended

theorem Listed.found : Found codec sanitizePaths collection disk key bytes :=
  ⟨fun _ _ calm => listed.read_result calm, fun _ _ calm => listed.metadata_result calm,
    fun _ _ calm => ⟨listed.delete_finds calm, fun _ logged fits =>
      listed.delete_records logged fits calm⟩⟩

end

end Calls

theorem agrees_of_tidy (tidy : keySpelling.Tidy latest (disk.contents.file collection.asStr))
    (accepted : AcceptedKeys sanitizePaths (disk.contents.file collection.asStr))
    (complete : isBackup collection.asStr = false →
      keySpelling.Complete latest (disk.contents.file collection.asStr)) :
    Agrees codec sanitizePaths collection latest disk := by
  refine ⟨fun env clock calm => ?_⟩
  obtain ⟨_, listed, names, lists, rfl⟩ :=
    (listKeysInDir_lists collection.asStr env .read clock disk calm rfl).succeeds
  have nodup : ((names.filter isValidKey).map normalizeKey).Nodup :=
    tidy.nodup_map lists.1 fun name mem => (lists.2 name).mp mem
  have mem : ∀ key, key ∈ (names.filter isValidKey).map normalizeKey ↔
      ∃ file, keySpelling.Shown (disk.contents.file collection.asStr) file ∧
        normalizeKey file = key := by
    intro key
    simp only [List.mem_map, List.mem_filter, lists.2]
    exact ⟨fun ⟨file, there, same⟩ => ⟨file, there.symm, same⟩,
      fun ⟨file, there, same⟩ => ⟨file, there.symm, same⟩⟩
  refine ⟨_, listed, nodup, ?_, ?_, ?_⟩
  · rw [List.toFinset_card_of_nodup nodup]
    unfold len
    rw [Program.bind_of_ok listed]
    rfl
  · intro original key valid stored
    exact (mem key).mpr (complete original key valid stored)
  · intro key listedKey
    obtain ⟨file, shown, spelled⟩ := (mem _).mp listedKey
    obtain ⟨bytes, found⟩ := Option.ne_none_iff_exists'.mp shown.2
    have stored := tidy.current file bytes shown.1 found
    have checked := accepted file shown
    rw [spelled] at checked
    change latest (normalizeKey file) = _ at stored
    rw [spelled] at stored
    have listedFile : Listed sanitizePaths collection.asStr latest disk key bytes :=
      ⟨tidy, ⟨file, shown, spelled⟩, checked, stored⟩
    exact ⟨bytes, stored, listedFile.found⟩

end DiagnosticAdapter.Storage
