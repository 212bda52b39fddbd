import DiagnosticAdapter.Storage.Startup

/-!
# Removing backups after the point of no return

Once the log is gone, backups are only left over.  Removing them one after
another never changes what is left when all of them are removed, so it does
not matter where the removal was stopped.
-/

namespace DiagnosticAdapter.Storage

open Effects Function

def Content.withoutBackups (content : Content) : Content := fun key =>
  if isBackup key then none else content key

def Contents.withoutBackups (contents : Contents) : Contents := fun name =>
  if isBackup name then none else (contents name).map Content.withoutBackups

section Contents

variable {contents : Contents} {name : FileName}

theorem Content.withoutBackups_eq_self {content : Content}
    (clean : ∀ key, isBackup key = true → content key = none) :
    content.withoutBackups = content := by
  funext key
  unfold Content.withoutBackups
  split
  · rename_i backup
    exact (clean key backup).symm
  · rfl

theorem Contents.withoutBackups_eq_self
    (noFolders : ∀ name, isBackup name = true → contents name = none)
    (noFiles : ∀ name content key, contents name = some content → isBackup name = false →
      isBackup key = true → content key = none) :
    contents.withoutBackups = contents := by
  funext name
  unfold Contents.withoutBackups
  cases backup : isBackup name with
  | true => simp [noFolders name backup]
  | false =>
    cases stored : contents name with
    | none => simp
    | some content =>
      simp [Content.withoutBackups_eq_self fun key =>
        noFiles name content key stored backup]

theorem PlainContents.withoutBackups_eq_self (plain : PlainContents contents) :
    contents.withoutBackups = contents := by
  apply Contents.withoutBackups_eq_self
  · intro name backup
    by_contra there
    rw [(plain.names name there).2] at backup
    cases backup
  · intro name content key stored _ backup
    by_contra there
    rw [(plain.keys name content stored key there).1.2] at backup
    cases backup

@[simp]
theorem Contents.withoutBackups_withoutBackups (contents : Contents) :
    contents.withoutBackups.withoutBackups = contents.withoutBackups := by
  apply Contents.withoutBackups_eq_self
  · intro name backup
    simp [Contents.withoutBackups, backup]
  · intro name content key stored notBackup backup
    simp only [Contents.withoutBackups, notBackup, Bool.false_eq_true, if_false,
      Option.map_eq_some_iff] at stored
    obtain ⟨whole, _, rfl⟩ := stored
    simp [Content.withoutBackups, backup]

theorem Contents.withoutBackups_update_backup (backup : isBackup name = true)
    (content : Option Content) :
    Contents.withoutBackups (update contents name content) = contents.withoutBackups := by
  funext other
  unfold Contents.withoutBackups
  by_cases same : other = name
  · subst same
    simp [backup]
  · rw [update_of_ne same]

theorem Contents.withoutBackups_update {present present' : Content}
    (stored : contents name = some present)
    (same : present'.withoutBackups = present.withoutBackups) :
    Contents.withoutBackups (update contents name (some present')) = contents.withoutBackups := by
  funext other
  unfold Contents.withoutBackups
  by_cases here : other = name
  · subst here
    simp [stored, same]
  · rw [update_of_ne here]

theorem Content.withoutBackups_update {content : Content} {key : FileName}
    (backup : isBackup key = true) (bytes : Option Bytes) :
    Content.withoutBackups (update content key bytes) = content.withoutBackups := by
  funext other
  unfold Content.withoutBackups
  by_cases same : other = key
  · subst same
    simp [backup]
  · rw [update_of_ne same]

theorem hasBackupFiles_eq_false {disk : Disk} (none : hasBackupFiles disk = false) :
    disk.contents.withoutBackups = disk.contents := by
  simp only [hasBackupFiles, List.any_eq_false, Bool.or_eq_true, not_or, Bool.not_eq_true,
    List.any_eq_true, not_exists, not_and] at none
  have entry : ∀ name folder, disk.collections.lookup name = some folder →
      isBackup name = false ∧ ∀ key ∈ folder.keys, isBackup key = false := by
    intro name folder found
    exact none ⟨name, folder⟩ (AList.mem_lookup_iff.mp found)
  apply Contents.withoutBackups_eq_self
  · intro name backup
    by_contra there
    obtain ⟨content, stored⟩ := Option.ne_none_iff_exists'.mp there
    obtain ⟨folder, found, _⟩ := Disk.exists_folder_of_contents stored
    rw [(entry name folder found).1] at backup
    cases backup
  · intro name content key stored _ backup
    by_contra there
    obtain ⟨folder, found, rfl⟩ := Disk.exists_folder_of_contents stored
    rw [(entry name folder found).2 key
      (((Disk.lists_folder_keys folder).2 key).mpr there)] at backup
    cases backup

end Contents

section Specs

variable {contents : Contents} {wal : Option Bytes}
  {admitted : Env Site FileName → Site → Prop} {failed : Disk → Prop}

/-- Only backups were removed from `contents`. -/
def Stripping (contents : Contents) (wal : Option Bytes) (disk : Disk) : Prop :=
  disk.contents.withoutBackups = contents.withoutBackups ∧ disk.wal = wal

/-- The loop over the files of a directory: the backups left are still to be
visited. -/
def StrippingFiles (contents : Contents) (wal : Option Bytes) (name : FileName)
    (original : Content) (rest : List FileName) (disk : Disk) : Prop :=
  disk.wal = wal ∧ rest.Nodup ∧ ∃ present, disk.contents = update contents name (some present) ∧
      present.withoutBackups = original.withoutBackups ∧
      (∀ entry ∈ rest, present entry ≠ none) ∧
      ∀ entry, isBackup entry = true → present entry ≠ none → entry ∈ rest

theorem StrippingFiles.stripping {name : FileName} {original : Content} {rest : List FileName}
    {disk : Disk} (stored : contents name = some original)
    (state : StrippingFiles contents wal name original rest disk) :
    Stripping contents wal disk := by
  obtain ⟨same, _, present, changed, sameFiles, _⟩ := state
  refine ⟨?_, same⟩
  rw [changed]
  exact Contents.withoutBackups_update stored sameFiles

section

variable {original : Content} (tolerates : Tolerates admitted (Stripping contents wal) failed)

include tolerates

theorem deleteBackupFile_spec {name : FileName} (stored : contents name = some original)
    (key : FileName) (rest : List FileName) :
    Triple admitted (StrippingFiles contents wal name original (key :: rest))
      (Program.whenever (isBackup key) (removeFile name key))
      (fun _ => StrippingFiles contents wal name original rest) failed
      (Stripping contents wal) := by
  refine Triple.whenever (fun backup => ?_) (fun notBackup => ?_)
  · refine Triple.safeStep tolerates (fun _ state => state.stripping stored) ?_ ?_
    · rintro disk next ⟨same, nodup, present, changed, sameFiles, there, listed⟩ removed
      obtain ⟨sameWal, _, content, found, _, after⟩ := Disk.removeFile_ok removed
      rw [changed, update_self] at found
      cases found
      rw [changed, update_idem] at after
      obtain ⟨fresh, restNodup⟩ := List.nodup_cons.mp nodup
      have reached : StrippingFiles contents wal name original rest next := by
        refine ⟨sameWal.trans same, restNodup, _, after,
          (Content.withoutBackups_update backup none).trans sameFiles, ?_, ?_⟩
        · intro entry mem
          have ne : entry ≠ key := fun equal => fresh (equal ▸ mem)
          rw [update_of_ne ne]
          exact there entry (List.mem_cons_of_mem _ mem)
        · intro entry entryBackup found
          have ne : entry ≠ key := by
            rintro rfl
            simp at found
          rw [update_of_ne ne] at found
          exact (List.mem_cons.mp (listed entry entryBackup found)).resolve_left ne
      exact ⟨reached.stripping stored, reached⟩
    · rintro disk error ⟨_, _, present, changed, _, there, _⟩ refused
      have missing := Disk.removeFile_error refused
      simp only [Contents.file, changed, update_self, Option.bind_some] at missing
      exact there key (by simp) missing
  · rintro disk ⟨same, nodup, present, changed, sameFiles, there, listed⟩
    refine ⟨same, (List.nodup_cons.mp nodup).2, present, changed, sameFiles,
      fun entry mem => there entry (List.mem_cons_of_mem _ mem), ?_⟩
    intro entry backup found
    rcases List.mem_cons.mp (listed entry backup found) with rfl | mem
    · rw [notBackup] at backup
      cases backup
    · exact mem

theorem deleteBackupsIn_spec {name : FileName} (stored : contents name = some original) :
    Triple admitted (Holds contents wal) (deleteBackupsIn name)
      (fun _ => StrippingFiles contents wal name original []) failed
      (Stripping contents wal) := by
  have listing : Triple admitted (Holds contents wal) (readFolder name)
      (StrippingFiles contents wal name original) failed (Stripping contents wal) := by
    refine Triple.safeList tolerates ?_ ?_ ?_
    · rintro disk ⟨rfl, same⟩
      exact ⟨rfl, same⟩
    · rintro disk names listed ⟨rfl, same⟩ found permuted
      obtain ⟨content, sameStored, nodup, exactly⟩ := Disk.folderKeys_ok found
      rw [stored] at sameStored
      cases sameStored
      refine ⟨same, permuted.nodup_iff.mpr nodup, original, ?_, rfl, ?_, ?_⟩
      · rw [← stored, update_eq_self]
      · exact fun entry mem => (exactly entry).mp (permuted.mem_iff.mp mem)
      · exact fun entry _ there => permuted.mem_iff.mpr ((exactly entry).mpr there)
    · rintro disk error ⟨rfl, _⟩ refused
      simp [Disk.folderKeys_error refused] at stored
  exact Triple.bind listing fun keys =>
    Triple.forEach (deleteBackupFile_spec tolerates stored) keys

end

/-- The loop over the collections: the backups left are still to be visited. -/
structure Cleaning (contents : Contents) (wal : Option Bytes) (rest : List FileName)
    (disk : Disk) : Prop where
  stripping : Stripping contents wal disk
  folders : ∀ name, isBackup name = true → disk.contents name ≠ none → name ∈ rest
  files : ∀ name content key, disk.contents name = some content → isBackup name = false →
    isBackup key = true → content key ≠ none → name ∈ rest

theorem deleteBackupEntry_spec (tolerates : Tolerates admitted (Stripping contents wal) failed)
    (entry : FileName) (rest : List FileName) :
    Triple admitted (Cleaning contents wal (entry :: rest)) (deleteBackupEntry entry)
      (fun _ => Cleaning contents wal rest) failed (Stripping contents wal) := by
  refine Triple.given id fun start => ?_
  refine Triple.assume (Cleaning contents wal (entry :: rest) start) ?_ fun cleaning => ?_
  · rintro disk ⟨cleaning, rfl⟩
    exact cleaning
  obtain ⟨same, sameWal⟩ := cleaning.stripping
  refine Triple.lookThen fun exists_ => Triple.whenever (fun found => ?_) (fun missing => ?_)
  · cases backup : isBackup entry with
    | true =>
      have passes : ∀ disk, OnlyChanged start.contents wal entry disk →
          Stripping contents wal disk := by
        rintro disk ⟨keptWal, present, changed⟩
        refine ⟨?_, keptWal⟩
        rw [changed, Contents.withoutBackups_update_backup backup, same]
      refine Triple.consequence
        (removeDirAll_spec start.contents wal entry (tolerates.weaken passes))
        (fun _ _ allowed => allowed) ?_ ?_ (fun _ error => error) passes
      · rintro disk ⟨⟨_, rfl⟩, there⟩
        rw [found] at there
        exact ⟨rfl, sameWal, Option.isSome_iff_ne_none.mp there⟩
      · rintro _ disk ⟨changed, keptWal⟩
        refine ⟨passes disk ⟨keptWal, none, changed⟩, ?_, ?_⟩
        · intro name nameBackup there
          have ne : name ≠ entry := by
            rintro rfl
            simp [changed] at there
          rw [changed, update_of_ne ne] at there
          exact (List.mem_cons.mp (cleaning.folders name nameBackup there)).resolve_left ne
        · intro name content key stored notBackup keyBackup there
          have ne : name ≠ entry := by
            rintro rfl
            rw [notBackup] at backup
            cases backup
          rw [changed, update_of_ne ne] at stored
          exact (List.mem_cons.mp (cleaning.files name content key stored notBackup keyBackup
            there)).resolve_left ne
    | false =>
      refine Triple.assume (start.contents entry ≠ none) ?_ fun there => ?_
      · rintro disk ⟨⟨_, rfl⟩, there⟩
        rw [found] at there
        exact Option.isSome_iff_ne_none.mp there
      obtain ⟨original, stored⟩ := Option.ne_none_iff_exists'.mp there
      have passes : ∀ disk, Stripping start.contents wal disk → Stripping contents wal disk :=
        fun disk state => ⟨state.1.trans same, state.2⟩
      refine Triple.consequence (deleteBackupsIn_spec (tolerates.weaken passes) stored)
        (fun _ _ allowed => allowed) ?_ ?_ (fun _ error => error) passes
      · rintro disk ⟨⟨_, rfl⟩, _⟩
        exact ⟨rfl, sameWal⟩
      · intro _ disk state
        have stripped := passes disk (state.stripping stored)
        obtain ⟨_, _, present, changed, _, _, listed⟩ := state
        refine ⟨stripped, ?_, ?_⟩
        · intro name nameBackup there
          have ne : name ≠ entry := by
            rintro rfl
            rw [nameBackup] at backup
            cases backup
          rw [changed, update_of_ne ne] at there
          exact (List.mem_cons.mp (cleaning.folders name nameBackup there)).resolve_left ne
        · intro name content key found notBackup keyBackup there
          have ne : name ≠ entry := by
            rintro rfl
            rw [changed, update_self] at found
            cases found
            simpa using listed key keyBackup there
          rw [changed, update_of_ne ne] at found
          exact (List.mem_cons.mp (cleaning.files name content key found notBackup keyBackup
            there)).resolve_left ne
  · rintro disk ⟨⟨_, rfl⟩, there⟩
    rw [missing] at there
    have gone : disk.contents entry = none := by simpa using there
    refine ⟨cleaning.stripping, ?_, ?_⟩
    · intro name backup present
      have ne : name ≠ entry := by
        rintro rfl
        exact present gone
      exact (List.mem_cons.mp (cleaning.folders name backup present)).resolve_left ne
    · intro name content key stored notBackup keyBackup present
      have ne : name ≠ entry := by
        rintro rfl
        simp [gone] at stored
      exact (List.mem_cons.mp (cleaning.files name content key stored notBackup keyBackup
        present)).resolve_left ne

theorem deleteAllBackupFiles_spec (tolerates : Tolerates admitted (Stripping contents wal) failed) :
    Triple admitted (Stripping contents wal) deleteAllBackupFiles
      (fun _ => Holds contents.withoutBackups wal) failed (Stripping contents wal) := by
  have listing : Triple admitted (Stripping contents wal) readCollections
      (Cleaning contents wal) failed (Stripping contents wal) := by
    refine Triple.safeList tolerates (fun _ state => state) ?_ (by simp)
    rintro disk names listed state found permuted
    cases found
    have exactly : ∀ name, disk.contents name ≠ none → name ∈ listed :=
      fun name there => permuted.mem_iff.mpr ((disk.lists_keys.2 name).mpr there)
    exact ⟨state, fun name _ there => exactly name there,
      fun name content key stored _ _ _ => exactly name (by simp [stored])⟩
  refine Triple.bind listing fun entries => ?_
  refine Triple.consequence (Triple.forEach (deleteBackupEntry_spec tolerates) entries)
    (fun _ _ allowed => allowed) (fun _ start => start) ?_ (fun _ error => error)
    (fun _ passed => passed)
  intro _ disk cleaning
  refine ⟨?_, cleaning.stripping.2⟩
  rw [← cleaning.stripping.1]
  refine (Contents.withoutBackups_eq_self ?_ ?_).symm
  · intro name backup
    by_contra there
    simpa using cleaning.folders name backup there
  · intro name content key stored notBackup backup
    by_contra there
    simpa using cleaning.files name content key stored notBackup backup there

end Specs

end DiagnosticAdapter.Storage
