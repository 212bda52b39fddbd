import DiagnosticAdapter.Storage.Undo

/-!
# Restoring backups

The second half of undoing a commit: once no operation is left to undo,
`rollbackPartialCommit` moves every backup to its original name and ends in
the target.
-/

namespace DiagnosticAdapter.Storage

open Effects Function

section RestoreFiles

variable {contents : Contents} {wal : Option Bytes} {name : FileName}
  {Good : List FileName → Content → Prop}

/-- Only the named folder differs from `contents`; it is `Good` for the entries
still to be visited, and these are there. -/
def Restoring (contents : Contents) (wal : Option Bytes) (name : FileName)
    (Good : List FileName → Content → Prop) (rest : List FileName) (disk : Disk) : Prop :=
  disk.wal = wal ∧ rest.Nodup ∧ ∃ present, disk.contents = update contents name (some present) ∧
      Good rest present ∧ ∀ entry ∈ rest, present entry ≠ none

def SomeRestoring (contents : Contents) (wal : Option Bytes) (name : FileName)
    (Good : List FileName → Content → Prop) (disk : Disk) : Prop :=
  disk.wal = wal ∧ ∃ rest present,
    disk.contents = update contents name (some present) ∧ Good rest present

theorem Restoring.some {rest : List FileName} {disk : Disk}
    (restoring : Restoring contents wal name Good rest disk) :
    SomeRestoring contents wal name Good disk := by
  obtain ⟨same, _, present, stored, good, _⟩ := restoring
  exact ⟨same, rest, present, stored, good⟩

/-- The folder stays `Good` under each step of the restoration. -/
structure RestoreInvariant (Good : List FileName → Content → Prop) : Prop where
  removes : ∀ present entry rest, Good (entry :: rest) present → isBackup entry = true →
    present entry ≠ none →
    Good (entry :: rest) (update present (fileStem entry) none)
  renames : ∀ present entry rest bytes, Good (entry :: rest) present → isBackup entry = true →
    present entry = some bytes → present (fileStem entry) = none →
    Good rest (update (update present entry none) (fileStem entry) (some bytes))
  unstages : ∀ present entry rest, Good (entry :: rest) present → isStaging entry = true →
    Good rest (update present entry none)
  skips : ∀ present entry rest, Good (entry :: rest) present → isBackup entry = false →
    isStaging entry = false → Good rest present

/-- Between the two steps of a restoration the original name is free. -/
def Replacing (contents : Contents) (wal : Option Bytes) (name entry : FileName)
    (Good : List FileName → Content → Prop) (rest : List FileName) (disk : Disk) : Prop :=
  disk.wal = wal ∧ (entry :: rest).Nodup ∧
    ∃ present, disk.contents = update contents name (some present) ∧
      Good (entry :: rest) present ∧ present entry ≠ none ∧ present (fileStem entry) = none ∧
      ∀ other ∈ rest, other ≠ fileStem entry → present other ≠ none

section

variable (invariant : RestoreInvariant Good)

include invariant

theorem removeStem_spec {entry : FileName} (rest : List FileName) (backup : isBackup entry = true)
    (stemExists : Bool) :
    Triple Env.Faultless (fun disk => Restoring contents wal name Good (entry :: rest) disk ∧
        (disk.contents.file name (fileStem entry)).isSome = stemExists)
      (Program.whenever stemExists (removeFile name (fileStem entry)))
      (fun _ => Replacing contents wal name entry Good rest)
      (fun _ => False) (SomeRestoring contents wal name Good) := by
  have apart : entry ≠ fileStem entry := (fileStem_ne_self backup).symm
  refine Triple.whenever (fun removing => ?_) (fun missing => ?_)
  · refine Triple.calmStep (fun _ start => start.1.some) ?_ ?_
    · rintro disk next ⟨⟨same, nodup, present, stored, good, there⟩, _⟩ removed
      obtain ⟨sameWal, _, content, found, _, changed⟩ := Disk.removeFile_ok removed
      rw [stored, update_self] at found
      cases found
      rw [stored, update_idem] at changed
      have goodAfter := invariant.removes _ _ _ good backup (there entry (by simp))
      refine ⟨⟨sameWal.trans same, _, _, changed, goodAfter⟩, sameWal.trans same, nodup, _,
        changed, goodAfter, ?_, update_self .., ?_⟩
      · rw [update_of_ne apart]
        exact there entry (by simp)
      · intro other mem ne
        rw [update_of_ne ne]
        exact there other (List.mem_cons_of_mem _ mem)
    · rintro disk error ⟨_, exists_⟩ refused
      simp [Disk.removeFile_error refused, removing] at exists_
  · rintro disk ⟨⟨same, nodup, present, stored, good, there⟩, exists_⟩
    refine ⟨same, nodup, present, stored, good, there entry (by simp), ?_, ?_⟩
    · simpa [Contents.file, stored, missing] using exists_
    · exact fun other mem _ => there other (List.mem_cons_of_mem _ mem)

theorem renameBackup_spec {entry : FileName} (rest : List FileName) (backup : isBackup entry = true) :
    Triple Env.Faultless (Replacing contents wal name entry Good rest)
      (renameFile name entry (fileStem entry))
      (fun _ => Restoring contents wal name Good rest)
      (fun _ => False) (SomeRestoring contents wal name Good) := by
  refine Triple.calmStep ?_ ?_ ?_
  · rintro disk ⟨same, _, present, stored, good, _⟩
    exact ⟨same, _, present, stored, good⟩
  · rintro disk next ⟨same, nodup, present, stored, good, _, free, there⟩ renamed
    obtain ⟨sameWal, _, content, bytes, found, saved, changed⟩ := Disk.renameFile_ok renamed
    rw [stored, update_self] at found
    cases found
    rw [stored, update_idem] at changed
    obtain ⟨fresh, restNodup⟩ := List.nodup_cons.mp nodup
    have goodAfter := invariant.renames _ _ _ bytes good backup saved free
    refine ⟨⟨sameWal.trans same, _, _, changed, goodAfter⟩, sameWal.trans same, restNodup, _,
      changed, goodAfter, ?_⟩
    intro other mem
    by_cases here : other = fileStem entry
    · simp [here]
    · have ne : other ≠ entry := fun equal => fresh (equal ▸ mem)
      rw [update_of_ne here, update_of_ne ne]
      exact there other mem here
  · rintro disk error ⟨_, _, present, stored, _, saved, _⟩ refused
    have missing := Disk.renameFile_error refused
    simp only [Contents.file, stored, update_self, Option.bind_some] at missing
    exact saved missing

theorem restoreEntry_spec (entry : FileName) (rest : List FileName) :
    Triple Env.Faultless (Restoring contents wal name Good (entry :: rest))
      (restoreEntry name entry) (fun _ => Restoring contents wal name Good rest)
      (fun _ => False) (SomeRestoring contents wal name Good) := by
  have leave : ∀ disk, Restoring contents wal name Good (entry :: rest) disk →
      isBackup entry = false → isStaging entry = false →
      Restoring contents wal name Good rest disk := by
    rintro disk ⟨same, nodup, present, stored, good, there⟩ notBackup notStaging
    exact ⟨same, (List.nodup_cons.mp nodup).2, present, stored,
      invariant.skips _ _ _ good notBackup notStaging,
      fun other mem => there other (List.mem_cons_of_mem _ mem)⟩
  unfold restoreEntry
  cases backup : isBackup entry with
  | true =>
    refine Triple.bind (Triple.whenever (fun _ => Triple.lookThen fun stemExists =>
      Triple.bind (removeStem_spec invariant rest backup stemExists) fun _ =>
        renameBackup_spec invariant rest backup) (by simp)) fun _ => ?_
    refine Triple.whenever (fun staging => ?_) (fun _ _ done => done)
    rw [isStaging_eq_false_of_isBackup backup] at staging
    cases staging
  | false =>
    have skipped : Triple Env.Faultless (Restoring contents wal name Good (entry :: rest))
        (Program.whenever false (restoreBackup name entry))
        (fun _ => Restoring contents wal name Good (entry :: rest)) (fun _ => False)
        (SomeRestoring contents wal name Good) :=
      Triple.whenever (by simp) fun _ _ start => start
    refine Triple.bind skipped fun _ => ?_
    refine Triple.whenever (fun staging => ?_) (fun notStaging disk start =>
      leave disk start backup notStaging)
    refine Triple.calmStep (fun _ start => start.some) ?_ ?_
    · rintro disk next ⟨same, nodup, present, stored, good, there⟩ removed
      obtain ⟨sameWal, _, content, found, _, changed⟩ := Disk.removeFile_ok removed
      rw [stored, update_self] at found
      cases found
      rw [stored, update_idem] at changed
      obtain ⟨fresh, restNodup⟩ := List.nodup_cons.mp nodup
      have goodAfter := invariant.unstages _ _ _ good staging
      refine ⟨⟨sameWal.trans same, _, _, changed, goodAfter⟩, sameWal.trans same, restNodup,
        _, changed, goodAfter, ?_⟩
      intro other mem
      have ne : other ≠ entry := fun equal => fresh (equal ▸ mem)
      rw [update_of_ne ne]
      exact there other (List.mem_cons_of_mem _ mem)
    · rintro disk error ⟨_, _, present, stored, _, there⟩ refused
      have missing := Disk.removeFile_error refused
      simp only [Contents.file, stored, update_self, Option.bind_some] at missing
      exact there entry (by simp) missing

end

theorem restoreBakFilesInDir_spec (wal : Option Bytes) (invariant : RestoreInvariant Good)
    {present : Content}
    (stored : contents name = some present)
    (good : ∀ rest, Lists rest present → Good rest present) :
    Triple Env.Faultless (fun disk => disk.contents = contents ∧ disk.wal = wal)
      (restoreBakFilesInDir name) (fun _ => Restoring contents wal name Good [])
      (fun _ => False)
      (fun disk => (disk.contents = contents ∧ disk.wal = wal) ∨
        SomeRestoring contents wal name Good disk) := by
  have listing : Triple Env.Faultless (fun disk => disk.contents = contents ∧ disk.wal = wal)
      (readFolder name) (Restoring contents wal name Good) (fun _ => False)
      (fun disk => (disk.contents = contents ∧ disk.wal = wal) ∨
        SomeRestoring contents wal name Good disk) := by
    refine Triple.calmList (fun _ start => .inl start) ?_ ?_
    · rintro disk names listed ⟨rfl, rfl⟩ found permuted
      obtain ⟨content, sameStored, nodup, exactly⟩ := Disk.folderKeys_ok found
      rw [stored] at sameStored
      cases sameStored
      have lists : Lists listed present :=
        ⟨permuted.nodup_iff.mpr nodup, fun key => permuted.mem_iff.trans (exactly key)⟩
      refine ⟨rfl, lists.1, present, ?_, good listed lists,
        fun entry mem => (lists.2 entry).mp mem⟩
      rw [← stored, update_eq_self]
    · rintro disk error ⟨rfl, rfl⟩ refused
      simp [Disk.folderKeys_error refused] at stored
  refine Triple.bind listing fun entries => ?_
  exact Triple.consequence (Triple.forEach (restoreEntry_spec invariant) entries)
    (fun _ _ calm => calm) (fun _ start => start) (fun _ _ done => done) (fun _ no => no)
    (fun _ passed => .inr passed)

end RestoreFiles

section RestoreCollections

variable {target : Contents} {wal : Option Bytes} {name : FileName}

/-- A kept folder whose backups are all still to be visited. -/
def KeptWhile (name : FileName) (original : Content) (rest : List FileName)
    (present : Content) : Prop :=
  KeptFolder [] name original present ∧
    ∀ entry, present entry ≠ none → isBackup entry = true → entry ∈ rest

variable {entry : FileName} {operations : List Operation} {original present : Content}

theorem KeptFolder.saved {bytes : Bytes} (kept : KeptFolder operations name original present)
    (backup : isBackup entry = true) (found : present entry = some bytes) :
    original (fileStem entry) = some bytes := by
  obtain ⟨inhabited, whole⟩ := backupName_fileStem backup
  have plain : Original (fileStem entry) := by
    rcases kept.names entry (by simp [found]) with plain | ⟨base, plain, same⟩
    · rw [plain.2] at backup
      cases backup
    · rw [same, fileStem_backupName plain.1]
      exact plain
  cases stored : original (fileStem entry) with
  | none =>
    have unsaved := (kept.new _ plain stored).1
    rw [whole, found] at unsaved
    cases unsaved
  | some bytes' =>
    rcases kept.old _ _ stored with ⟨_, unsaved⟩ | saved
    · rw [whole, found] at unsaved
      cases unsaved
    · rw [whole, found] at saved
      exact saved.symm

section

variable {bytes : Bytes} (kept : KeptFolder operations name original present)
  (backup : isBackup entry = true) (found : present entry = some bytes)

include kept backup found

theorem KeptFolder.clear : KeptFolder operations name original
      (update present (fileStem entry) none) := by
  have stored := kept.saved backup found
  have plainStem := (kept.originalPlain (fileStem entry) (by simp [stored])).1
  have whole := (backupName_fileStem backup).2
  have backupValue : ∀ key, Original key →
      update present (fileStem entry) none (backupName key) = present (backupName key) := by
    intro key original
    rw [update_of_ne (plainStem.backupName_ne original).symm]
  refine ⟨kept.originalPlain, ?_, ?_, ?_⟩
  · intro key there
    by_cases atStem : key = fileStem entry
    · exact .inl (atStem ▸ plainStem)
    · rw [update_of_ne atStem] at there
      exact kept.names key there
  · intro key bytes' inOriginal
    have plainKey := (kept.originalPlain key (by simp [inOriginal])).1
    rw [backupValue key plainKey]
    by_cases atStem : key = fileStem entry
    · subst atStem
      rw [stored] at inOriginal
      cases inOriginal
      exact .inr (by rw [whole, found])
    · rw [update_of_ne atStem]
      exact kept.old key bytes' inOriginal
  · intro key plainKey fresh
    have notStem : key ≠ fileStem entry := by
      rintro rfl
      simp [stored] at fresh
    rw [backupValue key plainKey, update_of_ne notStem]
    exact kept.new key plainKey fresh

theorem KeptFolder.restore : KeptFolder operations name original
      (update (update present entry none) (fileStem entry) (some bytes)) := by
  have stored := kept.saved backup found
  have plainStem := (kept.originalPlain (fileStem entry) (by simp [stored])).1
  obtain ⟨inhabited, whole⟩ := backupName_fileStem backup
  have value : ∀ key, key ≠ fileStem entry → key ≠ entry →
      update (update present entry none) (fileStem entry) (some bytes) key =
        present key := by
    intro key notStem notEntry
    rw [update_of_ne notStem, update_of_ne notEntry]
  have plainApart : ∀ key, Original key → key ≠ entry := by
    rintro key plain rfl
    rw [plain.2] at backup
    cases backup
  have backupApart : ∀ key, Original key → backupName key ≠ fileStem entry :=
    fun key plain => (plainStem.backupName_ne plain).symm
  refine ⟨kept.originalPlain, ?_, ?_, ?_⟩
  · intro key there
    by_cases atStem : key = fileStem entry
    · exact .inl (atStem ▸ plainStem)
    · by_cases atEntry : key = entry
      · exact .inr ⟨fileStem entry, plainStem, by rw [whole, atEntry]⟩
      · rw [value key atStem atEntry] at there
        exact kept.names key there
  · intro key bytes' inOriginal
    have plainKey := (kept.originalPlain key (by simp [inOriginal])).1
    by_cases atStem : key = fileStem entry
    · subst atStem
      rw [stored] at inOriginal
      cases inOriginal
      refine .inl ⟨by simp, ?_⟩
      rw [whole, update_of_ne (fileStem_ne_self backup).symm, update_self]
    · have backupAway : backupName key ≠ entry := by
        rintro same
        exact atStem (by rw [← same, fileStem_backupName plainKey.1])
      rw [value key atStem (plainApart key plainKey), value _ (backupApart key plainKey) backupAway]
      exact kept.old key bytes' inOriginal
  · intro key plainKey fresh
    have atStem : key ≠ fileStem entry := by
      rintro rfl
      simp [stored] at fresh
    have backupAway : backupName key ≠ entry := by
      rintro same
      exact atStem (by rw [← same, fileStem_backupName plainKey.1])
    rw [value key atStem (plainApart key plainKey), value _ (backupApart key plainKey) backupAway]
    exact kept.new key plainKey fresh

end

theorem restoreInvariant_keptWhile (name : FileName) (original : Content) :
    RestoreInvariant (KeptWhile name original) := by
  refine ⟨?_, ?_, ?_, ?_⟩
  · rintro present entry rest ⟨kept, listed⟩ backup there
    obtain ⟨bytes, found⟩ := Option.ne_none_iff_exists'.mp there
    refine ⟨kept.clear backup found, fun other present otherBackup => listed other ?_ otherBackup⟩
    intro missing
    by_cases atStem : other = fileStem entry
    · simp [atStem] at present
    · rw [update_of_ne atStem] at present
      exact present missing
  · rintro present entry rest bytes ⟨kept, listed⟩ backup found _
    refine ⟨kept.restore backup found, ?_⟩
    intro other there otherBackup
    have plainStem := kept.originalPlain (fileStem entry) (by simp [kept.saved backup found])
    have notStem : other ≠ fileStem entry := by
      rintro rfl
      rw [plainStem.1.2] at otherBackup
      cases otherBackup
    have notEntry : other ≠ entry := by
      rintro rfl
      simp [update_of_ne notStem] at there
    rw [update_of_ne notStem, update_of_ne notEntry] at there
    rcases List.mem_cons.mp (listed other there otherBackup) with same | mem
    · exact absurd same notEntry
    · exact mem
  · rintro present entry rest ⟨kept, listed⟩ staging
    have missing : present entry = none := by
      by_contra there
      rcases kept.names entry there with plain | ⟨base, plain, rfl⟩
      · cases stored : original entry with
        | some bytes =>
          rw [(kept.originalPlain entry (by simp [stored])).2] at staging
          cases staging
        | none =>
          obtain ⟨operation, mem, _⟩ := (kept.new entry plain stored).2 there
          simp at mem
      · simp [isStaging_backupName plain.1] at staging
    rw [← missing, update_eq_self]
    refine ⟨kept, fun other there otherBackup => ?_⟩
    rcases List.mem_cons.mp (listed other there otherBackup) with rfl | mem
    · exact absurd missing there
    · exact mem
  · rintro present entry rest ⟨kept, listed⟩ notBackup _
    refine ⟨kept, fun other there otherBackup => ?_⟩
    rcases List.mem_cons.mp (listed other there otherBackup) with rfl | mem
    · rw [notBackup] at otherBackup
      cases otherBackup
    · exact mem

/-- The loop of `rollback_partial_commit`: whatever is still a backup is still
to be visited. -/
structure Settling (target : Contents) (wal : Option Bytes) (rest : List FileName)
    (disk : Disk) : Prop where
  undoing : Undoing target wal [] disk
  nodup : rest.Nodup
  names : ∀ entry ∈ rest, Original entry ∨ ∃ base, Original base ∧ entry = backupName base
  folders : ∀ name, Original name → disk.contents (backupName name) ≠ none → backupName name ∈ rest
  files : ∀ name content key, Original name → disk.contents name = some content →
    disk.contents (backupName name) = none → isBackup key = true → content key ≠ none →
    name ∈ rest

theorem KeptWhile.eq_original (kept : KeptWhile name original [] present) : present = original := by
  obtain ⟨folder, settled⟩ := kept
  have noBackup : ∀ entry, isBackup entry = true → present entry = none := by
    intro entry backup
    by_contra there
    simpa using settled entry there backup
  funext key
  cases stored : original key with
  | some bytes =>
    have plain := (folder.originalPlain key (by simp [stored])).1
    rcases folder.old key bytes stored with ⟨found, _⟩ | saved
    · exact found
    · rw [noBackup _ plain.isBackup_backupName] at saved
      cases saved
  | none =>
    by_contra found
    rcases folder.names key found with plain | ⟨base, plain, rfl⟩
    · obtain ⟨operation, mem, _⟩ := (folder.new key plain stored).2 found
      simp at mem
    · exact found (noBackup _ plain.isBackup_backupName)

theorem RecoverableAt.settled {present : Option Content} {target : Option Content}
    (here : RecoverableAt [] name target present none)
    (settled : ∀ content key, present = some content → isBackup key = true →
      content key = none) : present = target := by
  cases here with
  | kept folder =>
    rw [KeptWhile.eq_original ⟨folder, fun key there backup =>
      absurd (settled _ key rfl backup) there⟩]
  | absent => rfl
  | copied copies => simp at copies
  | created folder =>
    obtain ⟨before, operation, after, split, _⟩ := folder
    simp at split

theorem Settling.eq_target (plain : PlainContents target) {disk : Disk}
    (settling : Settling target wal [] disk) : disk.contents = target := by
  have noBackup : ∀ name, Original name → disk.contents (backupName name) = none := by
    intro name plainName
    by_contra there
    simpa using settling.folders name plainName there
  funext name
  by_cases plainName : Original name
  · have here := settling.undoing.1.each name plainName
    rw [noBackup name plainName] at here
    refine here.settled ?_
    intro content key stored backup
    by_contra there
    simpa using settling.files name content key plainName stored (noBackup name plainName)
      backup there
  · have missing : target name = none := by
      by_contra there
      exact plainName (plain.names name there)
    rw [missing]
    by_contra there
    rcases settling.undoing.1.names name there with plainName' | ⟨base, plainBase, rfl⟩
    · exact plainName plainName'
    · exact there (noBackup base plainBase)

variable {rest : List FileName}

theorem Settling.skip {disk : Disk} (settling : Settling target wal (entry :: rest) disk)
    (missing : disk.contents entry = none) : Settling target wal rest disk := by
  refine ⟨settling.undoing, (List.nodup_cons.mp settling.nodup).2,
    fun other mem => settling.names other (List.mem_cons_of_mem _ mem), ?_, ?_⟩
  · intro name plain there
    rcases List.mem_cons.mp (settling.folders name plain there) with same | mem
    · rw [same] at there
      exact absurd missing there
    · exact mem
  · intro name content key plain stored unsaved backup there
    rcases List.mem_cons.mp (settling.files name content key plain stored unsaved backup there)
      with same | mem
    · rw [same, missing] at stored
      cases stored
    · exact mem

theorem Settling.afterFiles {start disk : Disk}
    {present : Content} (settling : Settling target wal (entry :: rest) start)
    (plain : Original entry) (sameWal : disk.wal = wal)
    (changed : disk.contents = update start.contents entry (some present))
    (here : RecoverableAt [] entry (target entry) (some present)
      (start.contents (backupName entry)))
    (settled : start.contents (backupName entry) = none →
      ∀ key, isBackup key = true → present key = none) :
    Settling target wal rest disk := by
  have sameBackup : ∀ name, Original name →
      disk.contents (backupName name) = start.contents (backupName name) := by
    intro name plainName
    rw [changed, update_of_ne (plain.backupName_ne plainName).symm]
  refine ⟨⟨?_, sameWal⟩, (List.nodup_cons.mp settling.nodup).2,
    fun other mem => settling.names other (List.mem_cons_of_mem _ mem), ?_, ?_⟩
  · rw [changed]
    exact settling.undoing.1.updateLive plain here
  · intro name plainName there
    rw [sameBackup name plainName] at there
    rcases List.mem_cons.mp (settling.folders name plainName there) with same | mem
    · exact absurd same.symm (plain.backupName_ne plainName)
    · exact mem
  · intro name content key plainName stored unsaved backup there
    rw [sameBackup name plainName] at unsaved
    by_cases same : name = entry
    · subst same
      rw [changed, update_self, Option.some.injEq] at stored
      rw [← stored, settled unsaved key backup] at there
      exact absurd rfl there
    · rw [changed, update_of_ne same] at stored
      rcases List.mem_cons.mp
        (settling.files name content key plainName stored unsaved backup there) with equal | mem
      · exact absurd equal same
      · exact mem

theorem rollbackFiles_spec (rest : List FileName) (plain : Original entry) : Triple Env.Faultless
      (fun disk => Settling target wal (entry :: rest) disk ∧ (disk.contents entry).isSome = true)
      (restoreBakFilesInDir entry) (fun _ => Settling target wal rest) (fun _ => False)
      (Undoing target wal []) := by
  refine Triple.given id fun start => ?_
  refine Triple.assume (Settling target wal (entry :: rest) start ∧
    (start.contents entry).isSome = true) ?_ fun facts => ?_
  · rintro disk ⟨facts, rfl⟩
    exact facts
  obtain ⟨settling, found⟩ := facts
  obtain ⟨recoverable, same⟩ := settling.undoing
  obtain ⟨present, stored⟩ := Option.isSome_iff_exists.mp found
  have fromGood : ∀ Good : List FileName → Content → Prop, RestoreInvariant Good →
      (∀ listed, Lists listed present → Good listed present) →
      (∀ listed content, Good listed content → RecoverableAt [] entry (target entry)
        (some content) (start.contents (backupName entry))) →
      (∀ content, Good [] content → start.contents (backupName entry) = none →
        ∀ key, isBackup key = true → content key = none) →
      Triple Env.Faultless (fun disk => (Settling target wal (entry :: rest) disk ∧
          (disk.contents entry).isSome = true) ∧ id disk = start)
        (restoreBakFilesInDir entry) (fun _ => Settling target wal rest) (fun _ => False)
        (Undoing target wal []) := by
    intro Good invariant good recovers settled
    refine Triple.consequence (restoreBakFilesInDir_spec wal invariant stored good)
      (fun _ _ calm => calm) ?_ ?_ (fun _ no => no) ?_
    · rintro disk ⟨_, rfl⟩
      exact ⟨rfl, same⟩
    · rintro _ disk ⟨sameWal, _, content, changed, goodContent, _⟩
      exact settling.afterFiles plain sameWal changed (recovers [] content goodContent)
        (settled content goodContent)
    · rintro disk (⟨unchanged, sameWal⟩ | ⟨sameWal, listed, content, changed, goodContent⟩)
      · exact ⟨unchanged ▸ recoverable, sameWal⟩
      · refine ⟨?_, sameWal⟩
        rw [changed]
        exact recoverable.updateLive plain (recovers listed content goodContent)
  have here := recoverable.each entry plain
  rw [stored] at here
  generalize original : target entry = before at here fromGood
  generalize saved : start.contents (backupName entry) = backup at here fromGood
  cases here with
  | displaced plainKeys =>
    -- The folder is thrown away later, so nothing is needed of it.
    exact fromGood (fun _ _ => True)
      ⟨fun _ _ _ _ _ _ => trivial, fun _ _ _ _ _ _ _ _ => trivial, fun _ _ _ _ _ => trivial,
        fun _ _ _ _ _ _ => trivial⟩
      (fun _ _ => trivial) (fun _ _ _ => .displaced plainKeys) (fun _ _ unsaved => by cases unsaved)
  | @kept originalContent _ folder =>
    refine fromGood (KeptWhile entry originalContent) (restoreInvariant_keptWhile _ _)
      (fun listed lists => ⟨folder, fun key there _ => (lists.2 key).mpr there⟩)
      (fun _ _ good => .kept good.1) ?_
    intro content good _ key backup
    by_contra there
    simpa using good.2 key there backup
  | copied copies => simp at copies
  | created folder =>
    obtain ⟨_, _, _, split, _⟩ := folder
    simp at split

theorem RecoverableAt.displaced_of_backup {before present : Option Content}
    {original : Content} (here : RecoverableAt operations name before present (some original)) :
    before = some original ∧ ∀ key, original key ≠ none → Plain key := by
  cases here with
  | displaced plainKeys => exact ⟨rfl, plainKeys⟩

theorem Settling.afterFolder {base : FileName} {start disk : Disk}
    {original : Content} (settling : Settling target wal (backupName base :: rest) start)
    (plain : Original base) (sameWal : disk.wal = wal)
    (stored : start.contents (backupName base) = some original)
    (changed : disk.contents = update
      (update start.contents base (some original)) (backupName base) none) :
    Settling target wal rest disk := by
  have here := settling.undoing.1.each base plain
  rw [stored] at here
  obtain ⟨sameTarget, plainKeys⟩ := here.displaced_of_backup
  have other : ∀ name, name ≠ base → name ≠ backupName base →
      disk.contents name = start.contents name := by
    intro name notBase notBackup
    rw [changed, update_of_ne notBackup, update_of_ne notBase]
  refine ⟨⟨?_, sameWal⟩, (List.nodup_cons.mp settling.nodup).2,
    fun other mem => settling.names other (List.mem_cons_of_mem _ mem), ?_, ?_⟩
  · rw [changed]
    refine settling.undoing.1.updateBoth plain ?_
    rw [sameTarget]
    exact .kept (.refl plainKeys)
  · intro name plainName there
    have notBackup : backupName name ≠ backupName base := by
      intro same
      simp [changed, same] at there
    rw [other _ (plain.backupName_ne plainName).symm notBackup] at there
    rcases List.mem_cons.mp (settling.folders name plainName there) with same | mem
    · exact absurd same notBackup
    · exact mem
  · intro name content key plainName found unsaved backup there
    have notBackup : name ≠ backupName base := plainName.backupName_ne plain
    by_cases same : name = base
    · subst same
      rw [changed, update_of_ne notBackup, update_self] at found
      cases found
      have plainKey := plainKeys key there
      rw [plainKey.1.2] at backup
      cases backup
    · have backupApart : backupName name ≠ backupName base := by simpa using same
      rw [other name same notBackup] at found
      rw [other _ (plain.backupName_ne plainName).symm backupApart] at unsaved
      rcases List.mem_cons.mp
        (settling.files name content key plainName found unsaved backup there) with equal | mem
      · exact absurd equal notBackup
      · exact mem

theorem restoreCollection_spec {base : FileName} (rest : List FileName) (plain : Original base) :
    Triple Env.Faultless (fun disk => Settling target wal (backupName base :: rest) disk ∧
        (disk.contents (backupName base)).isSome = true)
      (restoreCollection (backupName base)) (fun _ => Settling target wal rest)
      (fun _ => False) (Undoing target wal []) := by
  unfold restoreCollection
  rw [fileStem_backupName plain.1]
  have apart : base ≠ backupName base := (backupName_ne_self base).symm
  refine Triple.given id fun start => ?_
  refine Triple.assume (Settling target wal (backupName base :: rest) start ∧
    (start.contents (backupName base)).isSome = true) ?_ fun facts => ?_
  · rintro disk ⟨facts, rfl⟩
    exact facts
  obtain ⟨settling, found⟩ := facts
  obtain ⟨recoverable, same⟩ := settling.undoing
  obtain ⟨original, stored⟩ := Option.isSome_iff_exists.mp found
  have here := recoverable.each base plain
  rw [stored] at here
  obtain ⟨sameTarget, plainKeys⟩ := here.displaced_of_backup
  -- While the backup exists the live directory may hold anything.
  have anyLive : ∀ content,
      Recoverable target [] (update start.contents base content) := by
    intro content
    refine recoverable.updateLive plain ?_
    rw [sameTarget, stored]
    exact .displaced plainKeys
  have cleared : ∀ exists_, Triple Env.Faultless
      (fun disk => ((Settling target wal (backupName base :: rest) disk ∧
        (disk.contents (backupName base)).isSome = true) ∧ id disk = start) ∧
        (disk.contents base).isSome = exists_)
      (Program.whenever exists_ (removeDirAll base))
      (fun _ disk => disk.contents = update start.contents base none ∧ disk.wal = wal)
      (fun _ => False) (Undoing target wal []) := by
    refine fun exists_ => Triple.whenever (fun removing => ?_) (fun missing => ?_)
    · refine Triple.consequence (removeDirAll_spec start.contents wal base .faultless)
        (fun _ _ calm => calm) ?_ (fun _ _ done => done) (fun _ no => no) ?_
      · rintro disk ⟨⟨_, rfl⟩, live⟩
        rw [removing] at live
        exact ⟨rfl, same, Option.isSome_iff_ne_none.mp live⟩
      · rintro disk ⟨sameWal, content, changed⟩
        exact ⟨changed ▸ anyLive content, sameWal⟩
    · rintro disk ⟨⟨_, rfl⟩, live⟩
      rw [missing] at live
      have gone : disk.contents base = none := by simpa using live
      refine ⟨?_, same⟩
      rw [← gone, id, update_eq_self]
  refine Triple.lookThen fun exists_ => Triple.bind (cleared exists_) fun _ =>
    Triple.calmStep ?_ ?_ ?_
  · rintro disk ⟨changed, sameWal⟩
    exact ⟨changed ▸ anyLive none, sameWal⟩
  · rintro disk next ⟨changed, sameWal⟩ renamed
    obtain ⟨keptWal, _, content, source, _, moved⟩ := Disk.renameDir_ok renamed
    rw [changed, update_of_ne apart.symm, stored] at source
    cases source
    have result : next.contents = update
        (update start.contents base (some original)) (backupName base) none := by
      rw [moved, changed, update_comm apart, update_idem, update_comm apart.symm]
    have settled := settling.afterFolder plain (keptWal.trans sameWal) stored result
    exact ⟨settled.undoing, settled⟩
  · rintro disk error ⟨changed, _⟩ refused
    rcases Disk.renameDir_error refused with missing | ⟨occupied, key, live, _⟩
    · rw [changed, update_of_ne apart.symm, stored] at missing
      cases missing
    · rw [changed, update_self] at live
      cases live

theorem rollbackEntry_spec (entry : FileName) (rest : List FileName) :
    Triple Env.Faultless (Settling target wal (entry :: rest)) (rollbackEntry entry)
      (fun _ => Settling target wal rest) (fun _ => False) (Undoing target wal []) := by
  refine Triple.assume (Original entry ∨ ∃ base, Original base ∧ entry = backupName base)
    (fun _ settling => settling.names entry (by simp)) fun named => ?_
  refine Triple.lookThen fun exists_ => Triple.whenever (fun found => ?_) (fun missing => ?_)
  · subst found
    rcases named with plain | ⟨base, plain, rfl⟩
    · rw [plain.2]
      exact rollbackFiles_spec rest plain
    · rw [plain.isBackup_backupName]
      exact restoreCollection_spec rest plain
  · rintro disk ⟨settling, live⟩
    rw [missing] at live
    exact settling.skip (by simpa using live)

/-- From a recoverable state without operations left, restoring the backups
ends in the target. -/
theorem rollbackPartialCommit_spec (plain : PlainContents target) :
    Triple Env.Faultless (Undoing target wal []) rollbackPartialCommit
      (fun _ disk => disk.contents = target ∧ disk.wal = wal) (fun _ => False)
      (Undoing target wal []) := by
  have listing : Triple Env.Faultless (Undoing target wal []) readCollections
      (Settling target wal) (fun _ => False) (Undoing target wal []) := by
    refine Triple.calmList (fun _ start => start) ?_ (by simp)
    rintro disk names listed undoing found permuted
    cases found
    have lists := disk.lists_keys
    have exactly : ∀ name, name ∈ listed ↔ disk.contents name ≠ none :=
      fun name => permuted.mem_iff.trans (lists.2 name)
    refine ⟨undoing, permuted.nodup_iff.mpr lists.1, ?_, ?_, ?_⟩
    · exact fun entry mem => undoing.1.names entry ((exactly entry).mp mem)
    · exact fun name _ there => (exactly _).mpr there
    · exact fun name content key _ stored _ _ _ => (exactly name).mpr (by simp [stored])
  refine Triple.bind listing fun entries => ?_
  refine Triple.consequence (Triple.forEach rollbackEntry_spec entries) (fun _ _ calm => calm)
    (fun _ start => start) ?_ (fun _ no => no) (fun _ passed => passed)
  exact fun _ disk settling => ⟨settling.eq_target plain, settling.undoing.2⟩

end RestoreCollections

end DiagnosticAdapter.Storage
