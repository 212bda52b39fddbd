import DiagnosticAdapter.Storage.Idempotence

/-!
# A log that was cut before anything was applied

Recovery undoes the operations it can read from the log as if they had been
applied.  From a plain storage this removes exactly the files that one of them
would have overwritten.
-/

namespace DiagnosticAdapter.Storage

open Effects Function

def Contents.withoutWritten (operations : List Operation) (contents : Contents) : Contents :=
  fun name => (contents name).map fun content key =>
    if operations.any (Operation.writesTo name key) then none else content key

section Contents

variable {contents : Contents} {operations : List Operation} {operation : Operation}
  {name key : FileName}

@[simp]
theorem withoutWritten_nil : contents.withoutWritten [] = contents := by
  funext name
  simp [Contents.withoutWritten]

theorem withoutWritten_eq_none : contents.withoutWritten operations name = none ↔
    contents name = none := by
  simp [Contents.withoutWritten]

theorem file_withoutWritten : (contents.withoutWritten operations).file name key =
    if operations.any (Operation.writesTo name key) then none else contents.file name key := by
  cases stored : contents name with
  | none | some content => simp [Contents.file, Contents.withoutWritten, stored]

theorem PlainContents.withoutWritten (plain : PlainContents contents)
    (operations : List Operation) : PlainContents (contents.withoutWritten operations) := by
  refine ⟨fun name there => plain.names name fun missing => there
    (withoutWritten_eq_none.mpr missing), ?_⟩
  intro name content stored key there
  simp only [Contents.withoutWritten, Option.map_eq_some_iff] at stored
  obtain ⟨whole, found, rfl⟩ := stored
  apply plain.keys name whole found
  intro missing
  simp [missing] at there

theorem PlainContents.file_backupName (plain : PlainContents contents) (inhabited : key ≠ []) :
    contents.file name (backupName key) = none := by
  by_contra there
  obtain ⟨content, stored, inside⟩ := Contents.exists_of_file there
  have plainKey := plain.keys name content stored (backupName key) inside
  rw [Plain, Original, isBackup_backupName inhabited] at plainKey
  cases plainKey.1.2

theorem withoutWritten_append_silent
    (silent : ∀ name key, (contents.withoutWritten operations).file name key ≠ none →
      operation.writesTo name key = false) :
    contents.withoutWritten (operations ++ [operation]) = contents.withoutWritten operations := by
  funext name
  unfold Contents.withoutWritten
  cases stored : contents name with
  | none => rfl
  | some content =>
    simp only [Option.map_some, Option.some.injEq]
    funext key
    cases written : operations.any (Operation.writesTo name key) with
    | true => simp [written]
    | false =>
      cases found : content key with
      | none => simp
      | some bytes =>
        have there : (contents.withoutWritten operations).file name key ≠ none := by
          rw [file_withoutWritten, written]
          simp [Contents.file, stored, found]
        simp [written, silent name key there]

theorem withoutWritten_append_write {collection : CollectionName} {staged : FileName}
    {content : Content}
    (stored : contents.withoutWritten operations collection.asStr = some content) :
    contents.withoutWritten (operations ++ [.write collection key staged]) =
      update (contents.withoutWritten operations) collection.asStr
        (some (update content key none)) := by
  funext name
  by_cases sameName : name = collection.asStr
  · subst sameName
    simp only [Contents.withoutWritten, Option.map_eq_some_iff] at stored
    obtain ⟨whole, found, rfl⟩ := stored
    rw [update_self]
    simp only [Contents.withoutWritten, found, Option.map_some, Option.some.injEq]
    funext other
    by_cases sameKey : other = key
    · subst sameKey
      simp [Operation.writesTo]
    · rw [update_of_ne sameKey]
      simp [Operation.writesTo, Ne.symm sameKey]
  · rw [update_of_ne sameName]
    unfold Contents.withoutWritten
    cases contents name with
    | none => rfl
    | some whole => simp [Operation.writesTo, Ne.symm sameName]

theorem withoutWritten_eq_self_iff :
    contents.withoutWritten operations = contents ↔ WritesNewKeys contents operations := by
  refine ⟨fun same operation mem name key writes => ?_, fun fresh => ?_⟩
  · rw [← same, file_withoutWritten, if_pos (List.any_eq_true.mpr ⟨operation, mem, writes⟩)]
  · funext name
    unfold Contents.withoutWritten
    cases stored : contents name with
    | none => rfl
    | some content =>
      simp only [Option.map_some, Option.some.injEq]
      funext key
      split
      · rename_i written
        obtain ⟨operation, mem, writes⟩ := List.any_eq_true.mp written
        have missing := fresh operation mem name key writes
        simpa [Contents.file, stored] using missing.symm
      · rfl

end Contents

section Undo

variable {contents : Contents} {data : Bytes} {operations : List Operation}

theorem removeNewArtifact_unapplied (plain : PlainContents contents) {done : List Operation}
    {operation : Operation} (recordable : Recordable contents operation) :
    Triple Env.Faultless (Holds (contents.withoutWritten done) (some data))
      (removeNewArtifact operation)
      (fun _ => Holds (contents.withoutWritten (done ++ [operation])) (some data))
      (fun _ => False) (fun _ => True) := by
  have plainDone := plain.withoutWritten done
  have unchanged : (∀ name key, (contents.withoutWritten done).file name key ≠ none →
      operation.writesTo name key = false) → ∀ disk,
      Holds (contents.withoutWritten done) (some data) disk →
      Holds (contents.withoutWritten (done ++ [operation])) (some data) disk := by
    intro silent disk state
    rwa [withoutWritten_append_silent silent]
  cases operation with
  | write collection key staged =>
    have inhabited := recordable.2.1.ne_nil
    refine Triple.lookThen fun targetExists => Triple.lookThen fun backupExists =>
      Triple.whenever (fun removing => ?_) (fun keeping => ?_)
    · refine Triple.calmStep (fun _ _ => trivial) ?_ ?_
      · rintro disk next ⟨⟨⟨same, logged⟩, _⟩, _⟩ removed
        obtain ⟨sameWal, _, content, stored, _, changed⟩ := Disk.removeFile_ok removed
        rw [same] at stored changed
        exact ⟨trivial, by rw [changed, withoutWritten_append_write stored], sameWal.trans logged⟩
      · rintro disk error ⟨⟨_, there⟩, _⟩ refused
        have missing := Disk.removeFile_error refused
        simp_all
    · rintro disk ⟨⟨⟨same, logged⟩, there⟩, backup⟩
      rw [same, plainDone.file_backupName inhabited] at backup
      rw [← backup] at keeping
      rw [same, show targetExists = false by simpa using keeping] at there
      refine unchanged (fun name other found => ?_) disk ⟨same, logged⟩
      by_contra writes
      simp only [Operation.writesTo, Bool.not_eq_false, Bool.and_eq_true, beq_iff_eq] at writes
      obtain ⟨rfl, rfl⟩ := writes
      rw [Option.isSome_eq_false_iff, Option.isNone_iff_eq_none] at there
      exact found there
  | createCollection name =>
    have absent := recordable.2
    refine Triple.lookThen fun exists_ => Triple.whenever (fun there => ?_) (fun _ => ?_)
    · refine Triple.assume False ?_ False.elim
      rintro disk ⟨⟨same, _⟩, found⟩
      rw [there, Option.isSome_iff_ne_none, same] at found
      exact found (withoutWritten_eq_none.mpr absent)
    · exact fun disk start => unchanged (fun _ _ _ => rfl) disk start.1
  | copyCollection source dest destExisted =>
    have existed := recordable.2.2.2
    refine Triple.lookThen fun targetExists => Triple.lookThen fun backupExists =>
      Triple.whenever (fun removing => ?_) (fun _ => ?_)
    · refine Triple.assume False ?_ False.elim
      rintro disk ⟨⟨⟨same, _⟩, found⟩, _⟩
      simp only [Bool.and_eq_true, Bool.not_eq_true'] at removing
      rw [removing.1.2, Option.isSome_iff_ne_none, same, Ne, withoutWritten_eq_none] at found
      rw [removing.1.1] at existed
      exact found (by simpa using existed.symm)
    · exact fun disk start => unchanged (fun _ _ _ => rfl) disk start.1.1
  | delete collection key | deleteAll collection | deleteCollection name =>
    exact Triple.pure (unchanged fun _ _ _ => rfl)

/-- Undoing operations that were not applied removes the files they would have
overwritten. -/
theorem removeNewArtifacts_unapplied (plain : PlainContents contents)
    (recordable : ∀ operation ∈ operations, Recordable contents operation) :
    Triple Env.Faultless (Holds contents (some data)) (removeNewArtifacts operations)
      (fun _ => Holds (contents.withoutWritten operations.reverse) (some data))
      (fun _ => False) (fun _ => True) := by
  let kept (rest : List Operation) (disk : Disk) : Prop :=
    ∃ done, done ++ rest = operations.reverse ∧ Holds (contents.withoutWritten done) (some data) disk
  have turn : ∀ operation rest, Triple Env.Faultless (kept (operation :: rest))
      (removeNewArtifact operation) (fun _ => kept rest) (fun _ => False) (fun _ => True) := by
    rintro operation rest env site clock disk calm ⟨done, split, holds⟩
    have mem : operation ∈ operations := by
      rw [← List.mem_reverse, ← split]
      simp
    refine (removeNewArtifact_unapplied plain (recordable operation mem) env site clock disk
      calm holds).weaken (fun _ next state => ?_) (fun _ no => no) (fun _ passed => passed)
    exact ⟨done ++ [operation], by simpa using split, state⟩
  refine Triple.consequence (Triple.forEach turn operations.reverse) (fun _ _ calm => calm)
    (fun disk holds => ⟨[], by simp, by simpa using holds⟩) ?_ (fun _ no => no)
    (fun _ passed => passed)
  rintro _ disk ⟨done, split, holds⟩
  rw [List.append_nil] at split
  exact split ▸ holds

theorem withoutWritten_reverse :
    contents.withoutWritten operations.reverse = contents.withoutWritten operations := by
  funext name
  simp [Contents.withoutWritten]

theorem rollback_unapplied (plain : PlainContents contents)
    (recordable : ∀ operation ∈ operations, Recordable contents operation) :
    Triple Env.Faultless (Holds contents (some data))
      (removeNewArtifacts operations >>= fun _ => rollbackPartialCommit)
      (fun _ => Holds (contents.withoutWritten operations) (some data))
      (fun _ => False) (fun _ => True) := by
  refine Triple.bind (removeNewArtifacts_unapplied plain recordable) fun _ => ?_
  rw [withoutWritten_reverse]
  have plainLeft := plain.withoutWritten operations
  refine Triple.consequence (rollbackPartialCommit_spec plainLeft) (fun _ _ calm => calm) ?_
    (fun _ _ done => done) (fun _ no => no) (fun _ _ => trivial)
  rintro disk ⟨same, logged⟩
  exact ⟨same ▸ plainLeft.recoverable [], logged⟩

end Undo

section Torn

variable {codec : Codec} {operations : List Operation} {start : Disk}

/-- The log was marked, but only its first `length` bytes are on the disk. -/
def Disk.torn (codec : Codec) (operations : List Operation) (length : Nat) (start : Disk) : Disk :=
  { start with wal := some ((walFile codec statusCommitting operations).take length) }

theorem walStatus_take_short {length : Nat} (short : length < walFileHeaderSize) :
    walStatus codec ((walFile codec statusCommitting operations).take length) = none := by
  have bound : ((walFile codec statusCommitting operations).take length).length < 8 :=
    lt_of_le_of_lt (List.length_take_le _ _) short
  generalize (walFile codec statusCommitting operations).take length = data at bound
  unfold walStatus
  split
  · simp only [List.length_cons] at bound
    omega
  · rfl

theorem take_walFile {length : Nat} (long : walFileHeaderSize ≤ length) :
    (walFile codec statusCommitting operations).take length = encodeHeader codec statusCommitting ++
        (operations.flatMap (encodeEntry codec)).take (length - walFileHeaderSize) := by
  rw [walFile, List.take_append, length_encodeHeader, List.take_of_length_le]
  rw [length_encodeHeader]
  exact long

theorem readWal_take {length : Nat} (long : walFileHeaderSize ≤ length)
    (fits : ∀ operation ∈ operations, (codec.toBytes operation).length < 4294967296) :
    readWal codec ((walFile codec statusCommitting operations).take length) =
      .ok ⟨entriesWithin codec operations (length - walFileHeaderSize),
        cutsEntry codec operations (length - walFileHeaderSize)⟩ := by
  rw [take_walFile long, readWal, List.drop_append, length_encodeHeader, Nat.sub_self,
    List.drop_zero, List.drop_eq_nil_of_le (le_of_eq (length_encodeHeader _)), List.nil_append]
  exact readEntries_take operations fits _ _

theorem entriesWithin_subset {budget : Nat} {operation : Operation}
    (mem : operation ∈ entriesWithin codec operations budget) : operation ∈ operations := by
  induction operations generalizing budget with
  | nil => cases mem
  | cons first rest ih =>
    unfold entriesWithin at mem
    split at mem
    · rcases List.mem_cons.mp mem with rfl | later
      · exact .head _
      · exact .tail _ (ih later)
    · cases mem

theorem entriesWithin_zero : entriesWithin codec operations 0 = [] := by
  cases operations with
  | nil => rfl
  | cons operation rest => simp [entriesWithin, length_encodeEntry, entryHeaderSize]

theorem hasBackupFiles_of_plain {disk : Disk} (plain : PlainContents disk.contents) :
    hasBackupFiles disk = false := by
  simp only [hasBackupFiles, List.any_eq_false, Bool.or_eq_true, not_or, Bool.not_eq_true,
    List.any_eq_true, not_exists, not_and]
  rintro ⟨name, folder⟩ mem
  have stored := Disk.contents_of_lookup (AList.mem_lookup_iff.mpr mem)
  refine ⟨(plain.names name (by simp [stored])).2, fun key there => ?_⟩
  exact (plain.keys name _ stored key (((Disk.lists_folder_keys folder).2 key).mp there)).1.2

/-- Before anything is applied, only a file to be overwritten looks like a new
artifact. -/
theorem hasNewArtifacts_eq_true_iff {disk : Disk} (plain : PlainContents disk.contents)
    (recordable : ∀ operation ∈ operations, Recordable disk.contents operation) :
    hasNewArtifacts operations disk = true ↔ ¬ WritesNewKeys disk.contents operations := by
  refine ⟨fun found fresh => ?_, fun stale => ?_⟩
  · obtain ⟨operation, mem, artifact⟩ := List.any_eq_true.mp found
    have checked := recordable operation mem
    cases operation with
    | write collection key staged =>
      have missing := fresh _ mem collection.asStr key (by simp [Operation.writesTo])
      simp [isNewArtifact, missing] at artifact
    | createCollection name => simp [isNewArtifact, checked.2] at artifact
    | copyCollection source dest destExisted =>
      simp only [isNewArtifact, checked.2.2.2, Bool.and_eq_true, Bool.not_eq_true'] at artifact
      rw [artifact.1.1] at artifact
      exact absurd artifact.1.2 (by simp)
    | delete collection key | deleteAll collection | deleteCollection name => cases artifact
  · by_contra clean
    apply stale
    intro operation mem name key writes
    have unseen := List.any_eq_false.mp (Bool.eq_false_iff.mpr clean) operation mem
    cases operation with
    | write collection written staged =>
      simp only [Operation.writesTo, Bool.and_eq_true, beq_iff_eq] at writes
      obtain ⟨rfl, rfl⟩ := writes
      have inhabited := (recordable _ mem).2.1.ne_nil
      simpa [isNewArtifact, plain.file_backupName inhabited] using unseen
    | _ => cases writes

theorem recoverCommitting_truncated (plain : PlainContents start.contents)
    (recordable : ∀ operation ∈ operations, Recordable start.contents operation) :
    Triple Env.Faultless (fun disk => disk = start) (recoverCommitting ⟨operations, true⟩)
      (fun _ => Holds (start.contents.withoutWritten operations) start.wal)
      (fun _ => ¬ WritesNewKeys start.contents operations) (fun _ => True) := by
  refine Triple.lookThen fun hasBackups => Triple.lookThen fun hasArtifacts => ?_
  have seen : ∀ disk, (disk = start ∧ hasBackupFiles disk = hasBackups) ∧
      hasNewArtifacts operations disk = hasArtifacts →
      disk = start ∧ hasBackups = false ∧
        (hasArtifacts = true ↔ ¬ WritesNewKeys start.contents operations) := by
    rintro disk ⟨⟨rfl, rfl⟩, rfl⟩
    exact ⟨rfl, hasBackupFiles_of_plain plain, hasNewArtifacts_eq_true_iff plain recordable⟩
  refine Triple.whenever (fun corrupt => ?_) (fun intact => ?_)
  · apply Triple.fail
    intro disk state
    obtain ⟨_, rfl, evidence⟩ := seen disk state
    exact evidence.mp (by simpa using corrupt)
  · intro disk state
    obtain ⟨rfl, rfl, evidence⟩ := seen disk state
    have fresh : WritesNewKeys disk.contents operations := by
      by_contra stale
      rw [evidence.mpr stale] at intact
      cases intact
    exact ⟨(withoutWritten_eq_self_iff.mpr fresh).symm, rfl⟩

theorem recoverCommitting_whole (plain : PlainContents start.contents) {data : Bytes}
    (logged : start.wal = some data)
    (recordable : ∀ operation ∈ operations, Recordable start.contents operation) :
    Triple Env.Faultless (fun disk => disk = start) (recoverCommitting ⟨operations, false⟩)
      (fun _ => Holds (start.contents.withoutWritten operations) start.wal)
      (fun _ => ¬ WritesNewKeys start.contents operations) (fun _ => True) := by
  rw [logged]
  refine Triple.consequence (rollback_unapplied plain recordable) (fun _ _ calm => calm) ?_
    (fun _ _ done => done) (fun _ no => no.elim) (fun _ _ => trivial)
  rintro disk rfl
  exact ⟨rfl, logged⟩

theorem recoverStatus_headless (plain : PlainContents start.contents) {failed : Disk → Prop} :
    Triple Env.Faultless (fun disk => disk = start) (recoverStatus codec none)
      (fun _ => Holds (start.contents.withoutWritten []) start.wal) failed (fun _ => True) := by
  have spec := @recoverStatus_none_spec codec start.contents start.wal
  refine Triple.consequence spec (fun _ _ calm => calm) ?_ ?_ (fun _ no => no.elim)
    (fun _ _ => trivial)
  · rintro disk rfl
    exact ⟨rfl, rfl⟩
  · rintro _ disk done
    rw [plain.withoutBackups_eq_self] at done
    rwa [withoutWritten_nil]

theorem recover_torn_spec (plain : PlainContents start.contents)
    (recordable : ∀ operation ∈ operations, Recordable start.contents operation)
    (fits : ∀ operation ∈ operations, (codec.toBytes operation).length < 4294967296)
    (length : Nat) :
    let readable := entriesWithin codec operations (length - walFileHeaderSize)
    Triple Env.Faultless (fun disk => disk = start.torn codec operations length) (recover codec)
      (fun _ => Holds (start.contents.withoutWritten readable) none)
      (fun _ => ¬ WritesNewKeys start.contents readable) (fun _ => True) := by
  intro readable
  let data := (walFile codec statusCommitting operations).take length
  have readableRecordable : ∀ operation ∈ readable, Recordable start.contents operation :=
    fun operation mem => recordable operation (entriesWithin_subset mem)
  have inner : Triple Env.Faultless (fun disk => disk = start.torn codec operations length)
      (recoverStatus codec (loggedStatus codec (some data)))
      (fun _ => Holds (start.contents.withoutWritten readable) (some data))
      (fun _ => ¬ WritesNewKeys start.contents readable) (fun _ => True) := by
    by_cases short : length < walFileHeaderSize
    · have nothing : readable = [] := by
        have zero : length - walFileHeaderSize = 0 := by omega
        simp only [readable, zero, entriesWithin_zero]
      have status : loggedStatus codec (some data) = none := by
        simp [loggedStatus, data, walStatus_take_short short]
      rw [status, nothing]
      exact @recoverStatus_headless codec (start.torn codec operations length) plain _
    · have long : walFileHeaderSize ≤ length := not_lt.mp short
      have status : loggedStatus codec (some data) = some (.committing, data) := by
        simp [loggedStatus, data, take_walFile long, walStatus_encodeHeader_append]
      have read : readWal codec data = .ok ⟨readable,
          cutsEntry codec operations (length - walFileHeaderSize)⟩ := readWal_take long fits
      rw [status]
      simp only [recoverStatus, read]
      refine Triple.ofExceptThen rfl ?_
      cases cutsEntry codec operations (length - walFileHeaderSize) with
      | false =>
        exact @recoverCommitting_whole _ (start.torn codec operations length) plain data rfl
          readableRecordable
      | true =>
        exact @recoverCommitting_truncated _ (start.torn codec operations length) plain
          readableRecordable
  have whole := @recover_spec codec (some data) (fun disk => disk = start.torn codec operations
    length) _ (fun _ => True) _ (fun _ _ _ => trivial) (fun _ _ => trivial)
    (Triple.consequence inner (fun _ _ calm => calm) (fun _ state => state.1)
      (fun _ _ done => done) (fun _ stale => stale) (fun _ passed => passed))
  refine Triple.consequence whole (fun _ _ calm => calm) ?_ (fun _ _ done => done)
    (fun _ stale => stale) (fun _ passed => passed)
  rintro disk rfl
  exact ⟨rfl, rfl⟩

/-- Recovery accepts the cut log and leaves everything as it was exactly when no
write that can still be read from it names an existing key. -/
theorem recover_torn_iff (recorded : Recorded codec operations start)
    (plain : PlainContents start.contents) (length : Nat) {later : Env Site FileName}
    (calm : later.Faultless .recover) (clock : Nat) :
    (recover codec later .recover clock (start.torn codec operations length)).result = .ok () ∧
        (recover codec later .recover clock
          (start.torn codec operations length)).state.contents = start.contents ↔
      WritesNewKeys start.contents
        (entriesWithin codec operations (length - walFileHeaderSize)) := by
  have checked := recorded.log.2
  obtain ⟨_, ended⟩ := recover_torn_spec plain (fun operation mem => (checked operation mem).1)
    (fun operation mem => (checked operation mem).2) length later .recover clock _ calm rfl
  cases result : (recover codec later .recover clock
      (start.torn codec operations length)).result with
  | ok value =>
    rw [result] at ended
    rw [ended.1, withoutWritten_eq_self_iff]
    exact ⟨fun both => both.2, fun fresh => ⟨rfl, fresh⟩⟩
  | error error =>
    rw [result] at ended
    refine ⟨fun both => ?_, fun fresh => absurd fresh ended⟩
    cases both.1

end Torn

/-- The log of the overwriting transaction is complete and nothing was applied:
the file is lost. -/
theorem recover_torn_loses_key : Recorded plainCodec overwriteOperations overwriteStart ∧
      PlainContents overwriteStart.contents ∧
      ¬ ((recover plainCodec (Env.calm Site FileName) .recover 0
            (overwriteStart.torn plainCodec overwriteOperations 100)).result = .ok () ∧
          (recover plainCodec (Env.calm Site FileName) .recover 0
            (overwriteStart.torn plainCodec overwriteOperations 100)).state.contents =
              overwriteStart.contents) := by
  refine ⟨overwriteStart_recorded, .of_forall (by decide), ?_⟩
  have complete : (overwriteStart.torn plainCodec overwriteOperations 100).wal =
      some (walFile plainCodec statusCommitting overwriteOperations) := by decide +kernel
  rw [recover_walFile (by decide) complete (Env.calm_faultless _)]
  rintro ⟨_, same⟩
  have file := congrFun (congrArg (fun contents => Contents.file contents databaseName.asStr) same)
    ['e', 'c', 'u']
  exact absurd file (by decide)

theorem recover_torn_iff_replace : (recover plainCodec (Env.calm Site FileName) .recover 0
          (replaceStart.torn plainCodec replaceOperations 20)).result = .ok () ∧
        (recover plainCodec (Env.calm Site FileName) .recover 0
          (replaceStart.torn plainCodec replaceOperations 20)).state.contents =
            replaceStart.contents ↔
      WritesNewKeys replaceStart.contents
        (entriesWithin plainCodec replaceOperations (20 - walFileHeaderSize)) :=
  recover_torn_iff replaceStart_recorded (.of_forall (by decide)) 20 (Env.calm_faultless _) 0

end DiagnosticAdapter.Storage
