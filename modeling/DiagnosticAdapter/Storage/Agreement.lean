import DiagnosticAdapter.Storage.Exclusion
import DiagnosticAdapter.Storage.KeyCommit
import DiagnosticAdapter.Storage.KeyLookup

/-!
# Listing and lookup agree

While no commit writes a key beside a file with another spelling of it, the
collection stands for the map of what was most recently committed.
-/

namespace DiagnosticAdapter.Storage

open Effects
open Lookup (Spelling)

variable {codec : Codec} {sanitizePaths : Bool} {collection : CollectionName}

section Changes

variable {latest files : FileName → Option Bytes} {recorded : List (Operation × Change)}

@[simp]
theorem Change.normalizeKey_key (change : Change) : normalizeKey change.key = change.key := by
  cases change <;> exact normalizeKey_normalizeKey _

theorem tidy_performChanges (tidy : keySpelling.Tidy latest files)
    (unrivalled : ∀ entry ∈ recorded, keySpelling.Unrivalled files entry.2.key) :
    keySpelling.Tidy (performChanges recorded latest) (performChanges recorded files) := by
  induction recorded generalizing latest files with
  | nil => exact tidy
  | cons entry rest ih =>
    apply ih
    · exact tidy.change entry.2.normalizeKey_key (unrivalled entry (by simp)) entry.2.content
    · intro other mem
      exact (unrivalled other (List.mem_cons_of_mem entry mem)).change
        entry.2.normalizeKey_key entry.2.content

theorem complete_performChanges (complete : keySpelling.Complete latest files) :
    keySpelling.Complete (performChanges recorded latest) (performChanges recorded files) := by
  induction recorded generalizing latest files with
  | nil => exact complete
  | cons entry rest ih =>
    exact ih (complete.change entry.2.normalizeKey_key entry.2.content)

theorem shown_performChanges {file : FileName}
    (shown : keySpelling.Shown (performChanges recorded files) file) :
    keySpelling.Shown files file ∨ ∃ entry ∈ recorded, file = entry.2.key := by
  induction recorded generalizing files with
  | nil => exact .inl shown
  | cons entry rest ih =>
    rcases ih shown with before | ⟨other, mem, same⟩
    · rcases before.of_update with same | earlier
      · exact .inr ⟨entry, by simp, same⟩
      · exact .inl earlier
    · exact .inr ⟨other, List.mem_cons_of_mem entry mem, same⟩

end Changes

/-- The collection stands for the map, and the log holds what the calls of the
transaction have asked for. -/
structure Consistent (codec : Codec) (sanitizePaths : Bool) (collection : CollectionName)
    (usage : Usage) : Prop where
  tidy : keySpelling.Tidy usage.latest (usage.disk.contents.file collection.asStr)
  accepted : AcceptedKeys sanitizePaths (usage.disk.contents.file collection.asStr)
  complete : isBackup collection.asStr = false →
    keySpelling.Complete usage.latest (usage.disk.contents.file collection.asStr)
  logged : ∀ recorded, usage.recording = some recorded →
    usage.disk.wal = some (walFile codec statusRecording (recorded.map Prod.fst))
  stand : ∀ recorded, usage.recording = some recorded → ∀ entry ∈ recorded,
    Stands sanitizePaths collection usage.disk entry

section Invariant

variable {usage : Usage} {key : FileName} {next : Disk}

theorem Stands.healed {entry : Operation × Change}
    (stands : Stands sanitizePaths collection usage.disk entry)
    (healed : Healed collection.asStr (normalizeKey key) usage.disk next) :
    Stands sanitizePaths collection next entry := by
  cases stands with
  | write accepted staged => exact .write accepted (by rw [healed.staging]; exact staged)
  | delete accepted there =>
    exact .delete accepted (healed.keeps (normalizeKey_normalizeKey _) there)

theorem Consistent.healed (consistent : Consistent codec sanitizePaths collection usage)
    (healed : Healed collection.asStr (normalizeKey key) usage.disk next) :
    Consistent codec sanitizePaths collection { usage with disk := next } := by
  refine ⟨healed.tidy consistent.tidy, fun file shown => ?_,
    fun original => healed.complete (consistent.complete original),
    fun recorded same => healed.wal.trans (consistent.logged recorded same),
    fun recorded same entry mem => (consistent.stand recorded same entry mem).healed healed⟩
  obtain ⟨before, shownBefore, same⟩ := healed.shown (normalizeKey_normalizeKey key) shown
  rw [← same]
  exact consistent.accepted before shownBefore

theorem Consistent.appended {recorded : List (Operation × Change)} {entry : Operation × Change}
    {middle : Disk}
    (consistent : Consistent codec sanitizePaths collection { usage with disk := middle })
    (recording : usage.recording = some recorded)
    (appended : Appended codec entry.1 middle next)
    (stands : Stands sanitizePaths collection middle entry) :
    Consistent codec sanitizePaths collection
      { usage with disk := next, recording := some (recorded ++ [entry]) } := by
  obtain ⟨sameContents, sameStaging, grown⟩ := appended
  have still : ∀ other, Stands sanitizePaths collection middle other →
      Stands sanitizePaths collection next other := by
    rintro _ (⟨accepted, staged⟩ | ⟨accepted, there⟩)
    · exact .write accepted (by rw [sameStaging]; exact staged)
    · exact .delete accepted (by rw [sameContents]; exact there)
  have logged := consistent.logged recorded recording
  refine ⟨?_, ?_, ?_, ?_, ?_⟩
  · rw [sameContents]
    exact consistent.tidy
  · rw [sameContents]
    exact consistent.accepted
  · rw [sameContents]
    exact consistent.complete
  · rintro _ ⟨⟩
    rw [grown, logged]
    simp [walFile]
  · rintro _ ⟨⟩ other mem
    rcases List.mem_append.mp mem with early | final
    · exact still other (consistent.stand recorded recording other early)
    · rw [List.mem_singleton.mp final]
      exact still entry stands

theorem Consistent.staging {staged : FileName}
    (consistent : Consistent codec sanitizePaths collection usage)
    (fresh : usage.disk.staging.lookup staged = none)
    (staging : Staging staged usage.disk next) :
    Consistent codec sanitizePaths collection { usage with disk := next } := by
  refine ⟨?_, ?_, ?_, ?_, ?_⟩
  · rw [staging.contents]
    exact consistent.tidy
  · rw [staging.contents]
    exact consistent.accepted
  · rw [staging.contents]
    exact consistent.complete
  · intro recorded same
    rw [staging.wal]
    exact consistent.logged recorded same
  · intro recorded same entry mem
    cases consistent.stand recorded same entry mem with
    | @write _ other _ accepted found =>
      have apart : other ≠ staged := by
        rintro rfl
        rw [fresh] at found
        cases found
      exact .write accepted (by rw [staging.others other apart]; exact found)
    | delete accepted there => exact .delete accepted (by rw [staging.contents]; exact there)

/-- A transaction that records nothing yet, or has ended, leaves the files of
the collection as they were. -/
theorem Consistent.outside {recording : Option (List (Operation × Change))}
    (consistent : Consistent codec sanitizePaths collection usage)
    (same : next.contents = usage.disk.contents)
    (empty : ∀ recorded, recording = some recorded →
      recorded = [] ∧ next.wal = some (walFile codec statusRecording [])) :
    Consistent codec sanitizePaths collection
      { usage with disk := next, recording := recording } := by
  refine ⟨?_, ?_, ?_, ?_, ?_⟩
  · rw [same]
    exact consistent.tidy
  · rw [same]
    exact consistent.accepted
  · rw [same]
    exact consistent.complete
  · intro recorded begun
    obtain ⟨rfl, logged⟩ := empty recorded begun
    exact logged
  · intro recorded begun entry mem
    obtain ⟨rfl, _⟩ := empty recorded begun
    cases mem

theorem keepsContents_createJournal (contents : Contents) :
    (createJournal codec).Keeps fun disk => disk.contents = contents := by
  have created : (createWal codec).Keeps fun disk => disk.contents = contents :=
    Program.Keeps.step fun _ _ start changed => by
      cases changed
      exact start
  exact created.bind fun _ => keeps_sync

theorem keepsContents_discard (contents : Contents) :
    discard.Keeps fun disk => disk.contents = contents := by
  have cleaned : cleanupDirectoryContents.Keeps fun disk => disk.contents = contents :=
    cleanupStagingDir_spec (fun found _ => found = contents) fun _ _ _ _ _ passed => passed
  have removed : removeWal.Keeps fun disk => disk.contents = contents :=
    Program.Keeps.step fun disk next start changed => by
      unfold Disk.removeWal at changed
      split at changed
      · cases changed
      · cases changed
        exact start
  exact cleaned.attempt.bind fun _ => (Program.Keeps.look _).bind fun _ =>
    removed.whenever.attempt.bind fun _ => Program.Keeps.pure _

/-- A deleted file has been found under its key, a written key is no other
spelling of a listed file: no key of the transaction has a rival. -/
theorem Consistent.unrivalled {recorded : List (Operation × Change)}
    (consistent : Consistent codec sanitizePaths collection usage)
    (recording : usage.recording = some recorded)
    (written : ∀ entry ∈ recorded, ∀ key data, entry.2 = .write key data →
      keySpelling.Unrivalled (usage.disk.contents.file collection.asStr) (normalizeKey key)) :
    ∀ entry ∈ recorded,
      keySpelling.Unrivalled (usage.disk.contents.file collection.asStr) entry.2.key := by
  intro entry mem
  cases consistent.stand recorded recording entry mem with
  | @write key staged data _ _ => exact written _ mem key data rfl
  | delete _ there => exact consistent.tidy.unrivalled there

theorem Consistent.commit {recorded : List (Operation × Change)} {env : Env Site FileName}
    (consistent : Consistent codec sanitizePaths collection usage)
    (recording : usage.recording = some recorded)
    (unambiguous : Unambiguous sanitizePaths collection usage (.commit env))
    (files : CommittedFiles collection env
      (performChanges recorded (usage.disk.contents.file collection.asStr)) next) :
    Consistent codec sanitizePaths collection
      ⟨next, none, performChanges recorded usage.latest⟩ := by
  have undisturbed := unambiguous.undisturbed env rfl
  cases original : isBackup collection.asStr with
  | true =>
    -- The clean-up removes a collection that is named like a backup.
    have calm : env.Faultless .cleanup := undisturbed.resolve_right (by simp [original])
    have gone : next.contents.file collection.asStr = fun _ => none :=
      funext fun file => files.clean calm file (.inl original)
    refine ⟨?_, ?_, by simp [original], nofun, nofun⟩
    · rw [gone]
      exact Spelling.Tidy.empty _ _
    · rw [gone]
      exact fun _ shown => absurd rfl shown.2
  | false =>
    have live := files.live original
    have valid : ∀ file, isValidKey file = true → isBackup file = false := by
      intro file listed
      simp only [isValidKey, Bool.and_eq_true, Bool.not_eq_true'] at listed
      exact listed.1
    have same : ∀ file, keySpelling.listed file = true →
        next.contents.file collection.asStr file =
          performChanges recorded (usage.disk.contents.file collection.asStr) file :=
      fun file listed => live file (valid file listed)
    have tidy := tidy_performChanges consistent.tidy
      (consistent.unrivalled recording (unambiguous.unrivalled env rfl recorded recording))
    have shownBefore : ∀ file,
        keySpelling.Shown (next.contents.file collection.asStr) file →
          keySpelling.Shown (usage.disk.contents.file collection.asStr) file ∨
            ∃ entry ∈ recorded, file = entry.2.key := by
      rintro file ⟨listed, there⟩
      exact shown_performChanges ⟨listed, same file listed ▸ there⟩
    refine ⟨tidy.congr same fun file shown there => ?_, fun file shown => ?_,
      fun _ => (complete_performChanges (consistent.complete original)).congr same, nofun, nofun⟩
    · -- A backup that is left over does not hide a listed file.
      cases hidden : isBackup (normalizeKey file) with
      | false => exact live _ hidden ▸ there
      | true =>
        rcases undisturbed with calm | ⟨_, apart⟩
        · exact absurd (files.clean calm _ (.inr hidden)) there
        · rcases shown_performChanges shown with before | ⟨entry, _, rfl⟩
          · rw [apart file before] at hidden
            cases hidden
          · rw [entry.2.normalizeKey_key, valid _ shown.1] at hidden
            cases hidden
    · rcases shownBefore file shown with before | ⟨entry, mem, rfl⟩
      · exact consistent.accepted file before
      · rw [entry.2.normalizeKey_key]
        exact (consistent.stand recorded recording entry mem).accepted.passed

theorem Consistent.use {event : UsageEvent} {after : Usage}
    (consistent : Consistent codec sanitizePaths collection usage)
    (unambiguous : Unambiguous sanitizePaths collection usage event)
    (use : Use codec sanitizePaths collection usage event after) :
    Consistent codec sanitizePaths collection after := by
  cases use with
  | read => exact consistent.healed (healed_of_read _ _ _)
  | metadata => exact consistent.healed (healed_of_metadata _ _ _)
  | filePath => exact consistent.healed (healed_of_filePath _ _ _)
  | @list env clock =>
    have keeps : (listKeysInDir collection.asStr).Keeps fun disk => disk = usage.disk :=
      keeps_listKeysInDir
    rwa [(keeps env .read clock usage.disk trivial rfl).state]
  | @len env clock =>
    have keeps : (len collection.asStr).Keeps fun disk => disk = usage.disk := keeps_len
    rwa [(keeps env .read clock usage.disk trivial rfl).state]
  | @begin env clock idle created =>
    apply consistent.outside
    · exact (keepsContents_createJournal usage.disk.contents env .record clock usage.disk
        trivial rfl).state
    · rintro recorded ⟨⟩
      exact ⟨rfl, (journaled_create created).log.1⟩
  | @write recorded key staged data operation env clock recording fresh written =>
    obtain ⟨accepted, rfl, middle, ⟨staging, found⟩, appended⟩ := write_stages.of_ok written
    have accepts : Accepts sanitizePaths (normalizeKey key) :=
      ⟨.of_passed (unambiguous.trusted _ (by simp [UsageEvent.keys])) accepted, accepted⟩
    exact (consistent.staging fresh staging).appended recording appended (.write accepts found)
  | writeFailed recording fresh refused =>
    exact consistent.staging fresh (write_stages.of_error refused)
  | @delete recorded key operation env clock recording deleted =>
    obtain ⟨accepted, rfl, middle, ⟨healed, there⟩, appended⟩ := delete_finds.of_ok deleted
    have accepts : Accepts sanitizePaths (normalizeKey key) :=
      ⟨.of_passed (unambiguous.trusted _ (by simp [UsageEvent.keys])) accepted, accepted⟩
    exact (consistent.healed healed).appended recording appended (.delete accepts there)
  | deleteFailed recording refused => exact consistent.healed (delete_finds.of_error refused)
  | commit recording committed =>
    exact consistent.commit recording unambiguous
      (committedFiles (consistent.logged _ recording) (consistent.stand _ recording) committed)
  | @discard recorded env site clock recording =>
    apply consistent.outside
    · exact (keepsContents_discard usage.disk.contents env site clock usage.disk trivial
        rfl).state
    · nofun

end Invariant

section Runs

variable {disk : Disk} {name : FileName}

theorem consistent_start (distinct : DistinctKeys (disk.contents.file collection.asStr))
    (accepted : AcceptedKeys sanitizePaths (disk.contents.file collection.asStr)) :
    Consistent codec sanitizePaths collection (Usage.start disk collection.asStr) :=
  ⟨distinct.tidy, accepted, fun _ _ _ stored => exists_shown_of_firstContent stored, nofun, nofun⟩

/-- Starting from files that are distinct keys, and with commits that write no
key beside another spelling of it, the listing and the lookup agree in every
state that is reached. -/
theorem listing_agrees_with_lookup {events : List UsageEvent} {usage : Usage}
    (distinct : DistinctKeys (disk.contents.file collection.asStr))
    (accepted : AcceptedKeys sanitizePaths (disk.contents.file collection.asStr))
    (run : Run (fun before event after =>
      Unambiguous sanitizePaths collection before event ∧
        Use codec sanitizePaths collection before event after)
      (Usage.start disk collection.asStr) events usage) :
    Agrees codec sanitizePaths collection usage.latest usage.disk := by
  have consistent : Consistent codec sanitizePaths collection usage :=
    run.keeps (fun _ state => Consistent codec sanitizePaths collection state)
      (consistent_start distinct accepted)
      fun _ _ _ _ before taken => before.use taken.1 taken.2
  exact agrees_of_tidy consistent.tidy consistent.accepted consistent.complete

def mixedCaseStart : Disk :=
  { Disk.sample with
    collections := (∅ : AList _).insert databaseName.asStr
      ((∅ : Folder).insert ['E', 'c', 'u'] [1]) }

def readUsage (usage : Usage) (key : FileName) : Usage :=
  { usage with
    disk := (read false databaseName.asStr key (Env.calm Site FileName) .read 0 usage.disk).state }

def begunUsage (usage : Usage) : Usage :=
  { usage with
    disk := (createJournal plainCodec (Env.calm Site FileName) .record 0 usage.disk).state
    recording := some [] }

def writtenUsage (usage : Usage) (key staged : FileName) (data : Bytes) : Usage :=
  { usage with
    disk := (write plainCodec false databaseName key staged data (Env.calm Site FileName) .record 0
      usage.disk).state
    recording := usage.recording.map
      (· ++ [(.write databaseName (normalizeKey key) staged, .write key data)]) }

def committedUsage (usage : Usage) (recorded : List (Operation × Change)) : Usage :=
  { disk := (applyInner plainCodec (recorded.map Prod.fst) (Env.calm Site FileName) .record 0
      usage.disk).state
    recording := none
    latest := performChanges recorded usage.latest }

theorem use_begun {usage : Usage} (idle : usage.recording = none) :
    Use plainCodec false databaseName usage .begin (begunUsage usage) :=
  .begin idle rfl

theorem use_written {usage : Usage} {recorded : List (Operation × Change)}
    {key staged : FileName} {data : Bytes} (recording : usage.recording = some recorded)
    (fresh : usage.disk.staging.lookup staged = none)
    (written : (write plainCodec false databaseName key staged data (Env.calm Site FileName)
      .record 0
      usage.disk).result = .ok (.write databaseName (normalizeKey key) staged)) :
    Use plainCodec false databaseName usage (.write key data)
      (writtenUsage usage key staged data) := by
  have use := Use.write recording fresh written
  rwa [writtenUsage, recording]

theorem use_committed {usage : Usage} {recorded : List (Operation × Change)}
    (recording : usage.recording = some recorded)
    (committed : (applyInner plainCodec (recorded.map Prod.fst) (Env.calm Site FileName) .record 0
      usage.disk).result = .ok ()) :
    Use plainCodec false databaseName usage (.commit (Env.calm Site FileName))
      (committedUsage usage recorded) :=
  .commit recording committed

def writesEcu (key : FileName) : List (Operation × Change) :=
  [(.write databaseName ['e', 'c', 'u'] ['t'], .write key [2])]

/-- The file keeps its name while the key is written, and both are listed. -/
def spelledTwice : Usage :=
  committedUsage (writtenUsage (begunUsage (Usage.start mixedCaseStart databaseName.asStr))
    ['e', 'c', 'u'] ['t'] [2]) (writesEcu ['e', 'c', 'u'])

theorem mixedCaseStart_distinct :
    DistinctKeys (mixedCaseStart.contents.file databaseName.asStr) := by
  intro file other there otherThere _
  have only := forall_file mixedCaseStart databaseName.asStr (fun file => file = ['E', 'c', 'u'])
    (by decide)
  rw [only file there, only other otherThere]

theorem Unambiguous.of_not_commit {usage : Usage} {event : UsageEvent}
    (trusted : ∀ name ∈ collection.asStr :: event.keys, Trusted sanitizePaths name)
    (other : ∀ env, event ≠ .commit env) : Unambiguous sanitizePaths collection usage event :=
  ⟨trusted, fun env same => absurd same (other env), fun env same => absurd same (other env)⟩

/-- A key that is written without looking for it is listed twice. -/
theorem written_key_listed_twice : DistinctKeys (mixedCaseStart.contents.file databaseName.asStr) ∧
      AcceptedKeys false (mixedCaseStart.contents.file databaseName.asStr) ∧
      Run (Use plainCodec false databaseName) (Usage.start mixedCaseStart databaseName.asStr)
        [.begin, .write ['e', 'c', 'u'] [2], .commit (Env.calm Site FileName)] spelledTwice ∧
      ¬ Agrees plainCodec false databaseName spelledTwice.latest spelledTwice.disk := by
  refine ⟨mixedCaseStart_distinct, fun _ _ => rfl, ?_, fun agrees => ?_⟩
  · exact ((Run.start.step (use_begun rfl)).step
      (use_written rfl (by decide) (by decide))).step (use_committed rfl (by decide))
  · obtain ⟨keys, listed, nodup, _⟩ :=
      agrees.list (Env.calm Site FileName) 0 (Env.calm_faultless _)
    have twice : (listKeysInDir databaseName.asStr (Env.calm Site FileName) .read 0
        spelledTwice.disk).result = .ok [['e', 'c', 'u'], ['e', 'c', 'u']] := by decide
    rw [twice] at listed
    cases listed
    simp at nodup

/-- The key is read before it is written, so the file has its name by then. -/
def spelledOnce : Usage :=
  committedUsage (writtenUsage
    (begunUsage (readUsage (Usage.start mixedCaseStart databaseName.asStr) ['e', 'c', 'u']))
    ['E', 'C', 'U'] ['t'] [2]) (writesEcu ['E', 'C', 'U'])

/-- A call in undisturbed surroundings that meets the condition. -/
abbrev Careful (before : Usage) (event : UsageEvent) (after : Usage) : Prop :=
  Unambiguous false databaseName before event ∧ Use plainCodec false databaseName before event after

theorem listing_agrees_with_lookup_of_read :
    Agrees plainCodec false databaseName spelledOnce.latest spelledOnce.disk := by
  let healed := readUsage (Usage.start mixedCaseStart databaseName.asStr) ['e', 'c', 'u']
  let written := writtenUsage (begunUsage healed) ['E', 'C', 'U'] ['t'] [2]
  have unrivalled : Unambiguous false databaseName written (.commit (Env.calm Site FileName)) := by
    refine ⟨by decide, ?_, ?_⟩
    · rintro _ ⟨⟩ recorded ⟨⟩ entry mem key data wrote
      have only := forall_file written.disk databaseName.asStr (fun file => file = ['e', 'c', 'u'])
        (by decide)
      rw [List.mem_singleton.mp mem] at wrote
      cases wrote
      exact fun file shown _ => only file shown.2
    · rintro _ ⟨⟩
      exact .inl (Env.calm_faultless _)
  have looked : Careful (Usage.start mixedCaseStart databaseName.asStr)
      (.read ['e', 'c', 'u']) healed :=
    ⟨.of_not_commit (by decide) (by simp), .read⟩
  have begun : Careful healed .begin (begunUsage healed) :=
    ⟨.of_not_commit (by decide) (by simp), use_begun rfl⟩
  have recorded : Careful (begunUsage healed) (.write ['E', 'C', 'U'] [2]) written :=
    ⟨.of_not_commit (by decide) (by simp), use_written rfl (by decide) (by decide)⟩
  have committed : Careful written (.commit (Env.calm Site FileName))
      (committedUsage written (writesEcu ['E', 'C', 'U'])) :=
    ⟨unrivalled, use_committed rfl (by decide)⟩
  exact listing_agrees_with_lookup mixedCaseStart_distinct (fun _ _ => rfl)
    ((((Run.start.step looked).step begun).step recorded).step committed)

end Runs

end DiagnosticAdapter.Storage
