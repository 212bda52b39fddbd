import DiagnosticAdapter.Storage.KeyCalls
import DiagnosticAdapter.Storage.Refinement

/-!
# A commit of written and deleted keys

Backups aside, the files of the collection change as the calls have asked for.
Nothing is assumed about the names of the other files.
-/

namespace DiagnosticAdapter.Storage

open Effects Function

/-- The build accepts the key, which is one of the callers' path segments. -/
structure Accepts (sanitizePaths : Bool) (key : FileName) : Prop where
  segment : PathSegment key
  passed : sanitizePathSegment sanitizePaths key = .ok ()

/-- The recorded operation does what the call has asked for. -/
inductive Stands (sanitizePaths : Bool) (collection : CollectionName) (disk : Disk) :
    Operation × Change → Prop where
  | write {key staged : FileName} {data : Bytes} :
      Accepts sanitizePaths (normalizeKey key) →
      disk.staging.lookup staged = some data →
      Stands sanitizePaths collection disk
        (.write collection (normalizeKey key) staged, .write key data)
  | delete {key : FileName} :
      Accepts sanitizePaths (normalizeKey key) →
      disk.contents.file collection.asStr (normalizeKey key) ≠ none →
      Stands sanitizePaths collection disk
        (.delete collection (normalizeKey key), .delete key)

theorem Stands.accepted {sanitizePaths : Bool} {collection : CollectionName} {disk : Disk}
    {entry : Operation × Change} (stands : Stands sanitizePaths collection disk entry) :
    Accepts sanitizePaths entry.2.key := by
  cases stands with
  | write accepted _ | delete accepted _ => exact accepted

def performChanges (recorded : List (Operation × Change))
    (files : FileName → Option Bytes) : FileName → Option Bytes :=
  (recorded.map Prod.snd).foldl (fun files change => change.perform files) files

@[simp]
theorem performChanges_nil (files : FileName → Option Bytes) : performChanges [] files = files :=
  rfl

@[simp]
theorem performChanges_cons (entry : Operation × Change) (rest : List (Operation × Change))
    (files : FileName → Option Bytes) :
    performChanges (entry :: rest) files = performChanges rest (entry.2.perform files) :=
  rfl

/-- Backups aside, the collection holds the files, and the staged files are
still what they were. -/
structure Follows (collection : CollectionName) (start : Disk)
    (files : FileName → Option Bytes) (disk : Disk) : Prop where
  live : ∀ file, isBackup file = false → disk.contents.file collection.asStr file = files file
  staging : ∀ name bytes, disk.staging.lookup name = some bytes →
    start.staging.lookup name = some bytes

section Following

variable {sanitizePaths : Bool} {collection : CollectionName} {start : Disk}
  {files : FileName → Option Bytes} {name key file : FileName}

theorem file_update_same {contents : Contents} (content : Content) :
    Contents.file (update contents name (some content)) name = content := by
  funext file
  rw [Contents.file, update_self, Option.bind_some]

theorem follows_createDirAll :
    Leads (Follows collection start files) (createDirAll collection.asStr)
      (Follows collection start files) := by
  apply leads_call
  intro disk next follows made
  obtain ⟨_, sameStaging, ⟨_, same⟩ | ⟨missing, changed⟩⟩ := Disk.createDirAll_ok made
  · exact ⟨by rw [same]; exact follows.live, sameStaging ▸ follows.staging⟩
  · refine ⟨fun file original => ?_, sameStaging ▸ follows.staging⟩
    rw [← follows.live file original, changed, file_update_same, Contents.file, missing,
      Option.bind_none]

theorem follows_backupFile (inhabited : key ≠ []) :
    Leads (Follows collection start files) (backupFile collection.asStr key)
      (Follows collection start (update files key none)) := by
  refine Triple.lookThen fun exists_ => Triple.whenever (fun _ => ?_) (fun missing => ?_)
  · apply leads_call
    rintro disk next ⟨follows, _⟩ renamed
    obtain ⟨_, sameStaging, content, bytes, stored, _, changed⟩ := Disk.renameFile_ok renamed
    refine ⟨fun file original => ?_, sameStaging ▸ follows.staging⟩
    -- The backup itself is not one of the files that are followed.
    have apart : file ≠ backupName key := by
      rintro rfl
      rw [isBackup_backupName inhabited] at original
      cases original
    rw [changed, file_update_same, update_of_ne apart]
    by_cases same : file = key
    · rw [same, update_self, update_self]
    · rw [update_of_ne same, update_of_ne same, ← follows.live file original,
        Contents.file_of_stored stored]
  · rintro disk ⟨follows, there⟩
    refine ⟨fun file original => ?_, follows.staging⟩
    by_cases same : file = key
    · rw [missing] at there
      rw [same, update_self]
      simpa using there
    · rw [update_of_ne same, follows.live file original]

theorem follows_moveStaged {staged : FileName} {data : Bytes}
    (stagedData : start.staging.lookup staged = some data) :
    Leads (Follows collection start files) (moveStaged staged collection.asStr key)
      (Follows collection start (update files key (some data))) := by
  apply leads_call
  intro disk next follows moved
  obtain ⟨_, sameStaging, content, bytes, stored, found, changed⟩ := Disk.moveStaged_ok moved
  have same : bytes = data := by
    have before := follows.staging staged bytes found
    rw [stagedData, Option.some.injEq] at before
    exact before.symm
  refine ⟨fun file original => ?_, fun other bytes there => ?_⟩
  · rw [changed, file_update_same, same]
    by_cases target : file = key
    · rw [target, update_self, update_self]
    · rw [update_of_ne target, update_of_ne target,
        ← follows.live file original, Contents.file_of_stored stored]
  · rw [sameStaging] at there
    by_cases taken : other = staged
    · rw [taken, AList.lookup_erase] at there
      cases there
    · rw [AList.lookup_erase_ne taken] at there
      exact follows.staging other bytes there

theorem follows_applyOperation {entry : Operation × Change}
    (stands : Stands sanitizePaths collection start entry) :
    Leads (Follows collection start files) (applyOperation entry.1)
      (Follows collection start (entry.2.perform files)) := by
  have inhabited := stands.accepted.segment.ne_nil
  cases stands with
  | @write spelled staged data _ stagedData =>
    refine Triple.bind follows_createDirAll fun _ =>
      Triple.bind (follows_backupFile inhabited) fun _ => ?_
    have moved : Leads
        (Follows collection start (update files (normalizeKey spelled) none))
        (moveStaged staged collection.asStr (normalizeKey spelled))
        (Follows collection start (update
          (update files (normalizeKey spelled) none) (normalizeKey spelled)
          (some data))) := follows_moveStaged stagedData
    rwa [update_idem] at moved
  | delete _ _ => exact follows_backupFile inhabited

theorem follows_applyOperations {recorded : List (Operation × Change)}
    (stand : ∀ entry ∈ recorded, Stands sanitizePaths collection start entry) :
    Leads (Follows collection start files) (applyOperations (recorded.map Prod.fst))
      (Follows collection start (performChanges recorded files)) := by
  induction recorded generalizing files with
  | nil => exact Triple.pure fun _ follows => follows
  | cons entry rest ih =>
    exact Triple.bind (follows_applyOperation (stand entry (by simp))) fun _ =>
      ih fun other mem => stand other (List.mem_cons_of_mem entry mem)

end Following

/-- What a commit leaves of the collection: backups are gone, or a fault of
the clean-up left some. -/
structure CommittedFiles (collection : CollectionName) (env : Env Site FileName)
    (files : FileName → Option Bytes) (disk : Disk) : Prop where
  log : disk.wal = none
  live : isBackup collection.asStr = false → ∀ file, isBackup file = false →
    disk.contents.file collection.asStr file = files file
  clean : env.Faultless .cleanup → ∀ file, isBackup collection.asStr = true ∨ isBackup file = true →
      disk.contents.file collection.asStr file = none

theorem file_withoutBackups (contents : Contents) (name file : FileName) :
    contents.withoutBackups.file name file =
      if isBackup name ∨ isBackup file then none else contents.file name file := by
  cases backup : isBackup name with
  | true => simp [Contents.file, Contents.withoutBackups, backup]
  | false =>
    cases fileBackup : isBackup file <;> cases stored : contents name <;>
      simp [Contents.file, Contents.withoutBackups, Content.withoutBackups, backup, fileBackup,
        stored]

theorem committedFiles {codec : Codec} {sanitizePaths : Bool} {collection : CollectionName}
    {recorded : List (Operation × Change)} {env : Env Site FileName} {site : Site} {clock : Nat}
    {start : Disk}
    (logged : start.wal = some (walFile codec statusRecording (recorded.map Prod.fst)))
    (stand : ∀ entry ∈ recorded, Stands sanitizePaths collection start entry)
    (committed : (applyInner codec (recorded.map Prod.fst) env site clock start).result = .ok ()) :
    CommittedFiles collection env (performChanges recorded (start.contents.file collection.asStr))
      (applyInner codec (recorded.map Prod.fst) env site clock start).state := by
  have applied := appliedRun_of_committed logged committed
  have begun : Follows collection start (start.contents.file collection.asStr)
      (preparedRun codec env site clock start).state := by
    rw [preparedRun_state logged committed]
    exact ⟨fun _ _ => rfl, fun _ _ there => there⟩
  have follows := (follows_applyOperations stand env .applyOperations _ _ trivial
    begun).of_ok applied
  have ended := (applyInner_finishes_ok logged applied).of_ok committed
  let shown := (appliedRun codec (recorded.map Prod.fst) env site clock start).state.contents
  have same : (applyInner codec (recorded.map Prod.fst) env site clock
      start).state.contents.withoutBackups = shown.withoutBackups := by
    rcases ended.1 with same | left
    · rw [same, Contents.withoutBackups_withoutBackups]
    · exact left.2
  have outside : ∀ contents : Contents, isBackup collection.asStr = false →
      ∀ file, isBackup file = false → contents.withoutBackups.file collection.asStr file =
        contents.file collection.asStr file := by
    intro contents original file fileOriginal
    rw [file_withoutBackups, original, fileOriginal, if_neg (by simp)]
  refine ⟨ended.2, fun original file fileOriginal => ?_, fun calm file hidden => ?_⟩
  · rw [← outside _ original file fileOriginal, same, outside _ original file fileOriginal]
    exact follows.live file fileOriginal
  · rcases ended.1 with cleaned | left
    · rw [cleaned, file_withoutBackups, if_pos hidden]
    · exact absurd calm left.1

end DiagnosticAdapter.Storage
