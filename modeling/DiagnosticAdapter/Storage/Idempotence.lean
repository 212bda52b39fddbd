import DiagnosticAdapter.Storage.PointOfNoReturn

/-!
# Running recovery again

Recovery decides by the presence of backups, and restoring them changes what it
decides on.  `Resumable` says when a second run of recovery takes the same
decisions as the first one.
-/

namespace DiagnosticAdapter.Storage

open Effects

/-- What restoring the backups and removing new files leaves of a collection. -/
def restoredContent (operations : List Operation) (name : FileName) (present : Content) :
    Content := fun key =>
  if Original key then
    match present (backupName key) with
    | some bytes => some bytes
    | none => if operations.any (Operation.writesTo name key) then none else present key
  else none

def restoredContents (operations : List Operation) (contents : Contents) : Contents := fun name =>
  if Original name then
    match contents (backupName name) with
    | some content => some content
    | none =>
      if operations.any fun operation => operation.creates name || operation.copiesToNew name
      then none
      else (contents name).map (restoredContent operations name)
  else none

def Unmade (operations : List Operation) (name : FileName) : Prop :=
  ∀ operation ∈ operations, operation.creates name = false ∧ operation.copiesToNew name = false

def Unwritten (operations : List Operation) (name key : FileName) : Prop :=
  ∀ operation ∈ operations, operation.writesTo name key = false

/-- No file or collection that a backup brings back looks like a new one, no
backup has a backup itself, and a collection that an operation created holds
only files written after that. -/
structure Resumable (operations : List Operation) (contents : Contents) : Prop where
  names : ∀ operation ∈ operations, operation.OriginalNames
  collections : ∀ name, contents name ≠ none →
    Original name ∨ ∃ base, Original base ∧ name = backupName base
  displaced : ∀ name content, Original name → contents (backupName name) = some content →
    Unmade operations name ∧ ∀ key, content key ≠ none → Plain key ∧ Unwritten operations name key
  kept : ∀ name content, Original name → contents name = some content →
    contents (backupName name) = none → Unmade operations name →
    ∀ key, content key ≠ none → Plain key ∨ ¬ Unwritten operations name key ∨
      ∃ base, Plain base ∧ key = backupName base ∧ Unwritten operations name base
  created : ∀ name content, Original name → contents name = some content →
    (∃ operation ∈ operations, operation.creates name = true) →
    (∃ operation ∈ operations, operation.copiesToNew name = true) ∨
      CreatedFolder operations name content

section Target

variable {operations : List Operation} {contents : Contents} {name key : FileName}

theorem any_makes_eq_false (unmade : Unmade operations name) :
    (operations.any fun operation => operation.creates name || operation.copiesToNew name) =
      false := by
  rw [List.any_eq_false]
  intro operation mem
  obtain ⟨uncreated, uncopied⟩ := unmade operation mem
  simp [uncreated, uncopied]

theorem makes_of_not_unmade (made : ¬ Unmade operations name) :
    (∃ operation ∈ operations, operation.creates name = true) ∨
      ∃ operation ∈ operations, operation.copiesToNew name = true := by
  by_contra neither
  rw [not_or] at neither
  apply made
  intro operation mem
  refine ⟨?_, ?_⟩
  · by_contra creates
    exact neither.1 ⟨operation, mem, by simpa using creates⟩
  · by_contra copies
    exact neither.2 ⟨operation, mem, by simpa using copies⟩

theorem any_makes_eq_true (made : ¬ Unmade operations name) :
    (operations.any fun operation => operation.creates name || operation.copiesToNew name) =
      true := by
  rw [List.any_eq_true]
  rcases makes_of_not_unmade made with ⟨operation, mem, creates⟩ | ⟨operation, mem, copies⟩
  · exact ⟨operation, mem, by simp [creates]⟩
  · exact ⟨operation, mem, by simp [copies]⟩

theorem exists_of_not_unwritten (written : ¬ Unwritten operations name key) :
    ∃ operation ∈ operations, operation.writesTo name key = true := by
  by_contra none
  apply written
  intro operation mem
  by_contra writes
  exact none ⟨operation, mem, by simpa using writes⟩

theorem restoredContent_eq_some {present : Content} {bytes : Bytes}
    (restored : restoredContent operations name present key = some bytes) :
    Original key ∧ (present (backupName key) = some bytes ∨
      (present (backupName key) = none ∧ present key = some bytes ∧
        Unwritten operations name key)) := by
  unfold restoredContent at restored
  split at restored
  · rename_i original
    refine ⟨original, ?_⟩
    split at restored
    · rename_i saved found
      cases restored
      exact .inl found
    · rename_i unsaved
      split at restored
      · cases restored
      · rename_i unwritten
        refine .inr ⟨unsaved, restored, fun operation mem => ?_⟩
        by_contra writes
        exact unwritten (List.any_eq_true.mpr ⟨operation, mem, by simpa using writes⟩)
  · cases restored

theorem restoredContent_eq_none {present : Content} (original : Original key)
    (restored : restoredContent operations name present key = none) :
    present (backupName key) = none ∧
      (present key ≠ none → ∃ operation ∈ operations, operation.writesTo name key = true) := by
  unfold restoredContent at restored
  rw [if_pos original] at restored
  split at restored
  · cases restored
  · rename_i unsaved
    refine ⟨unsaved, fun there => ?_⟩
    split at restored
    · rename_i written
      exact List.any_eq_true.mp written
    · exact absurd restored there

theorem restoredContents_of_displaced {content : Content} (original : Original name)
    (saved : contents (backupName name) = some content) :
    restoredContents operations contents name = some content := by
  simp [restoredContents, original, saved]

theorem restoredContents_of_made (unsaved : contents (backupName name) = none)
    (made : ¬ Unmade operations name) : restoredContents operations contents name = none := by
  unfold restoredContents
  split
  · simp only [unsaved, any_makes_eq_true made, if_true]
  · rfl

theorem restoredContents_of_unmade (original : Original name)
    (unsaved : contents (backupName name) = none) (unmade : Unmade operations name) :
    restoredContents operations contents name =
      (contents name).map (restoredContent operations name) := by
  simp [restoredContents, original, unsaved, any_makes_eq_false unmade]

theorem original_of_restoredContents {content : Content}
    (restored : restoredContents operations contents name = some content) : Original name := by
  unfold restoredContents at restored
  split at restored
  · assumption
  · cases restored

section

variable (resumable : Resumable operations contents)

include resumable

theorem Resumable.restored_plain {present : Content} {bytes : Bytes} (original : Original name)
    (stored : contents name = some present) (unsaved : contents (backupName name) = none)
    (unmade : Unmade operations name)
    (restored : restoredContent operations name present key = some bytes) :
    Plain key ∧ Unwritten operations name key := by
  have kept := resumable.kept name present original stored unsaved unmade
  obtain ⟨keyOriginal, saved | ⟨_, live, unwritten⟩⟩ := restoredContent_eq_some restored
  · rcases kept (backupName key) (by simp [saved]) with plain | written | ⟨base, plain, same, free⟩
    · exact absurd rfl (plain.1.backupName_ne keyOriginal)
    · obtain ⟨operation, mem, writes⟩ := exists_of_not_unwritten written
      exact absurd rfl ((writesTo_original (resumable.names operation mem) writes).2.backupName_ne
        keyOriginal)
    · rw [backupName_inj] at same
      exact same ▸ ⟨plain, free⟩
  · rcases kept key (by simp [live]) with plain | written | ⟨base, plain, same, _⟩
    · exact ⟨plain, unwritten⟩
    · exact absurd unwritten written
    · exact absurd same (keyOriginal.backupName_ne plain.1)

theorem Resumable.plain_of_restored {content : Content}
    (restored : restoredContents operations contents name = some content)
    (there : content key ≠ none) : Plain key ∧ Unwritten operations name key := by
  have original := original_of_restoredContents restored
  cases saved : contents (backupName name) with
  | some displaced =>
    rw [restoredContents_of_displaced original saved] at restored
    cases restored
    exact (resumable.displaced name content original saved).2 key there
  | none =>
    by_cases unmade : Unmade operations name
    · rw [restoredContents_of_unmade original saved unmade, Option.map_eq_some_iff] at restored
      obtain ⟨present, stored, rfl⟩ := restored
      obtain ⟨bytes, found⟩ := Option.ne_none_iff_exists'.mp there
      exact resumable.restored_plain original stored saved unmade found
    · rw [restoredContents_of_made saved unmade] at restored
      cases restored

theorem Resumable.plain : PlainContents (restoredContents operations contents) := by
  refine ⟨fun name there => ?_, ?_⟩
  · obtain ⟨content, restored⟩ := Option.ne_none_iff_exists'.mp there
    exact original_of_restoredContents restored
  intro name content restored key there
  exact (resumable.plain_of_restored restored there).1

theorem Resumable.recoverable :
    Recoverable (restoredContents operations contents) operations contents := by
  refine ⟨resumable.collections, fun name original => ?_⟩
  cases saved : contents (backupName name) with
  | some displaced =>
    rw [restoredContents_of_displaced original saved]
    exact .displaced fun key there =>
      ((resumable.displaced name displaced original saved).2 key there).1
  | none =>
    by_cases unmade : Unmade operations name
    · rw [restoredContents_of_unmade original saved unmade]
      cases stored : contents name with
      | none => exact .absent
      | some present =>
        refine .kept ⟨?_, ?_, ?_, ?_⟩
        · intro key there
          obtain ⟨bytes, found⟩ := Option.ne_none_iff_exists'.mp there
          exact (resumable.restored_plain original stored saved unmade found).1
        · intro key there
          rcases resumable.kept name present original stored saved unmade key there with
            plain | written | ⟨base, plain, same, _⟩
          · exact .inl plain.1
          · obtain ⟨operation, mem, writes⟩ := exists_of_not_unwritten written
            exact .inl (writesTo_original (resumable.names operation mem) writes).2
          · exact .inr ⟨base, plain.1, same⟩
        · intro key bytes restored
          rcases (restoredContent_eq_some restored).2 with backup | ⟨unsaved, live, _⟩
          · exact .inr backup
          · exact .inl ⟨live, unsaved⟩
        · exact fun key keyOriginal missing => restoredContent_eq_none keyOriginal missing
    · rw [restoredContents_of_made saved unmade]
      cases stored : contents name with
      | none => exact .absent
      | some present =>
        rcases makes_of_not_unmade unmade with created | copied
        · rcases resumable.created name present original stored created with copied | folder
          · exact .copied copied
          · exact .created folder
        · exact .copied copied

theorem Resumable.restored_of_made (made : ¬ Unmade operations name) :
    restoredContents operations contents name = none := by
  cases saved : contents (backupName name) with
  | none => exact restoredContents_of_made saved made
  | some displaced =>
    by_contra there
    obtain ⟨content, restored⟩ := Option.ne_none_iff_exists'.mp there
    have original := original_of_restoredContents restored
    exact made (resumable.displaced name displaced original saved).1

theorem Resumable.compatible : Compatible (restoredContents operations contents) operations := by
  refine ⟨resumable.names, ?_, ?_⟩
  · intro operation mem name creates
    apply resumable.restored_of_made
    intro unmade
    simp [(unmade operation mem).1] at creates
  · intro operation mem name copies
    apply resumable.restored_of_made
    intro unmade
    simp [(unmade operation mem).2] at copies

theorem Resumable.writesNewKeys :
    WritesNewKeys (restoredContents operations contents) operations := by
  intro operation mem name key writes
  have written : ¬ Unwritten operations name key := fun unwritten => by
    simp [unwritten operation mem] at writes
  by_contra there
  obtain ⟨content, restored, inside⟩ := Contents.exists_of_file there
  exact written (resumable.plain_of_restored restored inside).2

end

/-- States from which the target is recoverable are resumable, if no operation
writes a key of the target. -/
theorem Recoverable.resumable {target : Contents}
    (recoverable : Recoverable target operations contents)
    (compatible : Compatible target operations) (fresh : WritesNewKeys target operations) :
    Resumable operations contents := by
  have unmade_of_target : ∀ name, target name ≠ none → Unmade operations name := by
    intro name there operation mem
    refine ⟨?_, ?_⟩
    · by_contra creates
      exact there (compatible.created operation mem name (by simpa using creates))
    · by_contra copies
      exact there (compatible.copied operation mem name (by simpa using copies))
  have unwritten_of_target : ∀ name content key, target name = some content →
      content key ≠ none → Unwritten operations name key := by
    intro name content key stored there operation mem
    by_contra writes
    have missing := fresh operation mem name key (by simpa using writes)
    simp [Contents.file, stored, there] at missing
  refine ⟨compatible.names, recoverable.names, ?_, ?_, ?_⟩
  · intro name content original saved
    have here := recoverable.each name original
    rw [saved] at here
    obtain ⟨stored, plainKeys⟩ := here.displaced_of_backup
    exact ⟨unmade_of_target name (by simp [stored]), fun key there =>
      ⟨plainKeys key there, unwritten_of_target name content key stored there⟩⟩
  · intro name present original stored unsaved unmade key there
    have here := recoverable.each name original
    rw [stored, unsaved] at here
    generalize before : target name = initially at here
    cases here with
    | copied copies =>
      obtain ⟨operation, mem, copies⟩ := copies
      simp [(unmade operation mem).2] at copies
    | created folder =>
      obtain ⟨_, creator, _, rfl, creates, _⟩ := folder
      simp [(unmade creator (by simp)).1] at creates
    | @kept content _ folder =>
      rcases folder.names key there with keyOriginal | ⟨base, baseOriginal, rfl⟩
      · cases old : content key with
        | some bytes => exact .inl (folder.originalPlain key (by simp [old]))
        | none =>
          obtain ⟨operation, mem, writes⟩ := (folder.new key keyOriginal old).2 there
          refine .inr (.inl fun unwritten => ?_)
          simp [unwritten operation mem] at writes
      · cases old : content base with
        | some bytes =>
          exact .inr (.inr ⟨base, folder.originalPlain base (by simp [old]), rfl,
            unwritten_of_target name content base before (by simp [old])⟩)
        | none => exact absurd (folder.new base baseOriginal old).1 there
  · intro name present original stored creates
    obtain ⟨operation, mem, creates⟩ := creates
    have here := recoverable.each name original
    rw [stored, compatible.created operation mem name creates] at here
    generalize contents (backupName name) = backup at here
    cases here with
    | copied copies => exact .inl copies
    | created folder => exact .inr folder

end Target

section Runs

variable {codec : Codec} {operations : List Operation} {contents : Contents} {data : Bytes}

theorem recover_recording_spec (status : walStatus codec data = some .recording) :
    Triple Env.Faultless (Holds contents (some data)) (recover codec)
      (fun _ => Holds contents none) (fun _ => False)
      (fun disk => Holds contents (some data) disk ∨ Holds contents none disk) := by
  have inner : Triple Env.Faultless
      (fun disk => Holds contents (some data) disk ∧ disk.wal = some data)
      (recoverStatus codec (loggedStatus codec (some data)))
      (fun _ => Holds contents (some data)) (fun _ => False)
      (fun disk => Holds contents (some data) disk ∨ Holds contents none disk) := by
    simp only [loggedStatus, Option.bind_some, status, Option.map_some, recoverStatus]
    exact Triple.pure fun _ start => start.1
  exact Triple.consequence (recover_spec (fun _ start _ => .inl start) (fun _ ended => ended) inner)
    (fun _ _ calm => calm) (fun _ start => ⟨start, start.2⟩) (fun _ _ done => done)
    (fun _ no => no) (fun _ passed => passed)

theorem recoversTo_of_plain (plain : PlainContents contents) {disk : Disk}
    (holds : Holds contents none disk) : RecoversTo codec contents disk := by
  obtain ⟨same, noLog⟩ := holds
  have ended := @recover_of_stripping codec contents disk ⟨by rw [same], noLog⟩
  rwa [plain.withoutBackups_eq_self] at ended

/-- Every stop of a run of recovery leads to the same contents as the run. -/
def Resumes (codec : Codec) (contents : Contents) (disk : Disk) : Prop :=
  RecoversTo codec contents disk ∧
    ∀ (first : Env Site FileName) (clock : Nat), first.Faultless .recover →
      ∀ stopped ∈ (recover codec).stops first .recover clock disk, RecoversTo codec contents stopped

theorem resumes_of_spec {pre during : Disk → Prop}
    (spec : Triple Env.Faultless pre (recover codec) (fun _ => Holds contents none)
      (fun _ => False) during)
    (again : ∀ disk, during disk → RecoversTo codec contents disk) {disk : Disk}
    (start : pre disk) : Resumes codec contents disk := by
  refine ⟨recoversTo_of_spec spec start, ?_⟩
  intro first clock calm stopped mem
  rcases List.mem_cons.mp mem with rfl | passed
  · exact recoversTo_of_spec spec start
  · exact again stopped ((spec first .recover clock disk calm start).1 stopped passed)

theorem Resumable.resumes (fits : ∀ operation ∈ operations,
      (codec.toBytes operation).length < 4294967296) {disk : Disk}
    (resumable : Resumable operations disk.contents)
    (logged : disk.wal = some (walFile codec statusCommitting operations)) :
    Resumes codec (restoredContents operations disk.contents) disk := by
  have spec := recover_committing_spec resumable.plain resumable.compatible
    (walStatus_walFile operations) (readWal_walFile statusCommitting operations fits)
  refine resumes_of_spec spec ?_ ⟨⟨resumable.recoverable, logged⟩,
    resumable.writesNewKeys.guarded _⟩
  rintro stopped ((reversing | undoing) | finished)
  · exact recoversTo_of_spec spec reversing
  · exact recoversTo_of_spec spec ⟨undoing.mono, resumable.writesNewKeys.guarded _⟩
  · exact recoversTo_of_plain resumable.plain finished

/-- Wherever a commit was stopped, an interrupted recovery followed by a second
one ends as a single recovery does, provided that what the commit left under a
marked log is resumable. -/
theorem recover_resumes {env : Env Site FileName} {site : Site} {clock : Nat}
    {start crashed : Disk} (recorded : Recorded codec operations start)
    (plain : PlainContents start.contents)
    (stopped : crashed ∈ (applyInner codec operations).stops env site clock start)
    (resumable : crashed.wal = some (walFile codec statusCommitting operations) →
      Resumable operations crashed.contents) :
    ∃ contents, Resumes codec contents crashed := by
  obtain ⟨atEnd, reached⟩ := @applyInner_finishes codec operations env site clock start recorded.log.1
  rcases reached crashed stopped with rfl | logged | stripping
  · refine ⟨crashed.contents, resumes_of_spec
      (recover_recording_spec (walStatus_encodeHeader_recording _)) ?_ ⟨rfl, recorded.log.1⟩⟩
    rintro disk (recording | finished)
    · exact recoversTo_of_spec (recover_recording_spec (walStatus_encodeHeader_recording _))
        recording
    · exact recoversTo_of_plain plain finished
  · exact ⟨_, (resumable logged).resumes
      (fun operation mem => (recorded.log.2 operation mem).2) logged⟩
  · exact ⟨_, resumes_of_spec recover_orphans_spec (fun _ passed => recover_of_stripping passed)
      stripping⟩

end Runs

/-- The commit of the overwriting transaction, stopped when its operation was
applied. -/
def overwriteCrashed : Disk :=
  ((applyInner plainCodec overwriteOperations).stops (Env.calm Site FileName) .record 0
    overwriteStart).getD 9 overwriteStart

/-- Its recovery, stopped when the backup was restored. -/
def overwriteInterrupted : Disk :=
  ((recover plainCodec).stops (Env.calm Site FileName) .recover 0 overwriteCrashed).getD 5
    overwriteCrashed

/-- The second recovery takes the restored file for a new one and removes it. -/
theorem recover_twice_loses_key : Recorded plainCodec overwriteOperations overwriteStart ∧
      PlainContents overwriteStart.contents ∧
      overwriteCrashed ∈ (applyInner plainCodec overwriteOperations).stops
        (Env.calm Site FileName) .record 0 overwriteStart ∧
      overwriteInterrupted ∈ (recover plainCodec).stops (Env.calm Site FileName) .recover 0
        overwriteCrashed ∧
      (recover plainCodec (Env.calm Site FileName) .recover 0 overwriteCrashed).state.contents.file
        databaseName.asStr ['e', 'c', 'u'] = some [1] ∧
      (recover plainCodec (Env.calm Site FileName) .recover 0
        overwriteInterrupted).state.contents.file databaseName.asStr ['e', 'c', 'u'] = none := by
  have crashedLogged : overwriteCrashed.wal =
      some (walFile plainCodec statusCommitting overwriteOperations) := by decide +kernel
  have recovered := @recover_walFile plainCodec overwriteOperations overwriteCrashed (by decide)
    crashedLogged (Env.calm Site FileName) .recover (Env.calm_faultless _) 0
  have interrupted : overwriteInterrupted = ((recoverLogged overwriteOperations).stops
      (Env.calm Site FileName) .recover 0 overwriteCrashed).getD 5 overwriteCrashed := by
    simp only [overwriteInterrupted, Program.stops, recovered]
  have interruptedLogged : overwriteInterrupted.wal =
      some (walFile plainCodec statusCommitting overwriteOperations) := by
    rw [interrupted]
    decide +kernel
  refine ⟨overwriteStart_recorded, .of_forall (by decide), ?_, ?_, ?_, ?_⟩
  · rw [overwriteCrashed, List.getD_eq_getElem _ _ (by decide +kernel)]
    exact List.getElem_mem _
  · rw [overwriteInterrupted, List.getD_eq_getElem _ _ ?_]
    · exact List.getElem_mem _
    · simp only [Program.stops, recovered]
      decide +kernel
  · rw [recovered]
    decide
  · rw [recover_walFile (by decide) interruptedLogged (Env.calm_faultless _), interrupted]
    decide

/-- The commit of the update, stopped when its last operation was applied. -/
def replaceApplied : Disk :=
  ((applyInner plainCodec replaceOperations).stops (Env.calm Site FileName) .record 0
    replaceStart).getD 10 replaceStart

/-- The update that only adds and removes files can be recovered in several
attempts. -/
theorem recover_resumes_replace :
    replaceApplied.contents.file updateName.asStr ['e', 'c', 'u'] = some [2] ∧
      replaceApplied.contents.file databaseName.asStr ['e', 'c', 'u'] = none ∧
      ∃ contents, Resumes plainCodec contents replaceApplied := by
  have stopped : replaceApplied ∈ (applyInner plainCodec replaceOperations).stops
      (Env.calm Site FileName) .record 0 replaceStart := by
    rw [replaceApplied, List.getD_eq_getElem _ _ (by decide +kernel)]
    exact List.getElem_mem _
  have plain : PlainContents replaceStart.contents := .of_forall (by decide)
  have compatible := compatible_of_recordable
    (fun operation mem => (replaceStart_recorded.log.2 operation mem).1) (by decide)
  refine ⟨by decide +kernel, by decide +kernel, ?_⟩
  refine recover_resumes replaceStart_recorded plain stopped fun logged => ?_
  have undoing := undoing_of_crash replaceStart_recorded plain (by decide)
    replaceStart_writesNewKeys replaceStart_runUndoable (Env.calm_faultless _) stopped logged
  exact undoing.1.resumable compatible replaceStart_writesNewKeys

end DiagnosticAdapter.Storage
