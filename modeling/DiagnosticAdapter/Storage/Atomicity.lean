import DiagnosticAdapter.Storage.Commit
import DiagnosticAdapter.Storage.Serialization

/-!
# Atomicity of a commit

A commit all of whose operations are undoable is atomic: as long as the log
exists, recovery leads back to the state before it, and an error is returned
only in such a state.
-/

namespace DiagnosticAdapter.Storage

open Effects

/-- The names of the operations are not those of backups, each is undoable where it is applied, and
if one fails, every key that was to be overwritten has its backup by then. -/
structure RevertibleCommit (codec : Codec) (operations : List Operation)
    (env : Env Site FileName) (site : Site) (clock : Nat) (start : Disk) : Prop where
  names : ∀ operation ∈ operations, operation.OriginalNames
  run : RunUndoable start.contents operations env [] operations
    (prepareCommit codec env site clock start).clock
    (prepareCommit codec env site clock start).state
  guarded : ∀ error,
    let applied := applyOperations operations env .applyOperations
      (prepareCommit codec env site clock start).clock
      (prepareCommit codec env site clock start).state
    applied.result = .error error → Guarded start.contents operations applied.state.contents

/-- No key that exists before the commit is written by it. -/
def WritesNewKeys (contents : Contents) (operations : List Operation) : Prop :=
  ∀ operation ∈ operations, ∀ name key, operation.writesTo name key = true →
    contents.file name key = none

theorem WritesNewKeys.guarded {contents : Contents} {operations : List Operation}
    (fresh : WritesNewKeys contents operations) (present : Contents) :
    Guarded contents operations present :=
  fun operation mem name key writes => .inl (fresh operation mem name key writes)

section Commit

variable {codec : Codec} {operations : List Operation} {env : Env Site FileName} {site : Site}
  {clock : Nat} {start : Disk}

theorem compatible_of_recordable {contents : Contents}
    (recordable : ∀ operation ∈ operations, Recordable contents operation)
    (names : ∀ operation ∈ operations, operation.OriginalNames) :
    Compatible contents operations := by
  refine ⟨names, ?_, ?_⟩
  · intro operation mem name creates
    have checked := recordable operation mem
    cases operation with
    | createCollection created =>
      simp only [Operation.creates, beq_iff_eq] at creates
      exact creates ▸ checked.2
    | _ => simp [Operation.creates] at creates
  · intro operation mem name copies
    have checked := recordable operation mem
    cases operation with
    | copyCollection source dest destExisted =>
      simp only [Operation.copiesToNew, Bool.and_eq_true, beq_iff_eq, Bool.not_eq_true'] at copies
      obtain ⟨rfl, new⟩ := copies
      have existed := checked.2.2.2
      rw [new] at existed
      simpa using existed.symm
    | _ => simp [Operation.copiesToNew] at copies

/-- Where a commit can be while its log exists, and when it is gone. -/
def Committing (codec : Codec) (operations : List Operation) (start disk : Disk) : Prop :=
  disk = start ∨
    Undoing start.contents (some (walFile codec statusCommitting operations)) operations disk ∨
    disk.wal = none

structure FailsInto (codec : Codec) (operations : List Operation) (env : Env Site FileName)
    (start : Disk) (failed : Disk → Prop) : Prop where
  unchanged : ∀ disk, disk.contents = start.contents → failed disk
  reversing : ∀ disk, Reversing start.contents
    (some (walFile codec statusCommitting operations)) operations operations disk → failed disk
  journal : ¬ env.Faultless (.syncJournal true) → ∀ disk, disk.wal = none → failed disk

variable {failed : Disk → Prop}

theorem finishCommit_spec (fails : FailsInto codec operations env start failed) :
    Triple (fun env' _ => env' = env)
      (Reversing start.contents (some (walFile codec statusCommitting operations)) operations
        operations)
      (Program.within .syncCollections (syncCollectionDirs operations) >>= fun _ =>
        finishApply (.ok ()))
      (fun _ disk => disk.wal = none) failed (Committing codec operations start) := by
  apply Triple.given Disk.contents
  intro contents
  have reversing : ∀ disk, Reversing start.contents
        (some (walFile codec statusCommitting operations)) operations operations disk ∧
        disk.contents = contents →
      Holds contents (some (walFile codec statusCommitting operations)) disk :=
    fun disk state => ⟨state.2, state.1.1.2⟩
  refine Triple.assume (Recoverable start.contents operations contents ∧
    Guarded start.contents operations contents) ?_ fun recoverable => ?_
  · rintro disk ⟨state, rfl⟩
    exact ⟨state.1.1, state.2⟩
  have holds : ∀ disk, Holds contents (some (walFile codec statusCommitting operations)) disk →
      Reversing start.contents (some (walFile codec statusCommitting operations)) operations
        operations disk := by
    rintro disk ⟨rfl, same⟩
    exact ⟨⟨recoverable.1, same⟩, recoverable.2⟩
  have synced : Triple (fun env' (_ : Site) => env' = env)
      (Holds contents (some (walFile codec statusCommitting operations)))
      (Program.within .syncCollections (syncCollectionDirs operations))
      (fun _ => Holds contents (some (walFile codec statusCommitting operations))) failed
      (Committing codec operations start) :=
    Triple.within (Triple.consequence (syncCollectionDirs_spec operations)
      (fun _ _ allowed => allowed) (fun _ state => state) (fun _ _ done => done)
      (fun disk state => fails.reversing disk (holds disk state))
      (fun disk state => .inr (.inl (holds disk state).1)))
  refine Triple.bind (Triple.consequence synced (fun _ _ allowed => allowed) reversing
    (fun _ _ done => done) (fun _ error => error) (fun _ passed => passed)) fun _ => ?_
  have finished := @finishApply_spec (fun env' _ => env' = env) failed contents
    (walFile codec statusCommitting operations)
    (fun other => other.withoutBackups = contents.withoutBackups) (.ok ())
    (fun disk state => fails.reversing disk (holds disk state))
    (by
      rintro other site ⟨rfl, outer, rfl⟩ faulty disk state
      exact fails.journal faulty disk state.2)
    (fun notOk => by cases notOk) (fun _ _ _ _ disk state => state.1) (fun _ same => same)
  refine Triple.consequence finished (fun _ _ allowed => allowed) (fun _ state => state)
    (fun _ _ done => done.2) (fun _ error => error) ?_
  rintro disk (state | state)
  · exact .inr (.inl (holds disk state).1)
  · exact .inr (.inr state.2)

theorem rollbackCommit_spec (plain : PlainContents start.contents)
    (compatible : Compatible start.contents operations) (calm : env.Faultless .rollback)
    (fails : FailsInto codec operations env start failed) (error : StorageError) :
    Triple (fun env' _ => env' = env)
      (Reversing start.contents (some (walFile codec statusCommitting operations)) operations
        operations)
      (Program.attempt (Program.within .rollback (rollbackAppliedOperations operations)) >>=
        fun _ => finishApply (.error error))
      (fun _ disk => disk.wal = none) failed (Committing codec operations start) := by
  have undone : Triple (fun env' (_ : Site) => env' = env)
      (Reversing start.contents (some (walFile codec statusCommitting operations)) operations
        operations)
      (Program.within .rollback (rollbackAppliedOperations operations))
      (fun _ => Holds start.contents (some (walFile codec statusCommitting operations)))
      (fun _ => False) (Committing codec operations start) := by
    apply Triple.within
    refine Triple.consequence (undo_spec plain compatible) ?_ (fun _ state => state)
      (fun _ _ done => done) (fun _ no => no) ?_
    · rintro other site ⟨rfl, outer, rfl⟩
      exact calm
    · rintro disk (reversing | undoing)
      · exact .inr (.inl reversing.1)
      · exact .inr (.inl undoing.mono)
  have caught : Triple (fun env' (_ : Site) => env' = env)
      (Reversing start.contents (some (walFile codec statusCommitting operations)) operations
        operations)
      (Program.attempt (Program.within .rollback (rollbackAppliedOperations operations)))
      (fun _ => Holds start.contents (some (walFile codec statusCommitting operations)))
      failed (Committing codec operations start) :=
    Triple.attempt undone (fun _ _ done => done) (fun _ _ no => no.elim)
  refine Triple.bind caught fun _ => ?_
  have finished := @finishApply_spec (fun env' _ => env' = env) failed start.contents
    (walFile codec statusCommitting operations)
    (fun other => other.withoutBackups = start.contents.withoutBackups) (.error error)
    (fun disk state => fails.unchanged disk state.1)
    (fun _ _ _ _ disk state => fails.unchanged disk state.1)
    (fun _ disk state => fails.unchanged disk state.1) (fun _ _ _ _ disk state => state.1)
    (fun _ same => same)
  refine Triple.consequence finished (fun _ _ allowed => allowed) (fun _ state => state)
    (fun _ _ done => done.2) (fun _ error => error) ?_
  rintro disk (⟨same, logged⟩ | state)
  · exact .inr (.inl ⟨same ▸ plain.recoverable operations, logged⟩)
  · exact .inr (.inr state.2)

theorem applyInner_meets (recorded : Recorded codec operations start)
    (plain : PlainContents start.contents)
    (revertible : RevertibleCommit codec operations env site clock start)
    (calm : env.Faultless .rollback) (fails : FailsInto codec operations env start failed) :
    (applyInner codec operations env site clock start).Meets (fun _ disk => disk.wal = none)
      failed (Committing codec operations start) := by
  obtain ⟨logged, checked⟩ := recorded.log
  have recordable := fun operation mem => (checked operation mem).1
  have compatible := compatible_of_recordable recordable revertible.names
  have marked : Undoing start.contents (some (walFile codec statusCommitting operations))
      operations (start.marked codec operations) := ⟨plain.recoverable operations, rfl⟩
  have prepared : (prepareCommit codec env site clock start).Meets
      (fun _ disk => disk = start.marked codec operations) failed
      (Committing codec operations start) := by
    have spec := @prepareCommit_spec codec operations start (fun _ _ => True) logged
    refine Triple.consequence spec (fun _ _ allowed => allowed) (fun _ same => same)
      (fun _ _ same => same) ?_ ?_ env site clock start trivial rfl
    · rintro disk (rfl | rfl)
      · exact fails.unchanged _ rfl
      · exact fails.unchanged _ rfl
    · rintro disk (rfl | rfl)
      · exact .inl rfl
      · exact .inr (.inl marked)
  apply prepared.bind
  intro _ _ reached
  have before : Applied start.contents (some (walFile codec statusCommitting operations))
      operations [] (prepareCommit codec env site clock start).state := by
    rw [reached]
    exact ⟨plain.applying operations, rfl⟩
  have run : (Program.within .applyOperations (applyOperations operations) env site
      (prepareCommit codec env site clock start).clock
      (prepareCommit codec env site clock start).state).Meets
      (fun _ => Reversing start.contents (some (walFile codec statusCommitting operations))
        operations operations)
      (Undoing start.contents (some (walFile codec statusCommitting operations)) operations)
      (Undoing start.contents (some (walFile codec statusCommitting operations)) operations) :=
    applyOperations_meets plain compatible recordable rfl before revertible.run
  have kept : (Program.within .applyOperations (applyOperations operations) env site
      (prepareCommit codec env site clock start).clock
      (prepareCommit codec env site clock start).state).Meets
      (fun _ => Reversing start.contents (some (walFile codec statusCommitting operations))
        operations operations)
      (Reversing start.contents (some (walFile codec statusCommitting operations)) operations
        operations)
      (Committing codec operations start) :=
    run.failing (fun disk state => .inr (.inl state)) fun error failed undoing =>
      ⟨undoing, revertible.guarded error failed⟩
  apply Outcome.Meets.bind kept.attempt
  intro result _ reversing
  cases result with
  | ok value => exact finishCommit_spec fails env site _ _ rfl reversing
  | error error =>
    exact rollbackCommit_spec plain compatible calm fails error env site _ _ rfl reversing

theorem Committing.undoing (plain : PlainContents start.contents) {disk : Disk}
    (committing : Committing codec operations start disk)
    (logged : disk.wal = some (walFile codec statusCommitting operations)) :
    Undoing start.contents (some (walFile codec statusCommitting operations)) operations disk := by
  rcases committing with rfl | undoing | missing
  · exact ⟨plain.recoverable operations, logged⟩
  · exact undoing
  · rw [missing] at logged
    cases logged

section

variable (recorded : Recorded codec operations start) (plain : PlainContents start.contents)

include recorded plain

/-- From every guarded recoverable state `recover` returns to the state before
the commit. -/
theorem recover_of_reversing (compatible : Compatible start.contents operations) {disk : Disk}
    (reversing : Reversing start.contents (some (walFile codec statusCommitting operations))
      operations operations disk) :
    RecoversTo codec start.contents disk :=
  have fits := fun operation mem => ((recorded.log).2 operation mem).2
  recoversTo_of_spec (recover_committing_spec plain compatible (walStatus_walFile operations)
    (readWal_walFile statusCommitting operations fits)) reversing

/-- While the log of a commit of undoable operations is marked, the state is
recoverable. -/
theorem undoing_of_crash (names : ∀ operation ∈ operations, operation.OriginalNames)
    (fresh : WritesNewKeys start.contents operations)
    (run : RunUndoable start.contents operations env [] operations (prepareCommit codec env site
      clock start).clock (prepareCommit codec env site clock start).state)
    (calm : env.Faultless .rollback) {crashed : Disk}
    (stopped : crashed ∈ (applyInner codec operations).stops env site clock start)
    (logged : crashed.wal = some (walFile codec statusCommitting operations)) :
    Undoing start.contents (some (walFile codec statusCommitting operations)) operations
      crashed := by
  have revertible : RevertibleCommit codec operations env site clock start :=
    ⟨names, run, fun _ _ => fresh.guarded _⟩
  have fails : FailsInto codec operations env start fun _ => True :=
    ⟨fun _ _ => trivial, fun _ _ => trivial, fun _ _ _ => trivial⟩
  have committing : Committing codec operations start crashed := by
    rcases List.mem_cons.mp stopped with rfl | passed
    · exact .inl rfl
    · exact (applyInner_meets recorded plain revertible calm fails).1 crashed passed
  exact committing.undoing plain logged

end

/-- Wherever a commit is stopped while its log is marked as committing, recovery
leaves exactly the state before the commit, provided that each operation is
undoable where it is applied and no existing key is written. -/
theorem recover_after_crash (recorded : Recorded codec operations start)
    (plain : PlainContents start.contents)
    (names : ∀ operation ∈ operations, operation.OriginalNames)
    (fresh : WritesNewKeys start.contents operations)
    (run : RunUndoable start.contents operations env [] operations
      (prepareCommit codec env site clock start).clock
      (prepareCommit codec env site clock start).state)
    (calm : env.Faultless .rollback) :
    ∀ crashed ∈ (applyInner codec operations).stops env site clock start,
      crashed.wal = some (walFile codec statusCommitting operations) →
        RecoversTo codec start.contents crashed := by
  intro crashed stopped logged
  have recordable := fun operation mem => ((recorded.log).2 operation mem).1
  exact recover_of_reversing recorded plain (compatible_of_recordable recordable names)
    ⟨undoing_of_crash recorded plain names fresh run calm stopped logged, fresh.guarded _⟩

end Commit

def databaseName : CollectionName := .custom ['d', 'b']

def updateName : CollectionName := .custom ['n', 'e', 'x', 't']

def Disk.sample : Disk where
  collections := (∅ : AList _).insert databaseName.asStr
    ((∅ : Folder).insert ['e', 'c', 'u'] [1])
  staging := ∅
  wal := none

def overwriteOperations : List Operation := [.write databaseName ['e', 'c', 'u'] ['t']]

def overwriteStart : Disk :=
  recordAll plainCodec Disk.sample [write plainCodec false databaseName ['e', 'c', 'u'] ['t'] [2]]

theorem overwriteStart_recorded : Recorded plainCodec overwriteOperations overwriteStart :=
  @Recorded.recorded plainCodec [] _ _ _ _ _ (.begun rfl)
    (.write _ _ _ _ (by decide) (by decide)) rfl

/-- A crash right after the log was marked loses the file that the transaction
would have replaced. -/
theorem recover_loses_overwritten_key : Recorded plainCodec overwriteOperations overwriteStart ∧
      PlainContents overwriteStart.contents ∧
      ∃ crashed ∈ (applyInner plainCodec overwriteOperations).stops (Env.calm Site FileName)
          .record 0 overwriteStart,
        crashed.wal = some (walFile plainCodec statusCommitting overwriteOperations) ∧
        overwriteStart.contents.file databaseName.asStr ['e', 'c', 'u'] = some [1] ∧
        (recover plainCodec (Env.calm Site FileName) .recover 0 crashed).state.contents.file
          databaseName.asStr ['e', 'c', 'u'] = none := by
  refine ⟨overwriteStart_recorded, .of_forall (by decide),
    overwriteStart.marked plainCodec overwriteOperations,
    marked_mem_stops overwriteStart_recorded.log.1 (Env.calm_faultless _) _ _, rfl, by decide, ?_⟩
  rw [recover_walFile (by decide) rfl (Env.calm_faultless _)]
  decide

/-- A transaction that adds a collection with one file and removes the file of
the sample. -/
def replaceOperations : List Operation :=
  [.createCollection updateName, .write updateName ['e', 'c', 'u'] ['t'],
    .delete databaseName ['e', 'c', 'u']]

def replaceStart : Disk :=
  recordAll plainCodec Disk.sample [createCollection plainCodec false updateName,
      write plainCodec false updateName ['e', 'c', 'u'] ['t'] [2],
      delete plainCodec false databaseName ['e', 'c', 'u']]

theorem replaceStart_recorded : Recorded plainCodec replaceOperations replaceStart :=
  @Recorded.recorded plainCodec _ _ _ _ _ _ (@Recorded.recorded plainCodec _ _ _ _ _ _
      (@Recorded.recorded plainCodec [] _ _ _ _ _ (.begun rfl)
        (.createCollection updateName (by decide)) rfl)
      (.write updateName ['e', 'c', 'u'] _ _ (by decide) (by decide)) rfl)
    (.delete databaseName ['e', 'c', 'u'] (by decide) (by decide)) rfl

theorem replaceStart_writesNewKeys : WritesNewKeys replaceStart.contents replaceOperations := by
  intro operation mem name key writes
  simp only [replaceOperations, List.mem_cons, List.not_mem_nil, or_false] at mem
  rcases mem with rfl | rfl | rfl
  · cases writes
  · simp only [Operation.writesTo, Bool.and_eq_true, beq_iff_eq] at writes
    obtain ⟨rfl, rfl⟩ := writes
    decide
  · cases writes

theorem replaceStart_runUndoable : RunUndoable replaceStart.contents replaceOperations
    (Env.calm Site FileName) [] replaceOperations
    (prepareCommit plainCodec (Env.calm Site FileName) .record 0 replaceStart).clock
    (prepareCommit plainCodec (Env.calm Site FileName) .record 0 replaceStart).state := by
  refine ⟨trivial, fun _ => ⟨⟨?_, .inr (.inr ⟨_, .head _, rfl⟩)⟩,
    fun _ => ⟨fun _ => .inr (by decide), fun _ => trivial⟩⟩⟩
  exact fun there => absurd (by decide) there

theorem recover_after_crash_replace : RecoversTo plainCodec replaceStart.contents
    (replaceStart.marked plainCodec replaceOperations) :=
  recover_after_crash replaceStart_recorded (.of_forall (by decide)) (by decide)
    replaceStart_writesNewKeys replaceStart_runUndoable (Env.calm_faultless _) _
    (marked_mem_stops replaceStart_recorded.log.1 (Env.calm_faultless _) .record 0) rfl

/-- A commit that returns an error has been taken back, or recovery will do
so. -/
def TakenBack (codec : Codec) (operations : List Operation) (start disk : Disk) : Prop :=
  disk.contents = start.contents ∨ (disk.wal = some (walFile codec statusCommitting operations) ∧
      RecoversTo codec start.contents disk)

/-- A revertible commit that fails is taken back, provided that no step of the
rollback and no synchronisation after a successful removal of the log fails. -/
theorem failed_commit_takenBack {codec : Codec} {operations : List Operation}
    {env : Env Site FileName} {site : Site} {clock : Nat} {start : Disk} {error : StorageError}
    (recorded : Recorded codec operations start) (plain : PlainContents start.contents)
    (revertible : RevertibleCommit codec operations env site clock start)
    (rollbackCalm : env.Faultless .rollback) (journalCalm : env.Faultless (.syncJournal true))
    (failed : (applyInner codec operations env site clock start).result = .error error) :
    TakenBack codec operations start (applyInner codec operations env site clock start).state := by
  have recordable := fun operation mem => ((recorded.log).2 operation mem).1
  have compatible := compatible_of_recordable recordable revertible.names
  have fails : FailsInto codec operations env start (TakenBack codec operations start) := by
    refine ⟨fun disk same => .inl same, fun disk reversing => ?_, fun faulty => ?_⟩
    · exact .inr ⟨reversing.1.2, recover_of_reversing recorded plain compatible reversing⟩
    · exact absurd journalCalm faulty
  have ended := (applyInner_meets recorded plain revertible rollbackCalm fails).2
  rw [failed] at ended
  exact ended

def Env.failing (fails : Site → Nat → Bool) : Env Site FileName where
  fails := fails
  order _ names := names
  order_perm _ _ := .refl _

/-- The update fails after its first operation, and so does the rollback: the
new collection stays although the log is gone. -/
theorem failed_commit_leaves_collection :
    let env := Env.failing fun site clock =>
      site = .rollback ∨ (site = .applyOperations ∧ 7 ≤ clock)
    let outcome := applyInner plainCodec replaceOperations env .record 0 replaceStart
    Recorded plainCodec replaceOperations replaceStart ∧ PlainContents replaceStart.contents ∧
      outcome.result = .error (.io .fault) ∧ outcome.state.wal = none ∧
      ¬ TakenBack plainCodec replaceOperations replaceStart outcome.state := by
  refine ⟨replaceStart_recorded, .of_forall (by decide), by decide, by decide, ?_⟩
  rintro (same | ⟨logged, _⟩)
  · exact absurd (congrArg Option.isSome (congrFun same updateName.asStr)) (by decide)
  · exact absurd logged (by decide)

theorem overwriteStart_revertible : RevertibleCommit plainCodec overwriteOperations
    (Env.failing fun site _ => site = .syncCollections) .record 0 overwriteStart := by
  refine ⟨by decide, ⟨⟨fun _ => .inr (by decide), .inl ?_⟩, fun _ => trivial⟩,
    fun error failed => ?_⟩
  · exact Option.isSome_iff_ne_none.mp (by decide)
  · have succeeded : (applyOperations overwriteOperations
        (Env.failing fun site _ => site = .syncCollections) .applyOperations
        (prepareCommit plainCodec (Env.failing fun site _ => site = .syncCollections) .record 0
          overwriteStart).clock
        (prepareCommit plainCodec (Env.failing fun site _ => site = .syncCollections) .record 0
          overwriteStart).state).result = .ok () := by decide
    cases succeeded.symm.trans failed

theorem failed_commit_takenBack_overwrite : TakenBack plainCodec overwriteOperations overwriteStart
      (applyInner plainCodec overwriteOperations
        (Env.failing fun site _ => site = .syncCollections) .record 0 overwriteStart).state :=
  @failed_commit_takenBack plainCodec overwriteOperations _ .record 0 overwriteStart
    (.io .fault) overwriteStart_recorded (.of_forall (by decide)) overwriteStart_revertible
    (fun _ => rfl) (fun _ => rfl) (by decide)

end DiagnosticAdapter.Storage
