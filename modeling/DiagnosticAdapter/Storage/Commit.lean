import DiagnosticAdapter.Storage.Applying
import DiagnosticAdapter.Storage.Cleanup

/-!
# The commit around the operations

Marking and synchronising before the operations are applied, removing the log
and the backups afterwards.  Each part is described for arbitrary surroundings;
what a fault leaves behind is a parameter.
-/

namespace DiagnosticAdapter.Storage

open Effects

section Sync

variable {kept : Disk → Prop} {admitted : Env Site FileName → Site → Prop}

theorem sync_spec : Triple admitted kept sync (fun _ => kept) kept kept := by
  unfold sync call
  apply Triple.step
  · exact fun _ start => start
  · exact fun _ _ _ _ _ start => start
  · intro disk next start changed
    cases changed
    exact ⟨start, start⟩
  · exact fun _ _ start _ => start

theorem openAndSync_spec : Triple admitted kept openAndSync (fun _ => kept) kept kept :=
  Triple.bind sync_spec fun _ => sync_spec

theorem syncDir_spec (name : FileName) :
    Triple admitted kept (syncDir name) (fun _ => kept) kept kept := by
  refine Triple.lookThen fun exists_ => Triple.whenever (fun _ => ?_) (fun _ _ start => start.1)
  exact Triple.consequence openAndSync_spec (fun _ _ allowed => allowed) (fun _ start => start.1)
    (fun _ _ done => done) (fun _ error => error) (fun _ passed => passed)

theorem syncCollectionDirs_spec (operations : List Operation) :
    Triple admitted kept (syncCollectionDirs operations) (fun _ => kept) kept kept := by
  let same (_ : List FileName) (disk : Disk) : Prop := kept disk
  have turn : ∀ name rest, Triple admitted (same (name :: rest)) (syncDir name)
      (fun _ => same rest) kept kept := fun name _ => syncDir_spec name
  exact Triple.bind (Triple.forEach turn _) fun _ => openAndSync_spec

theorem syncStagingFiles_spec :
    Triple admitted kept syncStagingFiles (fun _ => kept) kept kept := by
  let same (_ : List FileName) (disk : Disk) : Prop := kept disk
  have turn : ∀ name rest, Triple admitted (same (name :: rest)) openAndSync
      (fun _ => same rest) kept kept := fun _ _ => openAndSync_spec
  have listing : Triple admitted kept readStaging same kept kept := by
    apply Triple.list
    · exact fun _ start => start
    · exact fun _ _ _ _ _ start => start
    · exact fun _ _ _ start _ _ => start
    · exact fun _ _ start _ => start
  exact Triple.bind listing fun staged => Triple.forEach turn staged

end Sync

section Prepare

variable {codec : Codec} {operations : List Operation} {start : Disk}

def Disk.marked (codec : Codec) (operations : List Operation) (start : Disk) : Disk :=
  { start with wal := some (walFile codec statusCommitting operations) }

theorem markCommitting_walFile
    (logged : start.wal = some (walFile codec statusRecording operations)) :
    start.markCommitting codec = .ok (start.marked codec operations) := by
  simp [Disk.markCommitting, Disk.marked, logged, walFile, length_encodeHeader]

theorem marked_mem_stops (logged : start.wal = some (walFile codec statusRecording operations))
    {env : Env Site FileName} (calm : env.Faultless .markCommitting) (site : Site) (clock : Nat) :
    start.marked codec operations ∈ (applyInner codec operations).stops env site clock start := by
  apply List.mem_cons_of_mem
  apply Program.mem_trace_bind
  apply Program.mem_trace_bind
  simp [Program.within, markCommitting, call, Program.step, calm clock,
    markCommitting_walFile logged]

theorem prepareCommit_spec {admitted : Env Site FileName → Site → Prop}
    (logged : start.wal = some (walFile codec statusRecording operations)) :
    Triple admitted (fun disk => disk = start) (prepareCommit codec)
      (fun _ disk => disk = start.marked codec operations)
      (fun disk => disk = start ∨ disk = start.marked codec operations)
      (fun disk => disk = start ∨ disk = start.marked codec operations) := by
  have marked : Triple admitted (fun disk => disk = start)
      (Program.within .markCommitting (markCommitting codec))
      (fun _ disk => disk = start.marked codec operations)
      (fun disk => disk = start ∨ disk = start.marked codec operations)
      (fun disk => disk = start ∨ disk = start.marked codec operations) := by
    apply Triple.within
    apply Triple.step
    · exact fun _ same => .inl same
    · exact fun _ _ _ _ _ same => .inl same
    · rintro disk next rfl changed
      rw [markCommitting_walFile logged] at changed
      cases changed
      exact ⟨.inr rfl, rfl⟩
    · exact fun _ _ same _ => .inl same
  have quiet : ∀ {program : FileM Unit} {site : Site},
      Triple (fun env inner => inner = site ∧ ∃ outer, admitted env outer)
        (fun disk => disk = start.marked codec operations) program
        (fun _ disk => disk = start.marked codec operations)
        (fun disk => disk = start.marked codec operations)
        (fun disk => disk = start.marked codec operations) →
      Triple admitted (fun disk => disk = start.marked codec operations)
        (Program.within site program)
        (fun _ disk => disk = start.marked codec operations)
        (fun disk => disk = start ∨ disk = start.marked codec operations)
        (fun disk => disk = start ∨ disk = start.marked codec operations) := by
    intro program site inner
    exact Triple.within (Triple.consequence inner (fun _ _ allowed => allowed)
      (fun _ same => same) (fun _ _ same => same) (fun _ same => .inr same)
      (fun _ same => .inr same))
  exact Triple.bind marked fun _ => Triple.bind (quiet syncStagingFiles_spec) fun _ =>
    quiet openAndSync_spec

end Prepare

section Finish

variable {admitted : Env Site FileName → Site → Prop} {failed : Disk → Prop}
  {contents : Contents} {data : Bytes} {lost : Contents → Prop}

/-- The backups are removed, or a fault left `lost` contents. -/
def Cleaned (contents : Contents) (lost : Contents → Prop) (disk : Disk) : Prop :=
  (disk.contents = contents.withoutBackups ∨ lost disk.contents) ∧ disk.wal = none

theorem removeLog_spec (removal : ∀ disk, Holds contents (some data) disk → failed disk)
    (exists_ : Bool) :
    Triple admitted (fun disk => Holds contents (some data) disk ∧ disk.wal.isSome = exists_)
      (Program.whenever exists_ (Program.within .removeWal removeWal))
      (fun _ => Holds contents none) failed
      (fun disk => Holds contents (some data) disk ∨ Stripping contents none disk) := by
  refine Triple.whenever (fun _ => ?_) (fun missing => ?_)
  · apply Triple.within
    apply Triple.step
    · exact fun _ start => .inl start.1
    · exact fun _ _ _ _ disk start => removal disk start.1
    · rintro disk next ⟨⟨rfl, same⟩, _⟩ changed
      simp only [Disk.removeWal, same] at changed
      cases changed
      exact ⟨.inr ⟨rfl, rfl⟩, rfl, rfl⟩
    · exact fun disk _ start _ => removal disk start.1
  · rintro disk ⟨⟨_, same⟩, there⟩
    rw [same, missing] at there
    cases there

theorem cleanup_spec
    (left : Tolerates (fun env site => site = .cleanup ∧ ∃ outer, admitted env outer)
      (Stripping contents none) fun disk => lost disk.contents) :
    Triple admitted (Holds contents none)
      (Program.attempt (Program.within .cleanup cleanupBackupFiles))
      (fun _ => Cleaned contents lost) failed (Stripping contents none) := by
  have inner : Triple admitted (Holds contents none)
      (Program.within .cleanup cleanupBackupFiles)
      (fun _ => Holds contents.withoutBackups none)
      (fun disk => lost disk.contents ∧ Stripping contents none disk)
      (Stripping contents none) := by
    apply Triple.within
    refine Triple.consequence (deleteAllBackupFiles_spec ?_) (fun _ _ allowed => allowed)
      ?_ (fun _ _ done => done) (fun _ error => error) (fun _ passed => passed)
    · exact fun env site allowed faulty disk passed =>
        ⟨left env site allowed faulty disk passed, passed⟩
    · rintro disk ⟨rfl, same⟩
      exact ⟨rfl, same⟩
  refine Triple.attempt inner ?_ ?_
  · exact fun _ disk done => ⟨.inl done.1, done.2⟩
  · exact fun _ disk error => ⟨.inr error.1, error.2.2⟩

theorem cleanupStaging_spec (kept : Contents → Option Bytes → Prop) :
    Triple admitted (fun disk => kept disk.contents disk.wal)
      (Program.attempt (Program.within .cleanup cleanupDirectoryContents))
      (fun _ disk => kept disk.contents disk.wal) failed
      (fun disk => kept disk.contents disk.wal) := by
  have inner : Triple admitted (fun disk => kept disk.contents disk.wal)
      (Program.within .cleanup cleanupDirectoryContents)
      (fun _ disk => kept disk.contents disk.wal) (fun disk => kept disk.contents disk.wal)
      (fun disk => kept disk.contents disk.wal) :=
    Triple.within (cleanupStagingDir_spec kept fun _ _ _ _ _ passed => passed)
  exact Triple.attempt inner (fun _ _ done => done) (fun _ _ done => done)

theorem finishApply_spec (result : Except StorageError Unit)
    (removal : ∀ disk, Holds contents (some data) disk → failed disk)
    (journal : Tolerates
      (fun env site => site = .syncJournal result.isOk ∧ ∃ outer, admitted env outer)
      (Holds contents none) failed)
    (raised : result.isOk = false → ∀ disk, Holds contents none disk → failed disk)
    (left : Tolerates (fun env site => site = .cleanup ∧ ∃ outer, admitted env outer)
      (Stripping contents none) fun disk => lost disk.contents)
    (lostOnlyBackups : ∀ other, lost other → other.withoutBackups = contents.withoutBackups) :
    Triple admitted (Holds contents (some data)) (finishApply result)
      (fun _ => Cleaned contents lost) failed
      (fun disk => Holds contents (some data) disk ∨ Stripping contents none disk) := by
  have strips : ∀ disk, Holds contents none disk → Stripping contents none disk := by
    rintro disk ⟨rfl, same⟩
    exact ⟨rfl, same⟩
  have cleanedStrips : ∀ disk, Cleaned contents lost disk → Stripping contents none disk := by
    rintro disk ⟨same | leftOver, missing⟩
    · exact ⟨by rw [same, Contents.withoutBackups_withoutBackups], missing⟩
    · exact ⟨lostOnlyBackups _ leftOver, missing⟩
  have synced : Triple admitted (Holds contents none)
      (Program.within (.syncJournal result.isOk) openAndSync) (fun _ => Holds contents none)
      failed (fun disk => Holds contents (some data) disk ∨ Stripping contents none disk) := by
    apply Triple.within
    have step : Triple
        (fun env site => site = .syncJournal result.isOk ∧ ∃ outer, admitted env outer)
        (Holds contents none) sync (fun _ => Holds contents none) failed
        (fun disk => Holds contents (some data) disk ∨ Stripping contents none disk) := by
      unfold sync call
      apply Triple.step
      · exact fun disk start => .inr (strips disk start)
      · exact fun env site allowed faulty disk start => journal env site allowed faulty disk start
      · intro disk next start changed
        cases changed
        exact ⟨.inr (strips disk start), start⟩
      · exact fun disk error _ refused => by cases refused
    exact Triple.bind step fun _ => step
  refine Triple.lookThen fun exists_ => Triple.bind (removeLog_spec removal exists_) fun _ =>
    Triple.bind synced fun _ => ?_
  cases result with
  | ok value =>
    have cleaned : Triple admitted (Holds contents none)
        (Program.whenever true do
          let _ ← Program.attempt (Program.within .cleanup cleanupBackupFiles))
        (fun _ => Cleaned contents lost) failed
        (fun disk => Holds contents (some data) disk ∨ Stripping contents none disk) := by
      refine Triple.whenever (fun _ => ?_) (by simp)
      refine Triple.bind (Triple.consequence (cleanup_spec left) (fun _ _ allowed => allowed)
        (fun _ start => start) (fun _ _ done => done) (fun _ error => error)
        (fun _ passed => .inr passed)) fun _ => Triple.pure fun _ done => done
    refine Triple.bind cleaned fun _ => Triple.bind (Triple.consequence
      (cleanupStaging_spec fun other log =>
        (other = contents.withoutBackups ∨ lost other) ∧ log = none)
      (fun _ _ allowed => allowed) (fun _ start => start) (fun _ _ done => done)
      (fun _ error => error) (fun disk passed => .inr (cleanedStrips disk passed))) fun _ => ?_
    exact Triple.ofExcept (fun _ _ _ done => done) (fun _ same => by cases same)
  | error error =>
    have skipped : Triple admitted (Holds contents none)
        (Program.whenever false do
          let _ ← Program.attempt (Program.within .cleanup cleanupBackupFiles))
        (fun _ => Holds contents none) failed
        (fun disk => Holds contents (some data) disk ∨ Stripping contents none disk) :=
      Triple.whenever (by simp) fun _ _ start => start
    refine Triple.bind skipped fun _ => Triple.bind (Triple.consequence
      (cleanupStaging_spec fun other log => other = contents ∧ log = none)
      (fun _ _ allowed => allowed) (fun _ start => start) (fun _ _ done => done)
      (fun _ error => error) (fun disk passed => .inr (strips disk passed))) fun _ => ?_
    exact Triple.ofExcept (fun _ same => by cases same) (fun _ _ disk done => raised rfl disk done)

end Finish

end DiagnosticAdapter.Storage
