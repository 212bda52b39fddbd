import DiagnosticAdapter.Storage.Restore

/-!
# What a start of the storage does

`recover` looks at the log, undoes or finishes what it finds there, and then
removes the log and the staged files.
-/

namespace DiagnosticAdapter.Storage

open Effects

/-- The collections and the log are as given; the staged files may differ. -/
def Holds (contents : Contents) (wal : Option Bytes) (disk : Disk) : Prop :=
  disk.contents = contents ∧ disk.wal = wal

section Staging

variable {kept : Contents → Option Bytes → Prop}
  {admitted : Env Site FileName → Site → Prop} {failed : Disk → Prop}

/-- The loop of `cleanup_staging_dir`: the listed files are still staged. -/
def Unstaging (kept : Contents → Option Bytes → Prop) (rest : List FileName) (disk : Disk) : Prop :=
  kept disk.contents disk.wal ∧ rest.Nodup ∧ ∀ name ∈ rest, disk.staging.lookup name ≠ none

theorem removeStaged_spec
    (tolerates : Tolerates admitted (fun disk => kept disk.contents disk.wal) failed)
    (staged : FileName) (rest : List FileName) :
    Triple admitted (Unstaging kept (staged :: rest)) (removeStaged staged)
      (fun _ => Unstaging kept rest) failed (fun disk => kept disk.contents disk.wal) := by
  refine Triple.safeStep tolerates (fun _ start => start.1) ?_ ?_
  · rintro disk next ⟨holds, nodup, there⟩ removed
    obtain ⟨fresh, restNodup⟩ := List.nodup_cons.mp nodup
    unfold Disk.removeStaged at removed
    split at removed
    · cases removed
    · cases removed
      refine ⟨holds, holds, restNodup, ?_⟩
      intro name mem
      have apart : name ≠ staged := fun same => fresh (same ▸ mem)
      rw [AList.lookup_erase_ne apart]
      exact there name (List.mem_cons_of_mem _ mem)
  · rintro disk error ⟨_, _, there⟩ refused
    unfold Disk.removeStaged at refused
    split at refused
    · rename_i missing
      exact there staged (by simp) missing
    · cases refused

theorem cleanupStagingDir_spec (kept : Contents → Option Bytes → Prop)
    (tolerates : Tolerates admitted (fun disk => kept disk.contents disk.wal) failed) :
    Triple admitted (fun disk => kept disk.contents disk.wal) cleanupStagingDir
      (fun _ disk => kept disk.contents disk.wal) failed
      (fun disk => kept disk.contents disk.wal) := by
  have listing : Triple admitted (fun disk => kept disk.contents disk.wal) readStaging
      (Unstaging kept) failed (fun disk => kept disk.contents disk.wal) := by
    refine Triple.safeList tolerates (fun _ start => start) ?_ (by simp)
    rintro disk names listed holds found permuted
    cases found
    have lists := Disk.lists_folder_keys disk.staging
    exact ⟨holds, permuted.nodup_iff.mpr lists.1,
      fun name mem => (lists.2 name).mp (permuted.mem_iff.mp mem)⟩
  refine Triple.bind listing fun staged => ?_
  exact Triple.consequence (Triple.forEach (removeStaged_spec tolerates) staged)
    (fun _ _ allowed => allowed) (fun _ start => start) (fun _ _ done => done.1)
    (fun _ error => error) (fun _ passed => passed)

end Staging

section Recover

variable {codec : Codec} {wal : Option Bytes} {pre failed during : Disk → Prop}

/-- What `open_wal` makes of the log. -/
def loggedStatus (codec : Codec) (wal : Option Bytes) : Option (WalStatus × Bytes) :=
  wal.bind fun data => (walStatus codec data).map fun status => (status, data)

theorem openWal_spec (starts : ∀ disk, pre disk → disk.wal = wal → during disk) :
    Triple Env.Faultless (fun disk => pre disk ∧ disk.wal = wal) (openWal codec)
      (fun status disk => (pre disk ∧ disk.wal = wal) ∧ status = loggedStatus codec wal)
      failed during := by
  refine Triple.lookThen fun exists_ => ?_
  cases exists_ with
  | false =>
    refine Triple.pure ?_
    rintro disk ⟨⟨start, rfl⟩, missing⟩
    have none : disk.wal = Option.none := by simpa using missing
    exact ⟨⟨start, rfl⟩, by simp [loggedStatus, none]⟩
  | true =>
    have synced : Triple Env.Faultless
        (fun disk => (pre disk ∧ disk.wal = wal) ∧ disk.wal.isSome = true) sync
        (fun _ disk => pre disk ∧ disk.wal = wal) failed during := by
      unfold sync call
      refine Triple.calmStep ?_ ?_ ?_
      · exact fun disk start => starts disk start.1.1 start.1.2
      · rintro disk next start changed
        cases changed
        exact ⟨starts disk start.1.1 start.1.2, start.1⟩
      · exact fun disk error _ refused => by cases refused
    refine Triple.bind synced fun _ => Triple.look ?_
    rintro disk ⟨start, rfl⟩
    exact ⟨⟨start, rfl⟩, rfl⟩

theorem removeWal_spec {contents : Contents} : Triple Env.Faultless (Holds contents wal)
      (walExists >>= fun exists_ => Program.whenever exists_ removeWal >>= fun _ =>
        cleanupStagingDir)
      (fun _ => Holds contents none) failed
      (fun disk => Holds contents wal disk ∨ Holds contents none disk) := by
  refine Triple.lookThen fun exists_ => ?_
  have removed : Triple Env.Faultless
      (fun disk => Holds contents wal disk ∧ disk.wal.isSome = exists_)
      (Program.whenever exists_ removeWal) (fun _ => Holds contents none) failed
      (fun disk => Holds contents wal disk ∨ Holds contents none disk) := by
    refine Triple.whenever (fun removing => ?_) (fun missing => ?_)
    · refine Triple.calmStep (fun _ start => .inl start.1) ?_ ?_
      · rintro disk next ⟨⟨rfl, _⟩, _⟩ changed
        unfold Disk.removeWal at changed
        split at changed
        · cases changed
        · cases changed
          exact ⟨.inr ⟨rfl, rfl⟩, rfl, rfl⟩
      · rintro disk error ⟨_, exists_⟩ refused
        unfold Disk.removeWal at refused
        split at refused
        · rename_i none
          simp [none, removing] at exists_
        · cases refused
    · rintro disk ⟨⟨same, _⟩, exists_⟩
      exact ⟨same, by simpa [missing] using exists_⟩
  refine Triple.bind removed fun _ => ?_
  have cleaned : Triple Env.Faultless (Holds contents none) cleanupStagingDir
      (fun _ => Holds contents none) failed (Holds contents none) :=
    cleanupStagingDir_spec (fun other log => other = contents ∧ log = none) .faultless
  exact Triple.consequence cleaned (fun _ _ calm => calm) (fun _ start => start)
    (fun _ _ done => done) (fun _ error => error) (fun _ passed => .inr passed)

/-- A run of `recover` is decided by what it does for the status it finds. -/
theorem recover_spec {contents : Contents}
    (starts : ∀ disk, pre disk → disk.wal = wal → during disk)
    (ends : ∀ disk, Holds contents wal disk ∨ Holds contents none disk → during disk)
    (inner : Triple Env.Faultless (fun disk => pre disk ∧ disk.wal = wal)
      (recoverStatus codec (loggedStatus codec wal)) (fun _ => Holds contents wal)
      failed during) :
    Triple Env.Faultless (fun disk => pre disk ∧ disk.wal = wal) (recover codec)
      (fun _ => Holds contents none) failed during := by
  refine Triple.bind (openWal_spec starts) fun status => ?_
  refine Triple.assume (status = loggedStatus codec wal) (fun _ start => start.2) fun same => ?_
  subst same
  refine Triple.bind (Triple.consequence inner (fun _ _ calm => calm) (fun _ start => start.1)
    (fun _ _ done => done) (fun _ error => error) (fun _ passed => passed)) fun _ => ?_
  exact Triple.consequence removeWal_spec (fun _ _ calm => calm) (fun _ start => start)
    (fun _ _ done => done) (fun _ error => error) ends

variable {operations : List Operation} {target : Contents}

theorem Undoing.mono {disk : Disk}
    (undoing : Undoing target wal [] disk) : Undoing target wal operations disk :=
  ⟨by simpa using undoing.1.mono operations, undoing.2⟩

theorem undo_spec (plain : PlainContents target) (compatible : Compatible target operations) :
    Triple Env.Faultless (Reversing target wal operations operations)
      (removeNewArtifacts operations >>= fun _ => rollbackPartialCommit)
      (fun _ => Holds target wal) (fun _ => False)
      (fun disk => Reversing target wal operations operations disk ∨ Undoing target wal [] disk) :=
  Triple.bind (Triple.consequence (removeNewArtifacts_spec compatible) (fun _ _ calm => calm)
      (fun _ start => start) (fun _ _ done => done) (fun _ no => no) (fun _ passed => .inl passed))
    fun _ => Triple.consequence (rollbackPartialCommit_spec plain) (fun _ _ calm => calm)
      (fun _ start => start) (fun _ _ done => done) (fun _ no => no) (fun _ passed => .inr passed)

/-- Where `recover` can be on its way to the target. -/
def Recovering (target : Contents) (data : Bytes) (operations : List Operation)
    (disk : Disk) : Prop :=
  (Reversing target (some data) operations operations disk ∨
    Undoing target (some data) [] disk) ∨ Holds target none disk

/-- From every guarded recoverable state with the complete log, `recover` ends
in the target. -/
theorem recover_committing_spec {data : Bytes}
    (plain : PlainContents target) (compatible : Compatible target operations)
    (status : walStatus codec data = some .committing)
    (read : readWal codec data = .ok ⟨operations, false⟩) :
    Triple Env.Faultless (Reversing target (some data) operations operations) (recover codec)
      (fun _ => Holds target none) (fun _ => False) (Recovering target data operations) := by
  have logged : loggedStatus codec (some data) = some (.committing, data) := by
    simp [loggedStatus, status]
  have inner : Triple Env.Faultless
      (fun disk => Reversing target (some data) operations operations disk ∧ disk.wal = some data)
      (recoverStatus codec (loggedStatus codec (some data))) (fun _ => Holds target (some data))
      (fun _ => False) (Recovering target data operations) := by
    rw [logged]
    simp only [recoverStatus, read]
    refine Triple.ofExceptThen rfl ?_
    exact Triple.consequence (undo_spec plain compatible) (fun _ _ calm => calm)
      (fun _ start => start.1) (fun _ _ done => done) (fun _ no => no)
      (fun _ passed => .inl passed)
  refine Triple.consequence (recover_spec (fun disk start _ => .inl (.inl start)) ?_ inner)
    (fun _ _ calm => calm) (fun _ start => ⟨start, start.1.2⟩) (fun _ _ done => done)
    (fun _ no => no) (fun _ passed => passed)
  rintro disk (⟨rfl, same⟩ | finished)
  · exact .inl (.inr ⟨plain.recoverable [], same⟩)
  · exact .inr finished

/-- A start without faults succeeds and leaves the contents. -/
def RecoversTo (codec : Codec) (contents : Contents) (disk : Disk) : Prop :=
  ∀ (later : Env Site FileName) (clock : Nat), later.Faultless .recover →
    (recover codec later .recover clock disk).result = .ok () ∧
      (recover codec later .recover clock disk).state.contents = contents

theorem recoversTo_of_spec {contents : Contents}
    (spec : Triple Env.Faultless pre (recover codec) (fun _ => Holds contents none)
      (fun _ => False) during) {disk : Disk} (start : pre disk) :
    RecoversTo codec contents disk := by
  intro later clock calm
  obtain ⟨_, ended⟩ := spec later .recover clock disk calm start
  cases result : (recover codec later .recover clock disk).result with
  | ok value =>
    rw [result] at ended
    exact ⟨rfl, ended.1⟩
  | error error =>
    rw [result] at ended
    exact ended.elim

/-- `recover` once the log has been read completely. -/
def recoverLogged (operations : List Operation) : FileM Unit := do
  sync
  rollbackAppliedOperations operations
  Program.whenever (← walExists) removeWal
  cleanupStagingDir

theorem openWal_of_calm {env : Env Site FileName} {site : Site} (calm : env.Faultless site)
    {disk : Disk} {data : Bytes} (logged : disk.wal = some data) (clock : Nat) :
    openWal codec env site clock disk =
      ⟨.ok (loggedStatus codec (some data)), clock + 1, disk, [disk]⟩ := by
  have exists_ : (walExists env site clock disk).result = .ok true := by
    simp [walExists, Program.look, logged]
  unfold openWal
  rw [Program.bind_of_ok exists_]
  simp [walExists, Program.look, sync, call, Program.step, calm clock, logged, loggedStatus,
    bind, Program.andThen]

theorem recover_walFile {operations : List Operation} {disk : Disk}
    (fits : ∀ operation ∈ operations, (codec.toBytes operation).length < 4294967296)
    (logged : disk.wal = some (walFile codec statusCommitting operations))
    {env : Env Site FileName} {site : Site} (calm : env.Faultless site) (clock : Nat) :
    recover codec env site clock disk = recoverLogged operations env site clock disk := by
  have opened := @openWal_of_calm codec env site calm disk _ logged clock
  have synced : sync env site clock disk = ⟨.ok (), clock + 1, disk, [disk]⟩ := by
    simp [sync, call, Program.step, calm clock]
  have status : loggedStatus codec (some (walFile codec statusCommitting operations)) =
      some (.committing, walFile codec statusCommitting operations) := by
    simp [loggedStatus, walStatus_walFile]
  rw [status] at opened
  change Program.andThen (openWal codec) _ env site clock disk =
    Program.andThen sync _ env site clock disk
  simp only [Program.andThen, opened, synced, recoverStatus,
    readWal_walFile statusCommitting operations fits]
  rfl

end Recover

end DiagnosticAdapter.Storage
