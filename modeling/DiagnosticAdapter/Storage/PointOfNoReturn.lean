import Mathlib.Data.List.GetD
import DiagnosticAdapter.Storage.Atomicity
import DiagnosticAdapter.Storage.Frame

/-!
# The point of no return

After a commit has removed the log, only backups are removed, and so does a
recovery that finds no log.  It does not matter which of the two gets how far.
-/

namespace DiagnosticAdapter.Storage

open Effects

section Orphans

variable {codec : Codec} {contents : Contents}

/-- Without the status of a log `recover` removes the backups that are left. -/
theorem recoverStatus_none_spec {wal : Option Bytes} :
    Triple Env.Faultless (Stripping contents wal) (recoverStatus codec none)
      (fun _ => Holds contents.withoutBackups wal) (fun _ => False) (Stripping contents wal) := by
  refine Triple.lookThen fun found => Triple.whenever (fun _ => ?_) (fun missing => ?_)
  · exact Triple.consequence (deleteAllBackupFiles_spec .faultless) (fun _ _ calm => calm)
      (fun _ start => start.1) (fun _ _ done => done) (fun _ no => no) (fun _ passed => passed)
  · rintro disk ⟨⟨same, logged⟩, clean⟩
    rw [missing] at clean
    exact ⟨by rw [← hasBackupFiles_eq_false clean, same], logged⟩

theorem recover_orphans_spec : Triple Env.Faultless (Stripping contents none) (recover codec)
      (fun _ => Holds contents.withoutBackups none) (fun _ => False)
      (Stripping contents none) := by
  have inner : Triple Env.Faultless
      (fun disk => Stripping contents none disk ∧ disk.wal = none)
      (recoverStatus codec (loggedStatus codec none))
      (fun _ => Holds contents.withoutBackups none) (fun _ => False)
      (Stripping contents none) :=
    Triple.consequence recoverStatus_none_spec (fun _ _ calm => calm) (fun _ start => start.1)
      (fun _ _ done => done) (fun _ no => no) (fun _ passed => passed)
  refine Triple.consequence (recover_spec (fun _ start _ => start) ?_ inner)
    (fun _ _ calm => calm) (fun _ start => ⟨start, start.2⟩) (fun _ _ done => done)
    (fun _ no => no) (fun _ passed => passed)
  rintro disk (⟨same, noLog⟩ | ⟨same, noLog⟩)
  all_goals exact ⟨by rw [same, Contents.withoutBackups_withoutBackups], noLog⟩

theorem recover_of_stripping {disk : Disk} (stripping : Stripping contents none disk) :
    RecoversTo codec contents.withoutBackups disk :=
  recoversTo_of_spec recover_orphans_spec stripping

end Orphans

section Commit

variable {codec : Codec} {operations : List Operation} {env : Env Site FileName} {site : Site}
  {clock : Nat} {start : Disk}

/-- Nothing was done, the log is marked as committing, or it is gone and nothing but backups of the
given contents is missing. -/
def LoggedOrStripping (codec : Codec) (operations : List Operation) (start : Disk)
    (contents : Contents) (disk : Disk) : Prop :=
  disk = start ∨ disk.wal = some (walFile codec statusCommitting operations) ∨
    Stripping contents none disk

/-- What a failing clean-up leaves behind. -/
def LeftBackups (env : Env Site FileName) (contents other : Contents) : Prop :=
  ¬ env.Faultless .cleanup ∧ other.withoutBackups = contents.withoutBackups

theorem finishApply_of_holds {contents : Contents} (result : Except StorageError Unit) :
    Triple (fun env' (_ : Site) => env' = env)
      (Holds contents (some (walFile codec statusCommitting operations))) (finishApply result)
      (fun _ => Cleaned contents (LeftBackups env contents)) (fun _ => True)
      (LoggedOrStripping codec operations start contents) := by
  have finished := @finishApply_spec (fun env' _ => env' = env) (fun _ => True) contents
    (walFile codec statusCommitting operations) (LeftBackups env contents) result
      (fun _ _ => trivial) (fun _ _ _ _ _ _ => trivial)
    (fun _ _ _ => trivial)
    (by
      rintro other site ⟨rfl, outer, rfl⟩ faulty disk state
      exact ⟨faulty, state.1⟩)
    (fun _ left => left.2)
  refine Triple.consequence finished (fun _ _ allowed => allowed) (fun _ state => state)
    (fun _ _ done => done) (fun _ error => error) ?_
  rintro disk (logged | stripping)
  · exact .inr (.inl logged.2)
  · exact .inr (.inr stripping)

theorem finishApply_error_spec (error : StorageError) :
    Triple (fun _ _ => True) (fun _ => True) (finishApply (.error error)) (fun _ _ => False)
      (fun _ => True) (fun _ => True) := by
  have any : ∀ {Result : Type} (program : FileM Result),
      Triple (fun _ _ => True) (fun _ => True) program (fun _ _ => True) (fun _ => True)
        (fun _ => True) := fun program => Program.Keeps.anything program
  refine Triple.bind (any _) fun _ => Triple.bind (any _) fun _ => Triple.bind (any _) fun _ =>
    Triple.bind (any _) fun _ => Triple.bind (any _) fun _ => ?_
  exact Triple.ofExcept (fun _ same => by cases same) (fun _ _ _ _ => trivial)

section Run

variable (codec operations env site clock start)

/-- The commit up to the point where its operations are applied. -/
def preparedRun : Outcome Disk StorageError Unit := prepareCommit codec env site clock start

def appliedRun : Outcome Disk StorageError Unit :=
  applyOperations operations env .applyOperations (preparedRun codec env site clock start).clock
    (preparedRun codec env site clock start).state

end Run

theorem preparedRun_meets (logged : start.wal = some (walFile codec statusRecording operations))
    (contents : Contents) :
    (prepareCommit codec env site clock start).Meets
      (fun _ disk => disk = start.marked codec operations) (fun _ => True)
      (LoggedOrStripping codec operations start contents) := by
  refine (@prepareCommit_spec codec operations start (fun _ _ => True) logged env site
    clock start trivial rfl).weaken (fun _ _ same => same) (fun _ _ => trivial) ?_
  rintro disk (rfl | rfl)
  · exact .inl rfl
  · exact .inr (.inl rfl)

theorem appliedRun_meets (contents : Contents)
    (reached : (preparedRun codec env site clock start).state = start.marked codec operations) :
    (Program.within .applyOperations (applyOperations operations) env site
      (preparedRun codec env site clock start).clock
      (preparedRun codec env site clock start).state).Meets
      (fun _ disk => disk.wal = some (walFile codec statusCommitting operations))
      (fun disk => disk.wal = some (walFile codec statusCommitting operations))
      (LoggedOrStripping codec operations start contents) := by
  have logged : (preparedRun codec env site clock start).state.wal =
      some (walFile codec statusCommitting operations) := by
    rw [reached]
    rfl
  exact (keepsLog_applyOperations operations _ env .applyOperations _ _ trivial logged).weaken
    (fun _ _ same => same) (fun _ same => same) fun disk same => .inr (.inl same)

/-- Once the log of an applied commit is removed, what is left is determined by
the contents then. -/
theorem applyInner_finishes_ok
    (logged : start.wal = some (walFile codec statusRecording operations))
    (applied : (appliedRun codec operations env site clock start).result = .ok ()) :
    (applyInner codec operations env site clock start).Meets
      (fun _ => Cleaned (appliedRun codec operations env site clock start).state.contents
        (LeftBackups env (appliedRun codec operations env site clock start).state.contents))
      (fun _ => True) (LoggedOrStripping codec operations start
        (appliedRun codec operations env site clock start).state.contents) := by
  refine (preparedRun_meets logged _).bind fun _ _ reached => ?_
  apply (appliedRun_meets _ reached).attempt.bind
  intro result same stillLogged
  have returned : result = .ok () := by
    rw [← applied]
    exact (Except.ok.inj same).symm
  subst returned
  let shown := (appliedRun codec operations env site clock start).state.contents
  have synced : Triple (fun env' (_ : Site) => env' = env)
      (Holds shown (some (walFile codec statusCommitting operations)))
      (Program.within .syncCollections (syncCollectionDirs operations))
      (fun _ => Holds shown (some (walFile codec statusCommitting operations))) (fun _ => True)
      (LoggedOrStripping codec operations start shown) :=
    Triple.within (Triple.consequence (syncCollectionDirs_spec operations)
      (fun _ _ allowed => allowed) (fun _ state => state) (fun _ _ done => done)
      (fun _ _ => trivial) (fun _ state => .inr (.inl state.2)))
  exact Triple.bind synced (fun _ => finishApply_of_holds (.ok ())) env site _ _ rfl ⟨rfl, stillLogged⟩

theorem applyInner_finishes_error
    (logged : start.wal = some (walFile codec statusRecording operations))
    {error : StorageError}
    (failed : (appliedRun codec operations env site clock start).result = .error error) :
    ∃ contents, (applyInner codec operations env site clock start).Meets (fun _ _ => False)
      (fun _ => True) (LoggedOrStripping codec operations start contents) := by
  let applied := appliedRun codec operations env site clock start
  let undone := rollbackAppliedOperations operations env .rollback applied.clock applied.state
  refine ⟨undone.state.contents, (preparedRun_meets logged _).bind fun _ _ reached => ?_⟩
  apply (appliedRun_meets _ reached).attempt.bind
  intro result same stillLogged
  have returned : result = .error error := by
    rw [← failed]
    exact (Except.ok.inj same).symm
  subst returned
  have kept := (((keepsLog_rollbackAppliedOperations operations
    (some (walFile codec statusCommitting operations))).within .rollback).attempt env site
      applied.clock applied.state trivial stillLogged)
  refine (kept.weaken (fun _ _ same => same) (fun _ _ => trivial) fun disk same =>
    .inr (.inl same)).bind fun _ _ keptLog => ?_
  refine ⟨?_, (finishApply_error_spec error env site _ _ trivial trivial).2⟩
  exact (@finishApply_of_holds codec operations env start undone.state.contents (.error error) env
    site undone.clock undone.state rfl ⟨rfl, keptLog⟩).1

/-- Every stop of a commit is before the first step, under the marked log, or
after its removal. -/
theorem applyInner_finishes (logged : start.wal = some (walFile codec statusRecording operations)) :
    ∃ contents, ∀ stopped ∈ (applyInner codec operations).stops env site clock start,
      LoggedOrStripping codec operations start contents stopped := by
  have started : ∀ contents, (∀ passed ∈ (applyInner codec operations env site clock start).trace,
      LoggedOrStripping codec operations start contents passed) →
      ∀ stopped ∈ (applyInner codec operations).stops env site clock start,
        LoggedOrStripping codec operations start contents stopped := by
    intro contents passes stopped mem
    rcases List.mem_cons.mp mem with rfl | passed
    · exact .inl rfl
    · exact passes stopped passed
  cases ended : (appliedRun codec operations env site clock start).result with
  | ok value => exact ⟨_, started _ (applyInner_finishes_ok logged ended).1⟩
  | error error =>
    obtain ⟨contents, passes, _⟩ := applyInner_finishes_error logged ended
    exact ⟨contents, started contents passes⟩

section

variable (logged : start.wal = some (walFile codec statusRecording operations))
  (committed : (applyInner codec operations env site clock start).result = .ok ())

include logged committed

theorem preparedRun_state :
    (preparedRun codec env site clock start).state = start.marked codec operations := by
  cases ended : (preparedRun codec env site clock start).result with
  | ok value => exact (preparedRun_meets logged start.contents).of_ok ended
  | error error =>
    have failed : (applyInner codec operations env site clock start).result = .error error :=
      congrArg Outcome.result (Program.bind_of_error ended)
    rw [committed] at failed
    cases failed

theorem appliedRun_of_committed :
    (appliedRun codec operations env site clock start).result = .ok () := by
  cases ended : (appliedRun codec operations env site clock start).result with
  | ok value => rfl
  | error error =>
    obtain ⟨_, _, no⟩ := applyInner_finishes_error logged ended
    rw [committed] at no
    exact no.elim

end

/-- Wherever the process stops after a successful commit removed the log,
recovery leaves what the commit shows. -/
theorem recover_after_commit (recorded : Recorded codec operations start)
    (committed : (applyInner codec operations env site clock start).result = .ok ()) :
    ∀ stopped ∈ (applyInner codec operations).stops env site clock start, stopped.wal = none →
      ∀ (later : Env Site FileName) (clock' : Nat), later.Faultless .recover →
        let shown := (applyInner codec operations env site clock start).state.contents
        let recovered := recover codec later .recover clock' stopped
        recovered.result = .ok () ∧ recovered.state.contents = shown.withoutBackups ∧
          (env.Faultless .cleanup → recovered.state.contents = shown) := by
  intro stopped passed noLog later clock' calm
  let contents := (appliedRun codec operations env site clock start).state.contents
  obtain ⟨during, ended⟩ := applyInner_finishes_ok recorded.log.1
    (appliedRun_of_committed recorded.log.1 committed)
  rw [committed] at ended
  have stripping : Stripping contents none stopped := by
    have reached : LoggedOrStripping codec operations start contents stopped := by
      rcases List.mem_cons.mp passed with rfl | mem
      · exact .inl rfl
      · exact during stopped mem
    rcases reached with rfl | logged | stripping
    · simp [recorded.log.1] at noLog
    · simp [logged] at noLog
    · exact stripping
  obtain ⟨succeeded, recovered⟩ := @recover_of_stripping codec contents stopped stripping later clock' calm
  refine ⟨succeeded, ?_, fun clean => ?_⟩
  · rcases ended.1 with same | left
    · rw [recovered, same, Contents.withoutBackups_withoutBackups]
    · rw [recovered, left.2]
  · rcases ended.1 with same | left
    · rw [recovered, same]
    · exact absurd clean left.1

end Commit

/-- The commit of the update, stopped right after the log was removed. -/
def replaceStopped : Disk :=
  ((applyInner plainCodec replaceOperations).stops (Env.calm Site FileName) .record 0
    replaceStart).getD 19 replaceStart

theorem recover_after_commit_replace :
    (recover plainCodec (Env.calm Site FileName) .recover 0 replaceStopped).state.contents =
      (applyInner plainCodec replaceOperations (Env.calm Site FileName) .record 0
        replaceStart).state.contents := by
  have stopped : replaceStopped ∈ (applyInner plainCodec replaceOperations).stops
      (Env.calm Site FileName) .record 0 replaceStart := by
    rw [replaceStopped, List.getD_eq_getElem _ _ (by decide +kernel)]
    exact List.getElem_mem _
  exact (recover_after_commit replaceStart_recorded (by decide) replaceStopped stopped
    (by decide +kernel) (Env.calm Site FileName) 0 (Env.calm_faultless _)).2.2
      (Env.calm_faultless _)

end DiagnosticAdapter.Storage
