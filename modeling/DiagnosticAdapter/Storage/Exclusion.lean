import DiagnosticAdapter.Effects.Run
import DiagnosticAdapter.Storage.Commit
import DiagnosticAdapter.Storage.Serialization

/-!
# One transaction at a time

Several callers share one storage.  `begin_transaction` takes the flag
`tx_active`; it is released when the transaction has been applied or discarded.
The only point at which a commit can be dropped is where it waits for the
readers.
-/

namespace DiagnosticAdapter.Storage

open Effects Function

/-- How far the transaction of a caller is. -/
inductive Phase where
  | idle
  -- The flag is taken, the log is not created yet.
  | beginning
  | recording (operations : List Operation)
  -- `data_lock.write().await`
  | waiting (operations : List Operation)
  | applying (operations : List Operation)
  -- Applied or discarded, but the flag is not released yet.
  | releasing
  deriving DecidableEq

/-- The transaction exists or is being applied. -/
def Phase.Live (phase : Phase) : Prop := phase ≠ .idle

instance (phase : Phase) : Decidable phase.Live := inferInstanceAs (Decidable (phase ≠ .idle))

structure SharedStorage (Caller : Type) where
  txActive : Bool
  /-- The read guards of `data_lock` that are held. -/
  readers : Nat
  phase : Caller → Phase
  disk : Disk

inductive Event (Caller : Type) where
  | begin (caller : Caller)
  | busy (caller : Caller)
  | create (caller : Caller)
  | record (caller : Caller)
  | commit (caller : Caller)
  | acquire (caller : Caller)
  | apply (caller : Caller)
  | release (caller : Caller)
  | drop (caller : Caller)
  | cancel (caller : Caller)
  | read
  | readDone
  deriving DecidableEq

section Steps

variable {Caller : Type} [DecidableEq Caller]

def SharedStorage.setPhase (storage : SharedStorage Caller) (caller : Caller) (phase : Phase) :
    SharedStorage Caller :=
  { storage with phase := update storage.phase caller phase }

/-- Nobody holds a guard of `data_lock`. -/
def SharedStorage.Unlocked (storage : SharedStorage Caller) : Prop :=
  storage.readers = 0 ∧ ∀ caller operations, storage.phase caller ≠ .applying operations

def SharedStorage.start (Caller : Type) (disk : Disk) : SharedStorage Caller :=
  ⟨false, 0, fun _ => .idle, disk⟩

variable (codec : Codec)

/-- What a caller or a reader can do next. -/
inductive Step : SharedStorage Caller → Event Caller → SharedStorage Caller → Prop where
  | begin {storage caller} :
      storage.phase caller = .idle → storage.txActive = false →
      Step storage (.begin caller) { storage.setPhase caller .beginning with txActive := true }
  | busy {storage caller} :
      storage.phase caller = .idle → storage.txActive = true →
      Step storage (.busy caller) storage
  | create {storage caller env clock} :
      storage.phase caller = .beginning →
      (createJournal codec env .record clock storage.disk).result = .ok () →
      Step storage (.create caller)
        { storage.setPhase caller (.recording []) with
          disk := (createJournal codec env .record clock storage.disk).state }
  | createFailed {storage caller env clock error} :
      storage.phase caller = .beginning →
      (createJournal codec env .record clock storage.disk).result = .error error →
      Step storage (.create caller)
        { storage.setPhase caller .idle with
          txActive := false
          disk := (createJournal codec env .record clock storage.disk).state }
  | record {storage caller operations program env clock operation} :
      storage.phase caller = .recording operations → RecordCall codec program →
      (program env .record clock storage.disk).result = .ok operation →
      Step storage (.record caller)
        { storage.setPhase caller (.recording (operations ++ [operation])) with
          disk := (program env .record clock storage.disk).state }
  | recordFailed {storage caller operations program env clock error} :
      storage.phase caller = .recording operations → RecordCall codec program →
      (program env .record clock storage.disk).result = .error error →
      Step storage (.record caller)
        { storage with disk := (program env .record clock storage.disk).state }
  | commitFailed {storage caller operations env site clock error} :
      storage.phase caller = .recording operations →
      (prepareCommit codec env site clock storage.disk).result = .error error →
      Step storage (.commit caller)
        { storage.setPhase caller .releasing with
          disk := (prepareCommit codec env site clock storage.disk).state }
  -- The first poll of the commit goes on if the lock is free, and waits otherwise.
  | commitUnlocked {storage caller operations env site clock} :
      storage.phase caller = .recording operations →
      (prepareCommit codec env site clock storage.disk).result = .ok () → storage.Unlocked →
      Step storage (.commit caller)
        { storage.setPhase caller (.applying operations) with
          disk := (prepareCommit codec env site clock storage.disk).state }
  | commitLocked {storage caller operations env site clock} :
      storage.phase caller = .recording operations →
      (prepareCommit codec env site clock storage.disk).result = .ok () → ¬ storage.Unlocked →
      Step storage (.commit caller)
        { storage.setPhase caller (.waiting operations) with
          disk := (prepareCommit codec env site clock storage.disk).state }
  | acquire {storage caller operations} :
      storage.phase caller = .waiting operations → storage.Unlocked →
      Step storage (.acquire caller) (storage.setPhase caller (.applying operations))
  | apply {storage caller operations env site clock} :
      storage.phase caller = .applying operations →
      Step storage (.apply caller)
        { storage.setPhase caller .releasing with
          disk := (applyLocked operations env site clock storage.disk).state }
  | release {storage caller} :
      storage.phase caller = .releasing →
      Step storage (.release caller) { storage.setPhase caller .idle with txActive := false }
  | drop {storage caller operations env site clock} :
      storage.phase caller = .recording operations →
      Step storage (.drop caller)
        { storage.setPhase caller .releasing with
          disk := (discard env site clock storage.disk).state }
  -- `committed` is already set, so `Drop` does not discard the transaction.
  | cancel {storage caller operations} :
      storage.phase caller = .waiting operations →
      Step storage (.cancel caller) (storage.setPhase caller .idle)
  | read {storage} :
      (∀ caller operations, storage.phase caller ≠ .applying operations) →
      Step storage .read { storage with readers := storage.readers + 1 }
  | readDone {storage readers} :
      storage.readers = readers + 1 → Step storage .readDone { storage with readers := readers }

end Steps

inductive Moved {Caller : Type} [DecidableEq Caller] (storage : SharedStorage Caller) :
    Event Caller → SharedStorage Caller → Prop where
  | unchanged {event : Event Caller} {next : SharedStorage Caller} :
      next.phase = storage.phase → next.txActive = storage.txActive →
      (∀ caller, event ≠ .cancel caller) → Moved storage event next
  | taken {caller : Caller} {event : Event Caller} {next : SharedStorage Caller} :
      storage.phase caller = .idle → storage.txActive = false → next.txActive = true →
      (∃ phase : Phase, phase.Live ∧ next.phase = update storage.phase caller phase) →
      (∀ caller, event ≠ .cancel caller) → Moved storage event next
  | advanced {caller : Caller} {event : Event Caller} {next : SharedStorage Caller} :
      (storage.phase caller).Live → next.txActive = storage.txActive →
      (∃ phase : Phase, phase.Live ∧ next.phase = update storage.phase caller phase) →
      (∀ caller, event ≠ .cancel caller) → Moved storage event next
  | released {caller : Caller} {event : Event Caller} {next : SharedStorage Caller} :
      (storage.phase caller).Live → next.txActive = false →
      next.phase = update storage.phase caller .idle →
      (∀ caller, event ≠ .cancel caller) → Moved storage event next
  | cancelled {caller : Caller} {next : SharedStorage Caller} :
      (storage.phase caller).Live → next.txActive = storage.txActive →
      next.phase = update storage.phase caller .idle →
      Moved storage (.cancel caller) next

/-- At most one transaction is alive, and the flag tells whether there is one. -/
structure Exclusive {Caller : Type} (storage : SharedStorage Caller) : Prop where
  unique : ∀ one two, (storage.phase one).Live → (storage.phase two).Live → one = two
  active : storage.txActive = true ↔ ∃ caller, (storage.phase caller).Live

/-- The flag is taken although there is no transaction. -/
structure Leaked {Caller : Type} (storage : SharedStorage Caller) : Prop where
  active : storage.txActive = true
  idle : ∀ caller, storage.phase caller = .idle

theorem Leaked.not_exclusive {Caller : Type} {storage : SharedStorage Caller}
    (leaked : Leaked storage) : ¬ Exclusive storage := by
  intro exclusive
  obtain ⟨caller, there⟩ := exclusive.active.mp leaked.active
  exact there (leaked.idle caller)

theorem exclusive_start (Caller : Type) (disk : Disk) :
    Exclusive (SharedStorage.start Caller disk) := by
  refine ⟨fun one _ live => absurd rfl live, ?_⟩
  simp [SharedStorage.start, Phase.Live]

section Invariant

variable {Caller : Type} [DecidableEq Caller] {codec : Codec}
  {storage next : SharedStorage Caller} {event : Event Caller}

theorem Step.moved (step : Step codec storage event next) : Moved storage event next := by
  have live : ∀ {caller phase}, storage.phase caller = phase → phase ≠ .idle →
      (storage.phase caller).Live := fun at_ busy => at_ ▸ busy
  cases step with
  | begin idle free => exact .taken idle free rfl ⟨_, by simp [Phase.Live], rfl⟩ (by simp)
  | busy _ _ => exact .unchanged rfl rfl (by simp)
  | create at_ _ | record at_ _ _ | commitFailed at_ _ | commitUnlocked at_ _ _
  | commitLocked at_ _ _ | acquire at_ _ | apply at_ | drop at_ =>
    exact .advanced (live at_ (by simp)) rfl ⟨_, by simp [Phase.Live], rfl⟩ (by simp)
  | createFailed at_ _ => exact .released (live at_ (by simp)) rfl rfl (by simp)
  | recordFailed _ _ _ => exact .unchanged rfl rfl (by simp)
  | release at_ => exact .released (live at_ (by simp)) rfl rfl (by simp)
  | cancel at_ => exact .cancelled (live at_ (by simp)) rfl rfl
  | read _ | readDone _ => exact .unchanged rfl rfl (by simp)

theorem Exclusive.step (exclusive : Exclusive storage) (moved : Moved storage event next)
    (uncancelled : ∀ caller, event ≠ .cancel caller) : Exclusive next := by
  cases moved with
  | unchanged samePhase sameFlag _ =>
    exact ⟨by rw [samePhase]; exact exclusive.unique, by
      rw [samePhase, sameFlag]; exact exclusive.active⟩
  | @taken caller _ _ idle free flagged changed _ =>
    obtain ⟨phase, live, changed⟩ := changed
    have nobody : ∀ other, ¬ (storage.phase other).Live := by
      intro other there
      simpa [free] using exclusive.active.mpr ⟨other, there⟩
    have only : ∀ other, (next.phase other).Live → other = caller := by
      intro other there
      by_contra apart
      rw [changed, update_of_ne apart] at there
      exact nobody other there
    refine ⟨fun one two first second => (only one first).trans (only two second).symm, ?_⟩
    exact ⟨fun _ => ⟨caller, by rwa [changed, update_self]⟩, fun _ => flagged⟩
  | @advanced caller _ _ there sameFlag changed _ =>
    obtain ⟨phase, live, changed⟩ := changed
    have still : ∀ other, (next.phase other).Live ↔ (storage.phase other).Live := by
      intro other
      by_cases same : other = caller
      · subst same
        rw [changed, update_self]
        exact ⟨fun _ => there, fun _ => live⟩
      · rw [changed, update_of_ne same]
    refine ⟨fun one two first second =>
      exclusive.unique one two ((still one).mp first) ((still two).mp second), ?_⟩
    rw [sameFlag, exclusive.active]
    exact exists_congr fun other => (still other).symm
  | @released caller _ _ there freed changed _ =>
    have nobody : ∀ other, ¬ (next.phase other).Live := by
      intro other found
      by_cases same : other = caller
      · subst same
        rw [changed, update_self] at found
        exact found rfl
      · rw [changed, update_of_ne same] at found
        exact same (exclusive.unique other caller found there)
    exact ⟨fun one _ first => absurd first (nobody one), by
      simp only [freed, Bool.false_eq_true, false_iff, not_exists]; exact nobody⟩
  | cancelled _ _ _ => exact absurd rfl (uncancelled _)

theorem Exclusive.leaked_of_cancel {caller : Caller} (exclusive : Exclusive storage)
    (moved : Moved storage (.cancel caller) next) : Leaked next := by
  cases moved with
  | unchanged _ _ apart | taken _ _ _ _ apart | advanced _ _ _ apart | released _ _ _ apart =>
    exact absurd rfl (apart caller)
  | cancelled there sameFlag changed =>
    refine ⟨by rw [sameFlag, exclusive.active]; exact ⟨caller, there⟩, fun other => ?_⟩
    by_cases same : other = caller
    · rw [same, changed, update_self]
    · rw [changed, update_of_ne same]
      by_contra found
      exact same (exclusive.unique other caller found there)

theorem Leaked.step (leaked : Leaked storage) (moved : Moved storage event next) :
    Leaked next := by
  cases moved with
  | unchanged samePhase sameFlag _ =>
    exact ⟨sameFlag.trans leaked.active, fun caller => by rw [samePhase, leaked.idle]⟩
  | taken _ free _ _ _ => simp [leaked.active] at free
  | @advanced caller _ _ there _ _ _ | @released caller _ _ there _ _ _
  | @cancelled caller _ there _ _ => exact absurd (leaked.idle caller) there

/-- A transaction is refused only while another one is alive. -/
def RefusesRightly (codec : Codec) (storage : SharedStorage Caller) : Prop :=
  ∀ caller next, Step codec storage (.busy caller) next →
    ∃ other, other ≠ caller ∧ (storage.phase other).Live

theorem Exclusive.refusesRightly (exclusive : Exclusive storage) :
    RefusesRightly codec storage := by
  intro caller next step
  cases step with
  | busy idle taken =>
    obtain ⟨other, there⟩ := exclusive.active.mp taken
    refine ⟨other, ?_, there⟩
    rintro rfl
    exact there idle

/-- In every state that the callers can reach, transactions are exclusive and
the flag is right, exactly if no commit was dropped where it waits. -/
theorem exclusive_iff_not_cancelled {disk : Disk} {events : List (Event Caller)}
    (run : Run (Step codec) (SharedStorage.start Caller disk) events storage) :
    (Exclusive storage ∧ RefusesRightly codec storage) ↔ ∀ caller, .cancel caller ∉ events := by
  have kept := run.keeps (fun events storage =>
    ((∀ caller, .cancel caller ∉ events) ∧ Exclusive storage) ∨
      ((∃ caller, .cancel caller ∈ events) ∧ Leaked storage))
    (.inl ⟨by simp, exclusive_start Caller disk⟩) ?_
  · rcases kept with ⟨uncancelled, exclusive⟩ | ⟨⟨caller, cancelled⟩, leaked⟩
    · exact ⟨fun _ => uncancelled, fun _ => ⟨exclusive, exclusive.refusesRightly⟩⟩
    · exact ⟨fun both => absurd both.1 leaked.not_exclusive,
        fun uncancelled => absurd cancelled (uncancelled caller)⟩
  · rintro events event storage next (⟨uncancelled, exclusive⟩ | ⟨⟨caller, cancelled⟩, leaked⟩) step
    · by_cases cancels : ∃ caller, event = .cancel caller
      · obtain ⟨caller, rfl⟩ := cancels
        exact .inr ⟨⟨caller, by simp⟩, exclusive.leaked_of_cancel step.moved⟩
      · have apart : ∀ caller, event ≠ .cancel caller :=
          fun caller same => cancels ⟨caller, same⟩
        refine .inl ⟨fun caller mem => ?_, exclusive.step step.moved apart⟩
        rcases List.mem_append.mp mem with early | final
        · exact uncancelled caller early
        · exact apart caller (List.mem_singleton.mp final).symm
    · exact .inr ⟨⟨caller, List.mem_append_left _ cancelled⟩, leaked.step step.moved⟩

theorem journaled_create {disk : Disk} {env : Env Site FileName} {clock : Nat}
    (created : (createJournal codec env .record clock disk).result = .ok ()) :
    Recorded codec [] (createJournal codec env .record clock disk).state := by
  unfold createJournal at created ⊢
  cases logged : (createWal codec env .record clock disk).result with
  | error error =>
    rw [Program.bind_of_error logged] at created
    cases created
  | ok value =>
    rw [Program.bind_of_ok logged]
    have quiet : ∀ clock disk, (sync env .record clock disk).state = disk := by
      intro clock disk
      unfold sync call Program.step
      split <;> rfl
    change Recorded codec [] (sync env .record _ _).state
    rw [quiet]
    exact .begun logged

end Invariant

def begunStorage : SharedStorage Bool :=
  { (SharedStorage.start Bool ⟨∅, ∅, none⟩).setPhase false .beginning with txActive := true }

def recordingStorage : SharedStorage Bool :=
  { begunStorage.setPhase false (.recording []) with
    disk := (createJournal plainCodec (Env.calm Site FileName) .record 0 begunStorage.disk).state }

def waitingStorage : SharedStorage Bool :=
  { recordingStorage.setPhase false (.waiting []) with
    readers := 1
    disk := (prepareCommit plainCodec (Env.calm Site FileName) .record 0
      recordingStorage.disk).state }

theorem run_recordingStorage : Run (Step plainCodec) (SharedStorage.start Bool ⟨∅, ∅, none⟩)
    [.begin false, .create false] recordingStorage :=
  (Run.start.step (.begin rfl rfl)).step (.create rfl rfl)

theorem run_waitingStorage : Run (Step plainCodec) (SharedStorage.start Bool ⟨∅, ∅, none⟩)
    [.begin false, .create false, .read, .commit false] waitingStorage := by
  have shared : Run (Step plainCodec) (SharedStorage.start Bool ⟨∅, ∅, none⟩)
      [.begin false, .create false, .read] { recordingStorage with readers := 1 } := by
    apply run_recordingStorage.step
    apply Step.read
    intro caller operations
    cases caller <;> simp [recordingStorage, begunStorage, SharedStorage.setPhase,
      SharedStorage.start]
  exact shared.step (.commitLocked rfl rfl fun unlocked => by cases unlocked.1)

/-- The first caller gives up while it waits: the second one is refused although
there is no transaction. -/
theorem cancelled_commit_leaks_flag :
    ∃ storage, Run (Step plainCodec) (SharedStorage.start Bool ⟨∅, ∅, none⟩)
        [.begin false, .create false, .read, .commit false, .cancel false] storage ∧
      Leaked storage ∧ Step plainCodec storage (.busy true) storage ∧
      ¬ (Exclusive storage ∧ RefusesRightly plainCodec storage) := by
  have leaked : Leaked (waitingStorage.setPhase false .idle) := ⟨rfl, by decide⟩
  refine ⟨waitingStorage.setPhase false .idle, ?_, leaked, .busy (by decide) rfl,
    fun both => leaked.not_exclusive both.1⟩
  exact run_waitingStorage.step (.cancel rfl)

theorem exclusive_iff_not_cancelled_waiting :
    (Exclusive waitingStorage ∧ RefusesRightly plainCodec waitingStorage) ↔
      ∀ caller, .cancel caller ∉
        ([.begin false, .create false, .read, .commit false] : List (Event Bool)) :=
  exclusive_iff_not_cancelled run_waitingStorage

end DiagnosticAdapter.Storage
