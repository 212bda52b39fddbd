import DiagnosticAdapter.Uds.TransferIntegrity
import DiagnosticAdapter.Uds.TransferOwnership

/-!
# One flash transfer per ECU

Under `guarded` the map and the tasks agree in every reachable state, so no ECU has
two tasks, a task writes its own meta data only, and an exit that has removed a
transfer succeeds.
-/

namespace DiagnosticAdapter.Uds

open Codec Effects

variable {state next : FlashState}

/-- No ECU has two unfinished tasks. -/
def OneTask (state : FlashState) : Prop :=
  ∀ first second firstTask secondTask, state.tasks first = some firstTask →
    state.tasks second = some secondTask → firstTask.isOver = false → secondTask.isOver = false →
    firstTask.ecuName = secondTask.ecuName → first = second

/-- The transfers as an exit found them when it got the lock. -/
def FlashState.foundBy (state : FlashState) (call : Nat) : FlashTransfers :=
  match (state.calls call).exit with
  | some exit => exit.found
  | none => state.transfers

structure Orderly (state : FlashState) (event : FlashEvent) (next : FlashState) : Prop where
  /-- A task updates the meta data it was started for. -/
  ownMetaData : ∀ call block task, event = .task call block → state.tasks call = some task →
    ∀ ecuName, next.transfers ecuName ≠ state.transfers ecuName →
      ∃ transfer, state.transfers ecuName = some transfer ∧ transfer.task = call ∧
        transfer.metaData.id = task.transferId
  /-- A start that returns `Ok` finds no entry. -/
  replacesNone : ∀ call environment ecuName parameters, event = .insert call environment →
    state.calls call = .starting ecuName parameters →
    next.calls call = .startReturned (.ok ()) → state.transfers ecuName = none
  /-- Only the exit that is given its id removes an entry. -/
  removesOwn : ∀ ecuName transfer, state.transfers ecuName = some transfer →
    next.transfers ecuName = none → event = .exit ecuName transfer.metaData.id
  /-- An exit that returns an error leaves the map as it found it. -/
  errorKeeps : ∀ call e, next.calls call = .exitReturned (.error e) →
    state.calls call = .exitReturned (.error e) ∨ next.transfers = state.foundBy call

theorem Owned.oneTask (owned : Owned state) : OneTask state := by
  intro first second firstTask secondTask firstPresent secondPresent firstRuns secondRuns same
  rcases owned.running first firstTask firstPresent firstRuns with
    ⟨transfer, found, mine⟩ | ⟨holder, exit, exiting, name, mine⟩
  · rcases owned.running second secondTask secondPresent secondRuns with
      ⟨other, otherFound, otherMine⟩ | ⟨holder, exit, exiting, name, -⟩
    · rw [← same, found] at otherFound
      cases otherFound
      exact mine.symm.trans otherMine
    · have absent := (owned.exit holder exit exiting).2.1
      rw [name, ← same, found] at absent
      cases absent
  · obtain ⟨locked, absent, -⟩ := owned.exit holder exit exiting
    rcases owned.running second secondTask secondPresent secondRuns with
      ⟨other, otherFound, -⟩ | ⟨otherHolder, otherExit, otherExiting, -, otherMine⟩
    · rw [← same, ← name, absent] at otherFound
      cases otherFound
    · obtain ⟨otherLocked, -⟩ := owned.exit otherHolder otherExit otherExiting
      rw [locked] at otherLocked
      cases otherLocked
      rw [exiting] at otherExiting
      cases otherExiting
      exact mine.symm.trans otherMine

theorem Orderly.of_kept {event : FlashEvent} (kept : next.transfers = state.transfers)
    (insert : ∀ call environment, event = .insert call environment →
      next.calls call ≠ .startReturned (.ok ()))
    (returned : ∀ call e, next.calls call = .exitReturned (.error e) →
      state.calls call = .exitReturned (.error e) ∨ (state.calls call).exit = none) :
    Orderly state event next := by
  constructor
  · intro call block task _ _ ecuName changed
    exact absurd (congrFun kept ecuName) changed
  · intro call environment ecuName parameters isInsert _ succeeded
    exact absurd succeeded (insert call environment isInsert)
  · intro ecuName transfer present removed
    rw [kept, present] at removed
    cases removed
  · intro call e failed
    rcases returned call e failed with before | notExiting
    · exact .inl before
    · right
      rw [kept, FlashState.foundBy, notExiting]

theorem exitReturned_of_enter {call other : Nat} {phase : FlashCall} {e : DiagServiceError}
    (succeeds : phase ≠ .exitReturned (.error e))
    (returned : (state.enter call phase).calls other = .exitReturned (.error e)) :
    state.calls other = .exitReturned (.error e) := by
  by_cases same : other = call
  · exact absurd (by simpa [FlashState.enter, same] using returned) succeeds
  · simpa [FlashState.enter, same] using returned

theorem Owned.orderly (owned : Owned state) {event : FlashEvent}
    (guarded : state.guarded event = true) (taken : FlashStep state event next) :
    Orderly state event next := by
  have fresh : (state.calls state.issued).exit = none :=
    congrArg FlashCall.exit (owned.unissued state.issued (Nat.le_refl _)).1
  cases taken with
  | startRefused | startChecked absent | signalled awaiting present isSignalled
  | joined awaiting present finished =>
    refine Orderly.of_kept rfl (by simp) ?_
    intro call e returned
    exact .inl (exitReturned_of_enter (by simp) returned)
  | insertRefused starting =>
    refine Orderly.of_kept rfl ?_ ?_
    · intro call environment same
      cases same
      simp [FlashState.enter]
    · intro call e returned
      exact .inl (exitReturned_of_enter (by simp) returned)
  | @inserted call environment ecuName parameters reader starting opened idle free =>
    have absent : state.transfers ecuName = none := by
      simpa [FlashState.guarded, starting, opened, idle, Except.toOption] using guarded
    constructor
    · intro call block task isTask
      cases isTask
    · intro other otherEnvironment otherName otherParameters same otherStarting _
      cases same
      rw [starting] at otherStarting
      cases otherStarting
      exact absent
    · intro other transfer present removed
      by_cases same : other = ecuName
      · rw [same, absent] at present
        cases present
      · simp [FlashState.enter, FlashState.spawn, same, present] at removed
    · intro other e returned
      exact .inl (exitReturned_of_enter (by simp) returned)
  | exitRefused =>
    refine Orderly.of_kept rfl (by simp) ?_
    intro call e returned
    by_cases same : call = state.issued
    · exact .inr (same ▸ fresh)
    · left
      simpa [FlashState.arrive, FlashState.enter, same] using returned
  | @exitRemoved ecuName id transfer free present ended =>
    have own : transfer.metaData.id = id := by
      simpa [FlashState.guarded, present, ended] using guarded
    constructor
    · intro call block task isTask
      cases isTask
    · intro call environment otherName parameters isInsert
      cases isInsert
    · intro other removed found gone
      by_cases same : other = ecuName
      · subst same
        rw [present] at found
        cases found
        rw [own]
      · simp [FlashState.arrive, FlashState.enter, FlashState.remove, same, found] at gone
    · intro other e returned
      exact .inl (exitReturned_of_enter (by simp) returned)
  | unsignalled awaiting present notSignalled ended =>
    obtain ⟨-, -, task, found, -, ended⟩ :=
      owned.exit _ _ (congrArg FlashCall.exit awaiting)
    rw [present] at found
    cases found
    rcases ended with signalling | ⟨-, signalled⟩
    · simp [Task.isOver, signalling] at ended
    · rw [notSignalled] at signalled
      cases signalled
  | panicked awaiting present panicked =>
    obtain ⟨-, -, task, found, -, ended⟩ :=
      owned.exit _ _ (congrArg FlashCall.exit awaiting)
    rw [present] at found
    cases found
    rcases ended with signalling | ⟨finished, -⟩
    · rw [panicked] at signalling
      cases signalling
    · rw [panicked] at finished
      cases finished
  | @task call block task resumed update present free equation =>
    rcases taskStep_transfers owned present free (Task.resumes equation) with
      same | ⟨transfer, found, mine, id, changed⟩
    · refine Orderly.of_kept same (by simp) ?_
      intro call e returned
      exact .inl returned
    · constructor
      · intro other otherBlock otherTask sameEvent otherPresent ecuName differs
        cases sameEvent
        rw [present] at otherPresent
        cases otherPresent
        have name : ecuName = task.ecuName := by
          by_contra ne
          exact differs (by rw [changed, Function.update_of_ne ne])
        exact ⟨transfer, name ▸ found, mine, id⟩
      · intro call environment ecuName parameters isInsert
        cases isInsert
      · intro ecuName entry entryPresent removed
        rw [changed] at removed
        by_cases same : ecuName = task.ecuName
        · simp [same] at removed
        · rw [Function.update_of_ne same, entryPresent] at removed
          cases removed
      · intro call e returned
        exact .inl returned

def GuardedStep (state : FlashState) (event : FlashEvent) (next : FlashState) : Prop :=
  state.step event = some next ∧ state.guarded event = true

theorem owned_of_run {events : List FlashEvent}
    (run : Run GuardedStep .initial events state) : Owned state := by
  apply run.keeps (fun _ state => Owned state) owned_initial
  intro events event state next owned ⟨taken, guarded⟩
  exact owned.step guarded (.of_step taken)

theorem oneTask_and_orderly_of_run {events : List FlashEvent}
    (run : Run GuardedStep .initial events state) :
    OneTask state ∧ ∀ event next, GuardedStep state event next → Orderly state event next := by
  have owned := owned_of_run run
  refine ⟨owned.oneTask, ?_⟩
  intro event next ⟨taken, guarded⟩
  exact owned.orderly guarded (.of_step taken)

def oneByte : FlashTransferRequest := ⟨1, 1, 0, 1, "file"⟩

def answered : BlockEnvironment := ⟨.ok (), .ok .positive⟩

/-- A transfer from its start to its exit, and the start of the next. -/
def transferAfterTransfer : List FlashEvent :=
  [.start "ecu" oneByte "first" "a", .insert 0 (readyFor [10, 20]), .task 0 answered,
    .start "ecu" oneByte "refused" "a", .task 0 answered, .exit "ecu" "first",
    .exitResumed 2 "", .exitResumed 2 "", .start "ecu" oneByte "second" "b",
    .insert 3 (readyFor [10, 20])]

theorem oneTask_and_orderly_of_transferAfterTransfer :
    ∃ state, Run GuardedStep .initial transferAfterTransfer state ∧
      (state.transfers "ecu").map (·.metaData.id) = some "second" ∧
      OneTask state ∧ ∀ event next, GuardedStep state event next → Orderly state event next := by
  have run : ∃ state, Run GuardedStep .initial transferAfterTransfer state ∧
      (state.transfers "ecu").map (·.metaData.id) = some "second" :=
    ⟨_, Run.of_guarded_foldlM rfl, rfl⟩
  obtain ⟨state, guardedRun, second⟩ := run
  exact ⟨state, guardedRun, second, oneTask_and_orderly_of_run guardedRun⟩

/-- Both starts pass their check before the first one inserts. -/
def twoStarts : List FlashEvent :=
  [.start "ecu" oneByte "first" "a", .start "ecu" oneByte "second" "b",
    .insert 0 (readyFor [10, 20]), .insert 1 (readyFor [10, 20])]

def finishedTransfer : List FlashEvent :=
  [.start "ecu" oneByte "first" "a", .insert 0 (readyFor [10, 20]), .task 0 answered,
    .task 0 answered]

/-- Two overlapping starts leave two tasks, and an exit removes a transfer whose id it
was not given. -/
theorem two_tasks_and_foreign_exit :
    (¬ ∀ events state, Run (fun state event next => state.step event = some next)
        .initial events state → OneTask state) ∧
    ¬ ∀ events state event next,
      Run (fun state event next => state.step event = some next) .initial events state →
        state.step event = some next → Orderly state event next := by
  constructor
  · intro oneTask
    have run : ∃ (state : FlashState) (first second : Task),
        Run (fun state event next => state.step event = some next) .initial twoStarts state ∧
        state.tasks 0 = some first ∧ state.tasks 1 = some second ∧ first.isOver = false ∧
        second.isOver = false ∧ first.ecuName = second.ecuName :=
      ⟨_, _, _, Run.of_foldlM rfl, rfl, rfl, rfl, rfl, rfl⟩
    obtain ⟨state, first, second, run, firstPresent, secondPresent, rest⟩ := run
    have same :=
      oneTask _ _ run 0 1 first second firstPresent secondPresent rest.1 rest.2.1 rest.2.2
    cases same
  · intro orderly
    have run : ∃ (state next : FlashState) (transfer : FlashTransfer),
        Run (fun state event next => state.step event = some next) .initial finishedTransfer state ∧
        state.step (.exit "ecu" "other") = some next ∧
        state.transfers "ecu" = some transfer ∧ next.transfers "ecu" = none ∧
        transfer.metaData.id = "first" :=
      ⟨_, _, _, Run.of_foldlM rfl, rfl, rfl, rfl, rfl⟩
    obtain ⟨state, next, transfer, run, taken, present, removed, id⟩ := run
    have own := (orderly _ _ _ _ run taken).removesOwn "ecu" transfer present removed
    rw [id] at own
    exact absurd own (by simp)

end DiagnosticAdapter.Uds
