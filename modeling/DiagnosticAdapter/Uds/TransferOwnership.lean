import DiagnosticAdapter.Uds.FlashTransfers

/-!
# Transfers and their tasks

Every entry of the transfers belongs to one task, and every unfinished task to one
entry: that of its ECU, or one that an exit has taken out and waits for.
-/

namespace DiagnosticAdapter.Uds

open Codec Effects Function

variable {state next : FlashState}

inductive FlashStep (state : FlashState) : FlashEvent → FlashState → Prop where
  | startRefused {ecuName request id filePath e} :
      FlashStep state (.start ecuName request id filePath)
        (state.arrive (.startReturned (.error e)))
  | startChecked {ecuName request id filePath} :
      state.transfers ecuName = none →
      FlashStep state (.start ecuName request id filePath)
        (state.arrive (.starting ecuName (request.parameters id filePath)))
  | insertRefused {call environment ecuName parameters e} :
      state.calls call = .starting ecuName parameters →
      FlashStep state (.insert call environment) (state.enter call (.startReturned (.error e)))
  | inserted {call environment ecuName parameters reader} :
      state.calls call = .starting ecuName parameters →
      openTransfer parameters environment = .ok reader →
      environment.updateInProgress = false → state.lockedBy = none →
      FlashStep state (.insert call environment)
        ((state.spawn call ecuName parameters reader).enter call (.startReturned (.ok ())))
  | exitRefused {ecuName id e} :
      FlashStep state (.exit ecuName id) (state.arrive (.exitReturned (.error e)))
  | exitRemoved {ecuName id transfer} :
      state.lockedBy = none → state.transfers ecuName = some transfer →
      transfer.metaData.status.ended = true →
      FlashStep state (.exit ecuName id) ((state.remove ecuName).arrive
        (.awaitingSignal ⟨ecuName, transfer, state.transfers⟩))
  | signalled {call error exit task} :
      state.calls call = .awaitingSignal exit →
      state.tasks exit.removed.task = some task → task.signalled = true →
      FlashStep state (.exitResumed call error) (state.enter call (.awaitingTask exit))
  | unsignalled {call error exit task e} :
      state.calls call = .awaitingSignal exit →
      state.tasks exit.removed.task = some task → task.signalled = false →
      task.isOver = true →
      FlashStep state (.exitResumed call error)
        (state.release.enter call (.exitReturned (.error e)))
  | joined {call error exit task} :
      state.calls call = .awaitingTask exit →
      state.tasks exit.removed.task = some task → task.phase = .finished →
      FlashStep state (.exitResumed call error) (state.release.enter call (.exitReturned (.ok ())))
  | panicked {call error exit task e} :
      state.calls call = .awaitingTask exit →
      state.tasks exit.removed.task = some task → task.phase = .panicked →
      FlashStep state (.exitResumed call error)
        (state.release.enter call (.exitReturned (.error e)))
  | task {call block task resumed update} :
      state.tasks call = some task →
      (task.locks = true → state.lockedBy = none) →
      task.resume block ((state.transfers task.ecuName).map (·.metaData)) = some (resumed, update) →
      FlashStep state (.task call block) (state.taskStep call resumed update)

variable {parameters : FlashTransferStartParams}

theorem absent_of_checkTransfer
    {transfer : Option DataTransferMetaData}
    (checked : checkTransfer parameters transfer = .ok ()) :
    transfer = none := by
  cases transfer with
  | none => rfl
  | some metaData =>
    unfold checkTransfer at checked
    by_cases zero : parameters.length = 0
    · rw [if_pos zero] at checked
      cases checked
    · rw [if_neg zero] at checked
      cases checked

variable {call : Nat}

theorem FlashStep.of_exitResume {error : String}
    (resumed : state.exitResume call error = some next) :
    FlashStep state (.exitResumed call error) next := by
  unfold FlashState.exitResume at resumed
  split at resumed
  case h_1 exit awaiting =>
    split at resumed
    case h_2 => cases resumed
    case h_1 task present =>
      split at resumed
      case isTrue signalled =>
        cases resumed
        exact .signalled awaiting present signalled
      case isFalse unsignalled =>
        split at resumed
        case isTrue ended =>
          cases resumed
          exact .unsignalled awaiting present (Bool.eq_false_iff.mpr unsignalled) ended
        case isFalse => cases resumed
  case h_2 exit awaiting =>
    split at resumed
    case h_2 => cases resumed
    case h_1 task present =>
      split at resumed
      case h_1 finished =>
        cases resumed
        exact .joined awaiting present finished
      case h_2 panicked =>
        cases resumed
        exact .panicked awaiting present panicked
      case h_3 => cases resumed
  case h_3 => cases resumed

theorem FlashStep.of_step {event : FlashEvent} (taken : state.step event = some next) :
    FlashStep state event next := by
  unfold FlashState.step at taken
  cases event with
  | start ecuName request id filePath =>
    simp only at taken
    split at taken
    case isTrue => cases taken
    case isFalse =>
      split at taken
      case h_1 => cases taken; exact .startRefused
      case h_2 checked =>
        cases taken
        exact .startChecked (Option.map_eq_none_iff.mp (absent_of_checkTransfer checked))
  | insert call environment =>
    simp only at taken
    split at taken
    case h_2 => cases taken
    case h_1 ecuName parameters starting =>
      split at taken
      case h_1 => cases taken; exact .insertRefused starting
      case h_2 reader opened =>
        split at taken
        case isTrue => cases taken
        case isFalse free =>
          split at taken
          case isTrue => cases taken; exact .insertRefused starting
          case isFalse idle =>
            cases taken
            exact .inserted starting opened (Bool.eq_false_iff.mpr idle)
              (Option.not_isSome_iff_eq_none.mp free)
  | exit ecuName id =>
    simp only at taken
    split at taken
    case isTrue => cases taken
    case isFalse free =>
      split at taken
      case h_1 => cases taken; exact .exitRefused
      case h_2 transfer present =>
        split at taken
        case isTrue ended =>
          cases taken
          exact .exitRemoved (Option.not_isSome_iff_eq_none.mp free) present ended
        case isFalse => cases taken; exact .exitRefused
  | exitResumed call error => exact .of_exitResume taken
  | task call block =>
    simp only at taken
    split at taken
    case h_2 => cases taken
    case h_1 task present =>
      split at taken
      case isTrue => cases taken
      case isFalse free =>
        split at taken
        case h_1 resumed update equation =>
          cases taken
          refine .task present ?_ equation
          intro locks
          simpa [locks] using free
        case h_2 => cases taken

/-- The task has nothing left to do but to signal its end, or has done so. -/
def Task.Ended (task : Task) : Prop :=
  task.phase = .signalling ∨ task.phase = .finished ∧ task.signalled = true

/-- What a step of a task says about it and about the meta data of its ECU. -/
structure Task.Resumes (task next : Task) (transfer : Option DataTransferMetaData)
    (update : DataTransferMetaData → DataTransferMetaData) : Prop where
  running : task.isOver = false
  ecuName : next.ecuName = task.ecuName
  transferId : next.transferId = task.transferId
  id : ∀ metaData, (update metaData).id = metaData.id
  unlocked : task.locks = false → ∀ metaData, update metaData = metaData
  ended : task.Ended → next.Ended
  status : ∀ metaData, transfer = some metaData → (metaData.status.ended = true → task.Ended) →
    (update metaData).status.ended = true → next.Ended

variable {update : DataTransferMetaData → DataTransferMetaData}

theorem Task.resumes {task next : Task} {block : BlockEnvironment}
    {transfer : Option DataTransferMetaData}
    (resumed : task.resume block transfer = some (next, update)) :
    task.Resumes next transfer update := by
  unfold Task.resume at resumed
  cases phase : task.phase with
  | spawned length reader =>
    have notEnded : ¬ task.Ended := by simp [Task.Ended, phase]
    have locks : task.locks = true := by simp [Task.locks, phase]
    have running : task.isOver = false := by simp [Task.isOver, phase]
    rw [phase] at resumed
    cases transfer with
    | none =>
      cases resumed
      exact ⟨running, rfl, rfl, fun _ => rfl, fun _ _ => rfl,
        fun ended => absurd ended notEnded, by simp⟩
    | some metaData =>
      have started (next : Task) (ecuName : next.ecuName = task.ecuName)
          (transferId : next.transferId = task.transferId) :
          task.Resumes next (some metaData) .started := by
        refine ⟨running, ecuName, transferId, fun _ => rfl, ?_,
          fun ended => absurd ended notEnded, ?_⟩
        · simp [locks]
        · simp [DataTransferMetaData.started, DataTransferStatus.ended]
      simp only at resumed
      split at resumed <;> cases resumed
      · exact started _ rfl rfl
      · exact started _ rfl rfl
  | sending sending =>
    have notEnded : ¬ task.Ended := by simp [Task.Ended, phase]
    have locks : task.locks = true := by simp [Task.locks, phase]
    have running : task.isOver = false := by simp [Task.isOver, phase]
    rw [phase] at resumed
    cases sent : sendBlock block sending with
    | error reason =>
      simp only [sent] at resumed
      cases resumed
      exact ⟨running, rfl, rfl, fun _ => rfl, by simp [locks],
        fun ended => absurd ended notEnded, fun _ _ _ _ => .inl rfl⟩
    | ok answered =>
      simp only [sent] at resumed
      cases transfer with
      | none =>
        cases resumed
        exact ⟨running, rfl, rfl, fun _ => rfl, fun _ _ => rfl,
          fun ended => absurd ended notEnded, by simp⟩
      | some metaData =>
        cases resumed
        refine ⟨running, rfl, rfl, DataTransferMetaData.acknowledged_id _ _ _,
          by simp [locks], fun ended => absurd ended notEnded, ?_⟩
        intro found present unended ended
        by_cases last : sending.remainingBytes - answered.1 = 0
        · right
          simp [Task.loop, last]
        · rw [DataTransferMetaData.acknowledged, if_neg last] at ended
          exact absurd (unended ended) notEnded
  | signalling =>
    rw [phase] at resumed
    cases resumed
    exact ⟨by simp [Task.isOver, phase], rfl, rfl, fun _ => rfl, fun _ _ => rfl,
      fun _ => .inr ⟨rfl, rfl⟩, fun _ _ _ _ => .inr ⟨rfl, rfl⟩⟩
  | finished | panicked => simp [phase] at resumed

def FlashCall.exit : FlashCall → Option Exit
  | .awaitingSignal exit | .awaitingTask exit => some exit
  | _ => none

def FlashCall.start : FlashCall → Option FlashTransferStartParams
  | .starting _ parameters => some parameters
  | _ => none

structure Owned (state : FlashState) : Prop where
  unissued : ∀ call, state.issued ≤ call → state.calls call = .absent ∧ state.tasks call = none
  starting : ∀ call parameters, (state.calls call).start = some parameters →
    state.tasks call = none ∧ parameters.transferMetaData.status = .queued
  entry : ∀ ecuName transfer, state.transfers ecuName = some transfer →
    ∃ task, state.tasks transfer.task = some task ∧ task.ecuName = ecuName ∧
      task.transferId = transfer.metaData.id ∧
      (transfer.metaData.status.ended = true → task.Ended)
  exit : ∀ call exit, (state.calls call).exit = some exit →
    state.lockedBy = some call ∧ state.transfers exit.ecuName = none ∧
      ∃ task, state.tasks exit.removed.task = some task ∧ task.ecuName = exit.ecuName ∧ task.Ended
  running : ∀ call task, state.tasks call = some task → task.isOver = false →
    (∃ transfer, state.transfers task.ecuName = some transfer ∧ transfer.task = call) ∨
      ∃ holder exit, (state.calls holder).exit = some exit ∧ exit.ecuName = task.ecuName ∧
        exit.removed.task = call

theorem owned_initial : Owned .initial := by
  constructor
  · intro call _
    exact ⟨rfl, rfl⟩
  · intro call parameters starting
    cases starting
  · intro ecuName transfer present
    cases present
  · intro call exit exiting
    cases exiting
  · intro call task present
    cases present

section

variable (owned : Owned state)

include owned

theorem Owned.enter {phase : FlashCall} (issued : call < state.issued)
    (exit : phase.exit = (state.calls call).exit)
    (start : ∀ parameters, phase.start = some parameters → state.tasks call = none ∧
      parameters.transferMetaData.status = .queued) :
    Owned (state.enter call phase) := by
  have exits : ∀ other, ((state.enter call phase).calls other).exit =
      (state.calls other).exit := by
    intro other
    by_cases same : other = call
    · subst same
      simp [FlashState.enter, exit]
    · simp [FlashState.enter, same]
  constructor
  · intro other unissued
    have ne : other ≠ call := by
      have : state.issued ≤ other := unissued
      omega
    simpa [FlashState.enter, ne] using owned.unissued other unissued
  · intro other parameters starting
    by_cases same : other = call
    · subst same
      simp only [FlashState.enter, update_self] at starting
      exact start parameters starting
    · simp only [FlashState.enter, update_of_ne same] at starting
      exact owned.starting other parameters starting
  · exact owned.entry
  · intro other held exiting
    rw [exits] at exiting
    exact owned.exit other held exiting
  · intro other task present running
    rcases owned.running other task present running with registered | ⟨holder, held, exiting, rest⟩
    · exact .inl registered
    · exact .inr ⟨holder, held, (exits holder).trans exiting, rest⟩

theorem Owned.arrive {phase : FlashCall} (exit : phase.exit = none)
    (start : ∀ parameters, phase.start = some parameters → parameters.transferMetaData.status = .queued) :
    Owned (state.arrive phase) := by
  have absent := owned.unissued state.issued (Nat.le_refl _)
  have counted : Owned { state with issued := state.issued + 1 } :=
    ⟨fun call unissued => owned.unissued call (by have : state.issued + 1 ≤ call := unissued; omega),
      owned.starting, owned.entry, owned.exit, owned.running⟩
  apply counted.enter (Nat.lt_succ_self _)
  · rw [exit]
    exact (congrArg FlashCall.exit absent.1).symm
  · intro parameters starting
    exact ⟨absent.2, start parameters starting⟩

theorem Owned.not_exiting (free : state.lockedBy = none) (call : Nat) :
    (state.calls call).exit = none := by
  rw [Option.eq_none_iff_forall_not_mem]
  intro exit exiting
  have locked := (owned.exit call exit exiting).1
  rw [free] at locked
  cases locked

theorem Owned.issued_of_start (start : (state.calls call).start = some parameters) :
    call < state.issued := by
  by_contra unissued
  rw [(owned.unissued call (Nat.not_lt.mp unissued)).1] at start
  cases start

theorem Owned.issued_of_exit {exit : Exit} (exiting : (state.calls call).exit = some exit) :
    call < state.issued := by
  by_contra unissued
  rw [(owned.unissued call (Nat.not_lt.mp unissued)).1] at exiting
  cases exiting

theorem Owned.issued_of_task {task : Task} (present : state.tasks call = some task) :
    call < state.issued := by
  by_contra unissued
  rw [(owned.unissued call (Nat.not_lt.mp unissued)).2] at present
  cases present

theorem Owned.spawn {ecuName : String} {reader : List UInt8}
    (starting : state.calls call = .starting ecuName parameters) (free : state.lockedBy = none)
    (absent : state.transfers ecuName = none) :
    Owned ((state.spawn call ecuName parameters reader).enter call (.startReturned (.ok ()))) := by
  have start : (state.calls call).start = some parameters := by rw [starting, FlashCall.start]
  have issued := owned.issued_of_start start
  obtain ⟨noTask, queued⟩ := owned.starting call parameters start
  constructor
  · intro other unissued
    have ne : other ≠ call := by
      have : state.issued ≤ other := unissued
      omega
    simpa [FlashState.enter, FlashState.spawn, ne] using owned.unissued other unissued
  · intro other found start
    have ne : other ≠ call := by
      intro same
      simp [same, FlashState.enter, FlashCall.start] at start
    simp only [FlashState.enter, FlashState.spawn, update_of_ne ne] at start ⊢
    exact owned.starting other found start
  · intro other transfer present
    simp only [FlashState.enter, FlashState.spawn] at present ⊢
    by_cases same : other = ecuName
    · subst same
      rw [update_self] at present
      cases present
      refine ⟨_, update_self .., rfl, rfl, ?_⟩
      intro ended
      simp [queued, DataTransferStatus.ended] at ended
    · rw [update_of_ne same] at present
      obtain ⟨task, found, rest⟩ := owned.entry other transfer present
      have ne : transfer.task ≠ call := by
        intro same
        rw [same, noTask] at found
        cases found
      exact ⟨task, by rwa [update_of_ne ne], rest⟩
  · intro other exit exiting
    have ne : other ≠ call := by
      intro same
      simp [same, FlashState.enter, FlashCall.exit] at exiting
    simp only [FlashState.enter, FlashState.spawn, update_of_ne ne] at exiting
    rw [owned.not_exiting free other] at exiting
    cases exiting
  · intro other task present running
    simp only [FlashState.enter, FlashState.spawn] at present ⊢
    by_cases same : other = call
    · subst same
      rw [update_self] at present
      cases present
      exact .inl ⟨_, update_self .., rfl⟩
    · rw [update_of_ne same] at present
      rcases owned.running other task present running with
        ⟨transfer, found, mine⟩ | ⟨holder, exit, exiting, -⟩
      · left
        have ne : task.ecuName ≠ ecuName := by
          intro equal
          rw [equal, absent] at found
          cases found
        exact ⟨transfer, by rwa [update_of_ne ne], mine⟩
      · rw [owned.not_exiting free holder] at exiting
        cases exiting

theorem Owned.remove {ecuName : String} {transfer : FlashTransfer} (free : state.lockedBy = none)
    (present : state.transfers ecuName = some transfer)
    (ended : transfer.metaData.status.ended = true) :
    Owned ((state.remove ecuName).arrive
      (.awaitingSignal ⟨ecuName, transfer, state.transfers⟩)) := by
  obtain ⟨task, found, name, -, taskEnded⟩ := owned.entry ecuName transfer present
  have absent := owned.unissued state.issued (Nat.le_refl _)
  constructor
  · intro other unissued
    have later : state.issued + 1 ≤ other := unissued
    have ne : other ≠ state.issued := by omega
    simpa [FlashState.arrive, FlashState.enter, FlashState.remove, ne] using
      owned.unissued other (by omega)
  · intro other parameters start
    have ne : other ≠ state.issued := by
      intro same
      simp [same, FlashState.arrive, FlashState.enter, FlashState.remove, FlashCall.start] at start
    simp only [FlashState.arrive, FlashState.enter, FlashState.remove,
      update_of_ne ne] at start
    exact owned.starting other parameters start
  · intro other entry present
    simp only [FlashState.arrive, FlashState.enter, FlashState.remove] at present
    by_cases same : other = ecuName
    · simp [same] at present
    · rw [update_of_ne same] at present
      exact owned.entry other entry present
  · intro other exit exiting
    by_cases same : other = state.issued
    · subst same
      simp only [FlashState.arrive, FlashState.enter, FlashState.remove, update_self,
        FlashCall.exit, Option.some.injEq] at exiting
      subst exiting
      refine ⟨rfl, update_self .., task, found, name, taskEnded ended⟩
    · simp only [FlashState.arrive, FlashState.enter, FlashState.remove,
        update_of_ne same] at exiting
      rw [owned.not_exiting free other] at exiting
      cases exiting
  · intro other running found' notOver
    rcases owned.running other running found' notOver with
      ⟨entry, registered, mine⟩ | ⟨holder, exit, exiting, -⟩
    · by_cases same : running.ecuName = ecuName
      · right
        rw [same, present] at registered
        cases registered
        exact ⟨state.issued, ⟨ecuName, transfer, state.transfers⟩,
          by simp [FlashState.arrive, FlashState.enter, FlashState.remove, FlashCall.exit],
          same.symm, mine⟩
      · left
        exact ⟨entry, by simpa [FlashState.arrive, FlashState.enter, FlashState.remove, same]
          using registered, mine⟩
    · rw [owned.not_exiting free holder] at exiting
      cases exiting

theorem Owned.release {exit : Exit} {task : Task} {result : Except DiagServiceError Unit}
    (exiting : (state.calls call).exit = some exit)
    (present : state.tasks exit.removed.task = some task) (ended : task.isOver = true) :
    Owned (state.release.enter call (.exitReturned result)) := by
  have issued := owned.issued_of_exit exiting
  have locked := (owned.exit call exit exiting).1
  have onlyExit : ∀ other held, (state.calls other).exit = some held → other = call := by
    intro other held otherExiting
    exact Option.some.inj ((owned.exit other held otherExiting).1.symm.trans locked)
  constructor
  · intro other unissued
    have ne : other ≠ call := by
      have : state.issued ≤ other := unissued
      omega
    simpa [FlashState.release, FlashState.enter, ne] using owned.unissued other unissued
  · intro other parameters start
    have ne : other ≠ call := by
      intro same
      simp [same, FlashState.enter, FlashCall.start] at start
    simp only [FlashState.enter, FlashState.release, update_of_ne ne] at start
    exact owned.starting other parameters start
  · exact owned.entry
  · intro other held otherExiting
    have ne : other ≠ call := by
      intro same
      simp [same, FlashState.enter, FlashCall.exit] at otherExiting
    simp only [FlashState.enter, FlashState.release, update_of_ne ne] at otherExiting
    exact absurd (onlyExit other held otherExiting) ne
  · intro other running found notOver
    change state.tasks other = some running at found
    rcases owned.running other running found notOver with
      registered | ⟨holder, held, holding, name, mine⟩
    · exact .inl registered
    · have same := onlyExit holder held holding
      subst same
      rw [exiting] at holding
      cases holding
      rw [mine, found] at present
      cases present
      rw [ended] at notOver
      cases notOver

theorem Owned.own_entry {task : Task} (present : state.tasks call = some task)
    (locks : task.locks = true) (free : state.lockedBy = none) :
    ∃ transfer, state.transfers task.ecuName = some transfer ∧ transfer.task = call ∧
      transfer.metaData.id = task.transferId := by
  have running : task.isOver = false := by
    unfold Task.locks at locks
    unfold Task.isOver
    split <;> simp_all
  rcases owned.running call task present running with
    ⟨transfer, found, mine⟩ | ⟨holder, exit, exiting, -⟩
  · obtain ⟨other, same, -, id, -⟩ := owned.entry _ transfer found
    rw [mine, present] at same
    cases same
    exact ⟨transfer, found, mine, id.symm⟩
  · rw [owned.not_exiting free holder] at exiting
    cases exiting

end

section

variable {task resumed : Task} (owned : Owned state) (present : state.tasks call = some task)
  (free : task.locks = true → state.lockedBy = none)
  (resumes : task.Resumes resumed ((state.transfers task.ecuName).map (·.metaData)) update)

include owned present free resumes

theorem taskStep_transfers : (state.taskStep call resumed update).transfers = state.transfers ∨
      ∃ transfer, state.transfers task.ecuName = some transfer ∧ transfer.task = call ∧
        transfer.metaData.id = task.transferId ∧
        (state.taskStep call resumed update).transfers = Function.update state.transfers
          task.ecuName (some { transfer with metaData := update transfer.metaData }) := by
  cases locks : task.locks with
  | false =>
    left
    have same : update = id := funext (resumes.unlocked locks)
    simp [FlashState.taskStep, same, resumes.ecuName]
  | true =>
    right
    obtain ⟨transfer, found, mine, id⟩ := owned.own_entry present locks (free locks)
    refine ⟨transfer, found, mine, id, ?_⟩
    simp [FlashState.taskStep, resumes.ecuName, found]

theorem Owned.taskStep : Owned (state.taskStep call resumed update) := by
  have transfers := taskStep_transfers owned present free resumes
  -- every entry that was there before is there with the same task and id
  have kept : ∀ ecuName transfer, state.transfers ecuName = some transfer →
      ∃ metaData, (state.taskStep call resumed update).transfers ecuName =
        some { transfer with metaData := metaData } := by
    intro ecuName transfer found
    rcases transfers with same | ⟨own, ownFound, -, -, changed⟩
    · exact ⟨transfer.metaData, by rw [same, found]⟩
    · rw [changed]
      by_cases same : ecuName = task.ecuName
      · rw [same, ownFound] at found
        cases found
        exact ⟨update transfer.metaData, by rw [same, update_self]⟩
      · exact ⟨transfer.metaData, by rw [update_of_ne same, found]⟩
  have tasks : ∀ other found, state.tasks other = some found →
      ∃ found', (state.taskStep call resumed update).tasks other = some found' ∧
        found'.ecuName = found.ecuName ∧ found'.transferId = found.transferId ∧
        (found.Ended → found'.Ended) := by
    intro other found equation
    by_cases same : other = call
    · rw [same, present] at equation
      cases equation
      exact ⟨resumed, by rw [same]; exact update_self .., resumes.ecuName,
        resumes.transferId, resumes.ended⟩
    · exact ⟨found, (update_of_ne same ..).trans equation, rfl, rfl, id⟩
  constructor
  · intro other unissued
    have ne : other ≠ call := by
      have := owned.issued_of_task present
      have : state.issued ≤ other := unissued
      omega
    simpa [FlashState.taskStep, ne] using owned.unissued other unissued
  · intro other parameters start
    obtain ⟨noTask, queued⟩ := owned.starting other parameters start
    have ne : other ≠ call := by
      intro same
      rw [same, present] at noTask
      cases noTask
    exact ⟨(update_of_ne ne ..).trans noTask, queued⟩
  · intro ecuName transfer found
    have unchanged (found : state.transfers ecuName = some transfer) :
        ∃ task, (state.taskStep call resumed update).tasks transfer.task = some task ∧
          task.ecuName = ecuName ∧ task.transferId = transfer.metaData.id ∧
          (transfer.metaData.status.ended = true → task.Ended) := by
      obtain ⟨held, heldPresent, name, transferId, ended⟩ := owned.entry ecuName transfer found
      obtain ⟨next, nextPresent, nextName, nextId, nextEnded⟩ := tasks _ held heldPresent
      exact ⟨next, nextPresent, nextName.trans name, nextId.trans transferId,
        fun isEnded => nextEnded (ended isEnded)⟩
    rcases transfers with same | ⟨own, ownFound, mine, id, changed⟩
    · rw [same] at found
      exact unchanged found
    · rw [changed] at found
      by_cases same : ecuName = task.ecuName
      · rw [same, update_self] at found
        cases found
        obtain ⟨held, heldPresent, -, -, ended⟩ := owned.entry _ own ownFound
        rw [mine, present] at heldPresent
        cases heldPresent
        refine ⟨resumed, ?_, by rw [resumes.ecuName, same], ?_, ?_⟩
        · rw [mine]
          exact update_self ..
        · rw [resumes.transferId, resumes.id, id]
        · exact resumes.status own.metaData (by rw [ownFound, Option.map_some]) ended
      · rw [update_of_ne same] at found
        exact unchanged found
  · intro other exit exiting
    obtain ⟨locked, absent, held, heldPresent, name, ended⟩ := owned.exit other exit exiting
    obtain ⟨next, nextPresent, nextName, -, nextEnded⟩ := tasks _ held heldPresent
    refine ⟨locked, ?_, next, nextPresent, nextName.trans name, nextEnded ended⟩
    rcases transfers with same | ⟨own, ownFound, -, -, changed⟩
    · rw [same, absent]
    · have ne : exit.ecuName ≠ task.ecuName := by
        intro same
        rw [same, ownFound] at absent
        cases absent
      rw [changed, update_of_ne ne, absent]
  · intro other running found notOver
    have before : ∃ earlier, state.tasks other = some earlier ∧ earlier.isOver = false ∧
        running.ecuName = earlier.ecuName := by
      by_cases same : other = call
      · have : resumed = running := by
          simpa [same, FlashState.taskStep] using found
        exact ⟨task, by rw [same, present], resumes.running, this ▸ resumes.ecuName⟩
      · exact ⟨running, (update_of_ne same ..).symm.trans found, notOver, rfl⟩
    obtain ⟨earlier, earlierPresent, earlierRunning, name⟩ := before
    rw [name]
    rcases owned.running other earlier earlierPresent earlierRunning with
      ⟨transfer, registered, mine⟩ | exiting
    · obtain ⟨metaData, still⟩ := kept _ transfer registered
      exact .inl ⟨_, still, mine⟩
    · exact .inr exiting

end

namespace FlashState

/-- A start finds its check confirmed when it inserts, and an exit that finds an ended
transfer is given its id. -/
def guarded (state : FlashState) : FlashEvent → Bool
  | .insert call environment =>
    match state.calls call with
    | .starting ecuName parameters =>
      (openTransfer parameters environment).toOption.isNone || environment.updateInProgress ||
        (state.transfers ecuName).isNone
    | _ => true
  | .exit ecuName id =>
    match state.transfers ecuName with
    | some transfer => !transfer.metaData.status.ended || transfer.metaData.id == id
    | none => true
  | _ => true

end FlashState

theorem Owned.step (owned : Owned state) {event : FlashEvent}
    (guarded : state.guarded event = true) (taken : FlashStep state event next) :
    Owned next := by
  cases taken with
  | startRefused | exitRefused => exact owned.arrive rfl (by simp [FlashCall.start])
  | startChecked absent =>
    apply owned.arrive rfl
    intro parameters start
    cases start
    rfl
  | insertRefused starting =>
    apply owned.enter
    · exact owned.issued_of_start (congrArg FlashCall.start starting)
    · rw [starting]
      rfl
    · simp [FlashCall.start]
  | inserted starting opened idle free =>
    apply owned.spawn starting free
    simpa [FlashState.guarded, starting, opened, idle, Except.toOption] using guarded
  | exitRemoved free present ended => exact owned.remove free present ended
  | signalled awaiting present signalled =>
    have exiting := congrArg FlashCall.exit awaiting
    exact owned.enter (owned.issued_of_exit exiting) exiting.symm (by simp [FlashCall.start])
  | unsignalled awaiting present notSignalled ended =>
    exact owned.release (congrArg FlashCall.exit awaiting) present ended
  | joined awaiting present ended | panicked awaiting present ended =>
    exact owned.release (congrArg FlashCall.exit awaiting) present (by simp [Task.isOver, ended])
  | task present free resumed => exact owned.taskStep present free (Task.resumes resumed)

end DiagnosticAdapter.Uds
