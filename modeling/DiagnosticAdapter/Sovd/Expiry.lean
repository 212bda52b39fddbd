import DiagnosticAdapter.Sovd.Frame

/-!
# Every lock expires

A held lock has one deletion task that can still delete it.  `update_lock` aborts the
task before it knows whether it can schedule another one.
-/

namespace DiagnosticAdapter.Sovd

open Effects Function

variable {ecuFunctionalGroups : String → Except ApiError (List String)}

namespace State

def taskOf (state : State) (pid : Pid) : Option DeletionTask :=
  (state.processes pid).phase.task?

/-- The lock is held, or a POST is about to insert it. -/
def Has (state : State) (entity : Entity) (lock : Lock) : Prop :=
  state.locks.lockAt entity = some lock ∨
    ∃ pid, (state.processes pid).phase.inHand? = some (entity, lock)

theorem taskOf_enter (pid other : Pid) (phase : Phase) (state : State) :
    (state.enter pid phase).taskOf other =
      if other = pid then phase.task? else state.taskOf other := by
  rw [taskOf, enter_processes, update_apply]
  split <;> rfl

theorem taskOf_spawn (phase : Phase) (state : State) (other : Pid) :
    (state.spawn phase).taskOf other =
      if other = state.spawned then phase.task? else state.taskOf other := by
  rw [taskOf, spawn_processes, update_apply]
  split <;> rfl

theorem taskOf_abort (pid : Pid) (state : State) (other : Pid) :
    (state.abort pid).taskOf other = if other = pid then none else state.taskOf other := by
  unfold abort
  split
  case h_1 response finished =>
    split
    case isTrue same =>
      rw [taskOf, same, finished]
      rfl
    case isFalse => rfl
  case h_2 =>
    rw [taskOf]
    simp only [update_apply]
    split <;> rfl

end State

structure DeletionTask.For (task : DeletionTask) (entity : Entity) (lock : Lock) : Prop where
  entity : task.entity = entity
  lockId : task.lockId = lock.id
  expiration : task.expiration = lock.expiration

/-- Every lock has its task, and no other task is after it. -/
structure Timed (state : State) : Prop where
  live : ∀ entity lock, state.Has entity lock →
    ∃ task, state.taskOf lock.deletionTask = some task ∧ task.For entity lock
  unique : ∀ pid other task otherTask, state.taskOf pid = some task →
    state.taskOf other = some otherTask → task.lockId = otherTask.lockId → pid = other
  issued : ∀ pid task, state.taskOf pid = some task → task.lockId ∈ state.issued

namespace Timed

variable {before after : State}

theorem shrink (timed : Timed before)
    (has : ∀ entity lock, after.Has entity lock → before.Has entity lock)
    (tasks : ∀ pid task, after.taskOf pid = some task → before.taskOf pid = some task)
    (kept : ∀ entity lock, after.Has entity lock →
      after.taskOf lock.deletionTask = before.taskOf lock.deletionTask)
    (issued : before.issued ⊆ after.issued) : Timed after where
  live := by
    intro entity lock held
    rw [kept entity lock held]
    exact timed.live entity lock (has entity lock held)
  unique := by
    intro pid other task otherTask isTask isOther
    exact timed.unique pid other task otherTask (tasks pid task isTask)
      (tasks other otherTask isOther)
  issued := by
    intro pid task isTask
    exact issued (timed.issued pid task (tasks pid task isTask))

theorem retire (timed : Timed before) {gone : Pid} {task : DeletionTask}
    (was : before.taskOf gone = some task)
    (has : ∀ entity lock, after.Has entity lock → before.Has entity lock)
    (noneLeft : ∀ lock, after.Has task.entity lock → lock.id ≠ task.lockId)
    (tasks : ∀ pid, after.taskOf pid = if pid = gone then none else before.taskOf pid)
    (issued : before.issued ⊆ after.issued) : Timed after := by
  apply timed.shrink has _ _ issued
  · intro pid found isTask
    rw [tasks] at isTask
    split at isTask
    · cases isTask
    · exact isTask
  · intro entity lock held
    rw [tasks, if_neg]
    intro same
    obtain ⟨found, isTask, isFor⟩ := timed.live entity lock (has entity lock held)
    rw [same, was] at isTask
    cases isTask
    obtain rfl := isFor.entity
    exact noneLeft lock held isFor.lockId.symm

theorem grow (timed : Timed before) {entity : Entity} {lock : Lock} {task : DeletionTask}
    (isFor : task.For entity lock)
    (has : ∀ other found, after.Has other found →
      before.Has other found ∨ other = entity ∧ found = lock)
    (tasks : ∀ pid, after.taskOf pid =
      if pid = lock.deletionTask then some task else before.taskOf pid)
    (free : before.taskOf lock.deletionTask = none)
    (fresh : ∀ pid found, before.taskOf pid = some found → found.lockId ≠ task.lockId)
    (issued : ∀ id, id = task.lockId ∨ id ∈ before.issued → id ∈ after.issued) :
    Timed after where
  live := by
    intro other found held
    rcases has other found held with earlier | ⟨rfl, rfl⟩
    · obtain ⟨otherTask, isTask, otherFor⟩ := timed.live other found earlier
      refine ⟨otherTask, ?_, otherFor⟩
      rw [tasks, if_neg]
      · exact isTask
      · intro same
        rw [same, free] at isTask
        cases isTask
    · refine ⟨task, ?_, isFor⟩
      rw [tasks, if_pos rfl]
  unique := by
    intro pid other found otherFound isTask isOther sameId
    rw [tasks] at isTask isOther
    split at isTask
    case isTrue new =>
      cases isTask
      split at isOther
      case isTrue otherNew => rw [new, otherNew]
      case isFalse => exact absurd sameId.symm (fresh other otherFound isOther)
    case isFalse =>
      split at isOther
      case isTrue =>
        cases isOther
        exact absurd sameId (fresh pid found isTask)
      case isFalse => exact timed.unique pid other found otherFound isTask isOther sameId
  issued := by
    intro pid found isTask
    rw [tasks] at isTask
    split at isTask
    case isTrue =>
      cases isTask
      exact issued _ (.inl rfl)
    case isFalse => exact issued _ (.inr (timed.issued pid found isTask))

end Timed

theorem State.has_resume {state : State} {pid : Pid} {action : Action} {next : Phase}
    {entity : Entity} {lock : Lock}
    (has : ((state.apply action).enter pid next).Has entity lock) :
    (state.apply action).locks.lockAt entity = some lock ∨ next.inHand? = some (entity, lock) ∨
      ∃ other, other ≠ pid ∧ (state.processes other).phase.inHand? = some (entity, lock) := by
  rcases has with held | ⟨other, inHand⟩
  · exact .inl held
  · right
    rw [State.enter_processes] at inHand
    by_cases same : other = pid
    · subst same
      rw [update_self] at inHand
      exact .inl inHand
    · rw [update_of_ne same] at inHand
      right
      refine ⟨other, same, ?_⟩
      rcases State.apply_processes action state other with unchanged | aborted | ⟨-, task, new⟩
      · rw [unchanged] at inHand
        exact inHand
      · rw [aborted] at inHand
        cases inHand
      · rw [new] at inHand
        cases inHand

section Resume

variable {state : State} {pid : Pid} {answers : Answers} {action : Action} {next : Phase}

theorem Timed.moves (timed : Timed state) (noLock : next.inHand? = none)
    (sameTask : next.task? = state.taskOf pid)
    (held : ∀ entity lock, (state.apply action).locks.lockAt entity = some lock →
      state.Has entity lock)
    (tasks : ∀ other, (state.apply action).taskOf other = state.taskOf other)
    (issued : (state.apply action).issued = state.issued) :
    Timed ((state.apply action).enter pid next) := by
  have same (other : Pid) :
      ((state.apply action).enter pid next).taskOf other = state.taskOf other := by
    rw [State.taskOf_enter, tasks]
    split
    case isTrue isPid => rw [isPid, sameTask]
    case isFalse => rfl
  apply timed.shrink
  · intro entity lock has
    rcases State.has_resume has with there | inHand | ⟨other, -, inHand⟩
    · exact held entity lock there
    · rw [noLock] at inHand
      cases inHand
    · exact .inr ⟨other, inHand⟩
  · intro other task isTask
    rw [same] at isTask
    exact isTask
  · intro entity lock _
    exact same lock.deletionTask
  · intro id mem
    change id ∈ (state.apply action).issued
    rw [issued]
    exact mem

variable {entity : Entity}

theorem Timed.deletes (timed : Timed state) (coherent : Coherent state)
    {lock : Lock} (held : state.locks.lockAt entity = some lock) (noLock : next.inHand? = none)
    (noTask : state.taskOf pid = none) (nextTask : next.task? = none)
    (writes : (entity.lockType, .write) ∈ (state.processes pid).holds) :
    Timed ((state.apply (.delete entity lock)).enter pid next) := by
  obtain ⟨task, isTask, isFor⟩ := timed.live entity lock (.inl held)
  apply timed.retire isTask
  · intro other found has
    rcases State.has_resume has with there | inHand | ⟨process, -, inHand⟩
    · rw [State.lockAt_apply] at there
      simp only [Action.write?] at there
      split at there
      · cases there
      · exact .inl there
    · rw [noLock] at inHand
      cases inHand
    · exact .inr ⟨process, inHand⟩
  · intro found has
    rw [isFor.entity] at has
    rcases State.has_resume has with there | inHand | ⟨process, distinct, inHand⟩
    · rw [State.lockAt_apply] at there
      simp [Action.write?] at there
    · rw [noLock] at inHand
      cases inHand
    · exact absurd inHand (coherent.inHand_free distinct writes)
  · intro other
    rw [State.taskOf_enter]
    change (if other = pid then next.task? else (state.abort lock.deletionTask).taskOf other) = _
    rw [State.taskOf_abort, nextTask]
    by_cases same : other = pid
    · rw [if_pos same, same, noTask, ite_self]
    · rw [if_neg same]
  · intro id mem
    change id ∈ (state.abort lock.deletionTask).issued
    rw [State.abort_issued]
    exact mem

theorem Coherent.taskOf_spawned (coherent : Coherent state) :
    state.taskOf state.spawned = none := by
  rcases coherent.unborn state.spawned le_rfl with absent | aborted
  · rw [State.taskOf, absent]
    rfl
  · rw [State.taskOf, aborted]
    rfl

variable {task : DeletionTask}

theorem Timed.creates (timed : Timed state) (coherent : Coherent state)
    {request : PostRequest} {lock : Lock}
    (creates : Creates state.view entity request lock task) (born : pid < state.spawned)
    (noTask : state.taskOf pid = none) (nextTask : next.task? = none)
    (applied : action = .schedule entity task ∧ next.inHand? = some (entity, lock) ∨
      action = .scheduleInsert entity lock task ∧ next.inHand? = none) :
    Timed ((state.apply action).enter pid next) := by
  have isFor : task.For entity lock :=
    ⟨creates.taskEntity, creates.taskId, creates.taskExpiration⟩
  have isSpawned : lock.deletionTask = state.spawned := creates.deletionTask
  have spawns (other : Pid) : (state.apply action).taskOf other =
      if other = state.spawned then some task else state.taskOf other := by
    rcases applied with ⟨rfl, -⟩ | ⟨rfl, -⟩ <;> exact State.taskOf_spawn ..
  apply timed.grow isFor
  · intro other found has
    rcases State.has_resume has with there | inHand | ⟨process, -, inHand⟩
    · rcases applied with ⟨rfl, -⟩ | ⟨rfl, -⟩
      · rw [State.lockAt_apply] at there
        exact .inl (.inl there)
      · rw [State.lockAt_apply] at there
        simp only [Action.write?] at there
        split at there
        case isTrue same =>
          cases there
          exact .inr ⟨same, rfl⟩
        case isFalse => exact .inl (.inl there)
    · rcases applied with ⟨-, hand⟩ | ⟨-, hand⟩
      · rw [hand] at inHand
        cases inHand
        exact .inr ⟨rfl, rfl⟩
      · rw [hand] at inHand
        cases inHand
    · exact .inl (.inr ⟨process, inHand⟩)
  · intro other
    rw [State.taskOf_enter, spawns, isSpawned, nextTask]
    by_cases same : other = pid
    · subst same
      rw [if_pos rfl, if_neg born.ne, noTask]
    · rw [if_neg same]
  · rw [isSpawned]
    exact coherent.taskOf_spawned
  · intro other found isTask sameId
    have known := timed.issued other found isTask
    rw [sameId, creates.taskId] at known
    exact creates.fresh known
  · intro id mem
    rcases applied with ⟨rfl, -⟩ | ⟨rfl, -⟩ <;> exact List.mem_cons.mpr mem

/-- `update_lock` replaces the task of the lock. -/
theorem Timed.reschedules (timed : Timed state) (coherent : Coherent state)
    {lock : Lock} (held : state.locks.lockAt entity = some lock)
    (taskEntity : task.entity = entity) (taskId : task.lockId = lock.id)
    (born : pid < state.spawned) (noLock : next.inHand? = none)
    (noTask : state.taskOf pid = none) (nextTask : next.task? = none)
    (writes : (entity.lockType, .write) ∈ (state.processes pid).holds) :
    Timed ((state.apply (.reschedule entity lock task)).enter pid next) := by
  -- as if the lock were deleted and a new one inserted
  have deleted := timed.deletes coherent held noLock noTask nextTask writes
  have tasks (other : Pid) :
      ((state.apply (.delete entity lock)).enter pid next).taskOf other =
        if other = pid then none
        else if other = lock.deletionTask then none else state.taskOf other := by
    rw [State.taskOf_enter, nextTask]
    change (if other = pid then none else (state.abort lock.deletionTask).taskOf other) = _
    rw [State.taskOf_abort]
  have processes (other : Pid) (old : other ≠ state.spawned) :
      ((state.apply (.reschedule entity lock task)).enter pid next).processes other =
        ((state.apply (.delete entity lock)).enter pid next).processes other := by
    simp only [State.apply, State.enter_processes, State.spawn_processes, State.abort_spawned]
    by_cases same : other = pid
    · rw [same, update_self, update_self]
    · rw [update_of_ne same, update_of_ne same, update_of_ne old]
  obtain ⟨oldTask, isOld, oldFor⟩ := timed.live entity lock (.inl held)
  let updated : Lock :=
    { lock with expiration := task.expiration, deletionTask := state.spawned }
  have isFor : task.For entity updated := ⟨taskEntity, taskId, rfl⟩
  apply deleted.grow isFor
  · intro other found has
    rcases has with there | ⟨process, inHand⟩
    · rw [State.enter_locks, State.lockAt_apply] at there
      simp only [Action.write?] at there
      split at there
      case isTrue same =>
        cases there
        exact .inr ⟨same, rfl⟩
      case isFalse ne =>
        left; left
        rw [State.enter_locks, State.lockAt_apply]
        simp only [Action.write?]
        rw [if_neg ne]
        exact there
    · left; right
      have old : process ≠ state.spawned := by
        intro same
        subst same
        rw [State.enter_processes, update_of_ne born.ne'] at inHand
        simp only [State.apply, State.spawn_processes, State.abort_spawned, update_self] at inHand
        cases inHand
      rw [processes process old] at inHand
      exact ⟨process, inHand⟩
  · intro other
    by_cases new : other = state.spawned
    · subst new
      rw [if_pos rfl, State.taskOf_enter, if_neg born.ne']
      simp [State.apply, State.taskOf_spawn, Phase.task?]
    · rw [if_neg new, State.taskOf, State.taskOf, processes other new]
  · rw [tasks, if_neg born.ne', coherent.taskOf_spawned, ite_self]
  · intro other found isTask sameId
    rw [tasks] at isTask
    split at isTask
    · cases isTask
    · split at isTask
      case isTrue => cases isTask
      case isFalse ne =>
        refine ne (timed.unique other _ found oldTask isTask isOld ?_)
        rw [sameId, taskId, oldFor.lockId]
  · intro id mem
    have known : ((state.apply (.delete entity lock)).enter pid next).issued = state.issued :=
      State.abort_issued lock.deletionTask state
    rw [known] at mem
    change id ∈ (state.abort lock.deletionTask).issued
    rw [State.abort_issued]
    rcases mem with rfl | earlier
    · rw [taskId, ← oldFor.lockId]
      exact timed.issued _ oldTask isOld
    · exact earlier

theorem Timed.expires (timed : Timed state) (coherent : Coherent state)
    (isTask : state.taskOf pid = some task) (noLock : next.inHand? = none)
    (nextTask : next.task? = none)
    (writes : (task.entity.lockType, .write) ∈ (state.processes pid).holds)
    (applied : action = .expire task.entity ∨ action = .getMut task.entity ∧
      ∀ lock, state.locks.lockAt task.entity = some lock → lock.id ≠ task.lockId) :
    Timed ((state.apply action).enter pid next) := by
  have tasks (other : Pid) : (state.apply action).taskOf other = state.taskOf other := by
    rcases applied with rfl | ⟨rfl, -⟩ <;> rfl
  have issued : (state.apply action).issued = state.issued := by
    rcases applied with rfl | ⟨rfl, -⟩ <;> rfl
  apply timed.retire isTask
  · intro other found has
    rcases State.has_resume has with there | inHand | ⟨process, -, inHand⟩
    · rcases State.lockAt_apply_cases there with held | written
      · exact .inl held
      · rcases applied with rfl | ⟨rfl, -⟩ <;> cases written
    · rw [noLock] at inHand
      cases inHand
    · exact .inr ⟨process, inHand⟩
  · intro found has
    rcases State.has_resume has with there | inHand | ⟨process, distinct, inHand⟩
    · rcases applied with rfl | ⟨rfl, other⟩
      · rw [State.lockAt_apply] at there
        simp [Action.write?] at there
      · rw [State.lockAt_apply] at there
        exact other found there
    · rw [noLock] at inHand
      cases inHand
    · exact absurd inHand (coherent.inHand_free distinct writes)
  · intro other
    rw [State.taskOf_enter, tasks, nextTask]
  · intro id mem
    change id ∈ (state.apply action).issued
    rw [issued]
    exact mem

/-- The condition on a step: where the caller may update the lock, the new expiration can
be scheduled. -/
def SchedulableUpdate (state : State) : Event → Prop
  | .resume pid answers =>
    ∀ update lock expiration, (state.processes pid).phase.update? = some update →
      update.Permits state.view lock →
      expirationOf update.lockExpiration answers = some expiration →
      answers.Schedules expiration
  | _ => True

theorem Timed.resume (timed : Timed state) (coherent : Coherent state)
    (born : pid < state.spawned) (ready : (state.processes pid).waits = none)
    (turn : Turn ecuFunctionalGroups state.view answers (state.processes pid).phase action next)
    (schedulable : SchedulableUpdate state (.resume pid answers)) :
    Timed ((state.apply action).enter pid next) := by
  have writes {entity : Entity} {lock : Option Lock}
      (written : action.write? state.spawned = some (entity, lock)) :
      (entity.lockType, .write) ∈ (state.processes pid).holds :=
    Process.mem_holds_of_ready ready (turn.write_guarded written)
  have guarded : (state.processes pid).phase.held ++ (state.processes pid).phase.wanted.toList ⊆
      (state.processes pid).holds :=
    fun _ mem => Process.mem_holds_of_ready ready mem
  have own : state.taskOf pid = (state.processes pid).phase.task? := rfl
  have kept (entity : Entity) (lock : Lock) (there : state.locks.lockAt entity = some lock) :
      state.Has entity lock := .inl there
  have inserts {entity : Entity} {inserted : Lock}
      (inHand : (state.processes pid).phase.inHand? = some (entity, inserted))
      (other : Entity) (lock : Lock)
      (there : (state.apply (.insert entity inserted)).locks.lockAt other = some lock) :
      state.Has other lock := by
    rcases State.lockAt_apply_cases there with held | written
    · exact .inl held
    · cases written
      exact .inr ⟨pid, inHand⟩
  generalize phaseEq : (state.processes pid).phase = phase at turn own
  cases turn with
  | ended noTask quiet =>
    rw [noTask] at own
    cases quiet with
    | keep => exact timed.moves rfl own.symm kept (fun _ => rfl) rfl
    | getMut entity =>
      refine timed.moves rfl own.symm ?_ (fun _ => rfl) rfl
      intro other lock there
      rw [State.lockAt_apply] at there
      exact .inl there
  | groupPostScans =>
    rename_i ecus _
    cases ecus <;> exact timed.moves rfl own.symm kept (fun _ => rfl) rfl
  | groupPostCleaned =>
    rename_i rest
    cases rest <;> exact timed.moves rfl own.symm kept (fun _ => rfl) rfl
  | ecuPostCreates creates | groupPostCreates creates =>
    exact timed.creates coherent creates born own rfl (.inl ⟨rfl, rfl⟩)
  | vehiclePostCreates _ creates =>
    exact timed.creates coherent creates born own rfl (.inr ⟨rfl, rfl⟩)
  | ecuPostInserts | groupPostInserts =>
    exact timed.moves rfl own.symm (inserts (by rw [phaseEq]; rfl)) (fun _ => rfl) rfl
  | reschedules updates permits taskEntity taskId _ =>
    rw [Phase.task?_of_update? updates] at own
    exact timed.reschedules coherent permits.held taskEntity taskId born rfl own rfl (writes rfl)
  | unschedules updates permits expires failed =>
    rw [← phaseEq] at updates
    obtain ⟨task, scheduled⟩ :=
      scheduleTokenDeletion_eq_ok (schedulable _ _ _ updates permits expires) _ _
    rw [failed] at scheduled
    cases scheduled
  | groupPostDeletes held | deletes held | sweepDeletes held =>
    exact timed.deletes coherent held rfl own rfl (writes rfl)
  | expires => exact timed.expires coherent own rfl rfl (writes rfl) (.inl rfl)
  | lapses other =>
    refine timed.expires coherent own rfl rfl (guarded ?_) (.inr ⟨rfl, other⟩)
    rw [phaseEq]
    simp [Phase.held, Phase.wanted]
  | _ => exact timed.moves rfl own.symm kept (fun _ => rfl) rfl

theorem unchanged_of_rejected
    (turn : Turn ecuFunctionalGroups state.view answers (state.processes pid).phase action next)
    (schedulable : SchedulableUpdate state (.resume pid answers)) {update : Update}
    (updates : (state.processes pid).phase.update? = some update) {response : Response}
    (finished : next = .finished response)
    (rejected : (∃ e, response = .error e) ∨ response = .panicked) :
    (state.apply action).locks.lockAt = state.locks.lockAt ∧
      ((state.apply action).enter pid next).taskOf = state.taskOf := by
  subst finished
  have noTask : state.taskOf pid = none := Phase.task?_of_update? updates
  generalize phaseEq : (state.processes pid).phase = phase at turn
  rw [phaseEq] at updates
  cases turn with
  | ended _ quiet =>
    constructor
    · funext entity
      rw [State.lockAt_apply]
      cases quiet <;> rfl
    · funext other
      rw [State.taskOf_enter]
      split
      case isTrue same =>
        rw [same, noTask]
        rfl
      case isFalse => cases quiet <;> rfl
  | unschedules updating permits expires failed =>
    rw [← phaseEq] at updating
    obtain ⟨task, scheduled⟩ :=
      scheduleTokenDeletion_eq_ok (schedulable _ _ _ updating permits expires) _ _
    rw [failed] at scheduled
    cases scheduled
  | reschedules _ _ _ _ success =>
    rcases rejected with ⟨e, rfl⟩ | rfl <;> rcases success with created | updated
    · cases created
    · cases updated
    · cases created
    · cases updated
  | vehiclePostCreates => rcases rejected with ⟨e, failed⟩ | failed <;> cases failed
  | ecuPostInserts | groupPostInserts | lapses => cases updates

end Resume

/-- Each held lock has exactly one task that is alive, for its id and expiration. -/
def EveryLockExpires (state : State) : Prop :=
  ∀ entity lock, state.locks.lockAt entity = some lock →
    ∃ task, state.taskOf lock.deletionTask = some task ∧ task.For entity lock ∧
      ∀ pid other, state.taskOf pid = some other → other.lockId = lock.id → pid = lock.deletionTask

/-- A PUT, or a POST on a lock that is there, is answered with an error. -/
def RejectedUpdate (state : State) (event : Event) (next : State) : Prop :=
  ∃ pid answers update response, event = .resume pid answers ∧
    (state.processes pid).phase.update? = some update ∧
    (next.processes pid).phase = .finished response ∧
    ((∃ e, response = .error e) ∨ response = .panicked)

namespace Timed

variable {state : State}

theorem initial (ecuNames : List String) : Timed (State.initial ecuNames) where
  live := by
    intro entity lock has
    rcases has with held | ⟨pid, inHand⟩
    · rw [State.lockAt_initial] at held
      cases held
    · cases inHand
  unique := by
    intro pid other task otherTask isTask
    cases isTask
  issued := by
    intro pid task isTask
    cases isTask

theorem everyLockExpires (timed : Timed state) : EveryLockExpires state := by
  intro entity lock held
  obtain ⟨task, isTask, isFor⟩ := timed.live entity lock (.inl held)
  refine ⟨task, isTask, isFor, ?_⟩
  intro pid other isOther sameId
  exact timed.unique pid _ other task isOther isTask (sameId.trans isFor.lockId.symm)

theorem step {event : Event} {next : State} (timed : Timed state) (coherent : Coherent state)
    (stepped : Step ecuFunctionalGroups state event next)
    (schedulable : SchedulableUpdate state event) : Timed next := by
  rcases State.step_cases stepped with ⟨call, rfl, rfl⟩ | ⟨pid, level, mode, rfl, -, -, -, rfl⟩ |
    ⟨pid, answers, action, phase, rfl, ready, resumed, rfl⟩
  · have tasks (other : Pid) :
        (state.spawn call.phase).taskOf other = state.taskOf other := by
      rw [State.taskOf_spawn]
      split
      case isTrue new =>
        rw [new, coherent.taskOf_spawned]
        cases call <;> rfl
      case isFalse => rfl
    apply timed.shrink
    · intro entity lock has
      rcases has with held | ⟨pid, inHand⟩
      · exact .inl held
      · rw [State.spawn_processes, update_apply] at inHand
        split at inHand
        case isTrue => cases call <;> cases inHand
        case isFalse => exact .inr ⟨pid, inHand⟩
    · intro pid task isTask
      rw [tasks] at isTask
      exact isTask
    · intro entity lock _
      exact tasks lock.deletionTask
    · exact List.Subset.refl _
  · have tasks (other : Pid) : (state.handOver pid level).taskOf other = state.taskOf other := by
      rw [State.taskOf, State.handOver_phase, State.taskOf]
    apply timed.shrink
    · intro entity lock has
      rcases has with held | ⟨process, inHand⟩
      · exact .inl held
      · rw [State.handOver_phase] at inHand
        exact .inr ⟨process, inHand⟩
    · intro process task isTask
      rw [tasks] at isTask
      exact isTask
    · intro entity lock _
      exact tasks lock.deletionTask
    · exact List.Subset.refl _
  · exact timed.resume coherent (coherent.born_of_resume resumed) ready (resume_turn resumed)
      schedulable

end Timed

/-- In every run whose updates can be scheduled each held lock expires, and a rejected
update leaves the locks and their tasks as they were. -/
theorem everyLockExpires_of_run {ecuNames : List String} {events : List Event} {state : State}
    (run : Run (fun state event next => Step ecuFunctionalGroups state event next ∧
      SchedulableUpdate state event) (State.initial ecuNames) events state) :
    EveryLockExpires state ∧ ∀ event next, Step ecuFunctionalGroups state event next →
      SchedulableUpdate state event → RejectedUpdate state event next →
        next.locks.lockAt = state.locks.lockAt ∧ next.taskOf = state.taskOf := by
  have kept := run.keeps (fun _ state => Coherent state ∧ Timed state)
    ⟨.initial ecuNames, .initial ecuNames⟩ ?_
  · refine ⟨kept.2.everyLockExpires, ?_⟩
    intro event next stepped schedulable ⟨pid, answers, update, response, isResume, updates,
      finished, rejected⟩
    subst isResume
    rcases State.step_cases stepped with ⟨call, isArrive, -⟩ | ⟨_, _, _, isGrant, -⟩ |
      ⟨pid', answers', action, phase, isResume, -, resumed, rfl⟩
    · cases isArrive
    · cases isGrant
    · cases isResume
      rw [State.enter_processes, update_self] at finished
      exact unchanged_of_rejected (resume_turn resumed) schedulable updates finished rejected
  · intro _ _ _ _ ⟨coherent, timed⟩ ⟨stepped, schedulable⟩
    exact ⟨coherent.step stepped, timed.step coherent stepped schedulable⟩

def schedulableUpdate (state : State) : Event → Bool
  | .resume pid answers =>
    match (state.processes pid).phase.update? with
    | none => true
    | some update =>
      match expirationOf update.lockExpiration answers with
      | none => true
      | some expiration => decide (answers.Schedules expiration)
  | _ => true

theorem schedulableUpdate_sound {state : State} {event : Event}
    (checked : schedulableUpdate state event = true) : SchedulableUpdate state event := by
  cases event with
  | resume pid answers =>
    intro update lock expiration updates _ expires
    simp only [schedulableUpdate, updates, expires, decide_eq_true_eq] at checked
    exact checked
  | _ => trivial

/-- A vehicle lock is created and its expiration moved. -/
def postThenPut : List Event :=
  [.arrive (.vehiclePost ⟨"alice", 10⟩), .grant 0, .resume 0 (.atStart ""), .grant 0,
    .resume 0 (.atStart ""), .grant 0, .resume 0 (.atStart "v"),
    .arrive (.put .vehicle "v" "alice" 20), .grant 2, .resume 2 (.atStart "")]

theorem everyLockExpires_of_run_put : ∃ state lock,
      Run (fun state event next => Step (fun _ => .ok []) state event next ∧
        SchedulableUpdate state event) (State.initial ["engine"]) postThenPut state ∧
      state.locks.vehicle = some lock ∧ lock.expiration = 20 * nanosPerSecond ∧
      EveryLockExpires state := by
  have run : ∃ state lock,
      Run (fun state event next => State.step (fun _ => .ok []) state event = some next ∧
        schedulableUpdate state event = true) (State.initial ["engine"]) postThenPut state ∧
      state.locks.vehicle = some lock ∧ lock.expiration = 20 * nanosPerSecond :=
    ⟨_, _, Run.of_guarded_foldlM rfl, rfl, rfl⟩
  obtain ⟨state, lock, run, held, expiration⟩ := run
  have schedulable : Run (fun state event next => Step (fun _ => .ok []) state event next ∧
      SchedulableUpdate state event) (State.initial ["engine"]) postThenPut state := by
    apply run.mono
    intro state event next ⟨taken, checked⟩
    exact ⟨taken, schedulableUpdate_sound checked⟩
  exact ⟨state, lock, schedulable, held, expiration, (everyLockExpires_of_run schedulable).1⟩

/-- The PUT asks for an expiration of zero seconds, which is in the past when
`schedule_token_deletion` looks at the clock. -/
def putWithoutDelay : List Event :=
  [.arrive (.vehiclePost ⟨"alice", 10⟩), .grant 0, .resume 0 (.atStart ""), .grant 0,
    .resume 0 (.atStart ""), .grant 0, .resume 0 (.atStart "v"),
    .arrive (.put .vehicle "v" "alice" 0), .grant 2,
    .resume 2 { Answers.atStart "" with utcSchedule := 1 }]

theorem lock_never_expires_after_rejected_put :
    ¬ ∀ (ecuFunctionalGroups : String → Except ApiError (List String))
        (ecuNames : List String) (events : List Event) (state : State),
      Run (Step ecuFunctionalGroups) (State.initial ecuNames) events state →
        EveryLockExpires state ∧ ∀ event next, Step ecuFunctionalGroups state event next →
          RejectedUpdate state event next →
            next.locks.lockAt = state.locks.lockAt ∧ next.taskOf = state.taskOf := by
  intro everyLockExpires
  have run : ∃ state lock,
      Run (Step fun _ => .ok []) (State.initial ["engine"]) putWithoutDelay state ∧
      state.locks.lockAt .vehicle = some lock ∧ state.taskOf lock.deletionTask = none :=
    ⟨_, _, Run.of_foldlM rfl, rfl, rfl⟩
  obtain ⟨state, lock, run, held, noTask⟩ := run
  obtain ⟨task, isTask, -⟩ := (everyLockExpires _ _ _ _ run).1 .vehicle lock held
  rw [noTask] at isTask
  cases isTask

end DiagnosticAdapter.Sovd
