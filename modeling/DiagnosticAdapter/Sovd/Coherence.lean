import DiagnosticAdapter.Sovd.Turn

/-!
# Guards and queues

The three `RwLock`s keep their promise in every reachable state: a writer is alone,
and the queues hold exactly the waiting processes.
-/

namespace DiagnosticAdapter.Sovd

open Effects Function

variable {ecuFunctionalGroups : String → Except ApiError (List String)}

def Step (ecuFunctionalGroups : String → Except ApiError (List String)) (state : State)
    (event : Event) (next : State) : Prop :=
  state.step ecuFunctionalGroups event = some next

theorem Turn.held_subset {view : View} {answers : Answers} {phase next : Phase}
    {action : Action} (turn : Turn ecuFunctionalGroups view answers phase action next) :
    next.held ⊆ phase.held ++ phase.wanted.toList := by
  cases turn with
  | groupPostScans => rename_i ecus _; cases ecus <;> simp [nextDeletion, Phase.held]
  | groupPostCleaned => rename_i rest; cases rest <;> simp [nextDeletion, Phase.held]
  | _ => simp [Phase.held, Phase.wanted, Entity.lockType]

theorem Process.mem_holds_of_ready {process : Process} {guard : LockType × Mode}
    (ready : process.waits = none)
    (mem : guard ∈ process.phase.held ++ process.phase.wanted.toList) :
    guard ∈ process.holds := by
  rcases List.mem_append.mp mem with held | wanted
  · exact List.mem_append_left _ held
  · have granted : process.granted = true := by
      by_contra notGranted
      simp only [Process.waits, notGranted, if_false] at ready
      rw [ready] at wanted
      cases wanted
    apply List.mem_append_right
    rw [if_pos granted]
    exact wanted

namespace State

@[simp]
theorem enter_locks (pid : Pid) (phase : Phase) (state : State) :
    (state.enter pid phase).locks = state.locks := rfl

@[simp]
theorem enter_processes (pid : Pid) (phase : Phase) (state : State) :
    (state.enter pid phase).processes = update state.processes pid ⟨phase, false⟩ := rfl

theorem enter_queue (pid : Pid) (phase : Phase) (state : State) (level : LockType) :
    (state.enter pid phase).queue level = state.queue level ∨
      (state.enter pid phase).queue level = state.queue level ++ [pid] := by
  unfold enter
  split
  case h_1 wanted mode _ =>
    by_cases same : level = wanted
    · right
      subst same
      exact update_self ..
    · left
      exact update_of_ne same ..
  case h_2 => exact .inl rfl

@[simp]
theorem spawn_locks (phase : Phase) (state : State) : (state.spawn phase).locks = state.locks := rfl

@[simp]
theorem spawn_processes (phase : Phase) (state : State) : (state.spawn phase).processes =
      update state.processes state.spawned ⟨phase, false⟩ := rfl

@[simp]
theorem handOver_locks (pid : Pid) (level : LockType) (state : State) :
    (state.handOver pid level).locks = state.locks := rfl

theorem handOver_processes (pid : Pid) (level : LockType) (state : State) :
    (state.handOver pid level).processes =
      update state.processes pid { state.processes pid with granted := true } := rfl

@[simp]
theorem handOver_phase (pid other : Pid) (level : LockType) (state : State) :
    ((state.handOver pid level).processes other).phase = (state.processes other).phase := by
  rw [handOver_processes]
  by_cases same : other = pid
  · subst same
    rw [update_self]
  · rw [update_of_ne same]

@[simp]
theorem abort_locks (pid : Pid) (state : State) : (state.abort pid).locks = state.locks := by
  unfold abort
  split <;> rfl

@[simp]
theorem abort_spawned (pid : Pid) (state : State) : (state.abort pid).spawned = state.spawned := by
  unfold abort
  split <;> rfl

@[simp]
theorem abort_issued (pid : Pid) (state : State) : (state.abort pid).issued = state.issued := by
  unfold abort
  split <;> rfl

theorem abort_processes (pid other : Pid) (state : State) :
    (state.abort pid).processes other = state.processes other ∨
      (state.abort pid).processes other = ⟨.aborted, false⟩ := by
  unfold abort
  split
  · exact .inl rfl
  · by_cases same : other = pid
    · right
      simp [same]
    · left
      simp [same]

theorem apply_processes (action : Action) (state : State) (other : Pid) :
    (state.apply action).processes other = state.processes other ∨
      (state.apply action).processes other = ⟨.aborted, false⟩ ∨
      other = state.spawned ∧
        ∃ task, (state.apply action).processes other = ⟨.sleeping task, false⟩ := by
  have spawned (base : State) (task : DeletionTask) (same : base.spawned = state.spawned)
      (earlier : base.processes other = state.processes other ∨
        base.processes other = ⟨.aborted, false⟩) :
      (base.spawn (.sleeping task)).processes other = state.processes other ∨
        (base.spawn (.sleeping task)).processes other = ⟨.aborted, false⟩ ∨
        other = state.spawned ∧
          ∃ task', (base.spawn (.sleeping task)).processes other = ⟨.sleeping task', false⟩ := by
    rw [spawn_processes, same]
    by_cases new : other = state.spawned
    · subst new
      exact .inr (.inr ⟨rfl, task, update_self ..⟩)
    · rw [update_of_ne new]
      exact earlier.imp id .inl
  cases action with
  | keep | getMut entity | insert entity lock | expire entity => exact .inl rfl
  | schedule entity task | scheduleInsert entity lock task => exact spawned _ task rfl (.inl rfl)
  | reschedule entity lock task =>
    refine spawned _ task ?_ (abort_processes lock.deletionTask other state)
    exact abort_spawned lock.deletionTask state
  | abort lock | delete entity lock =>
    exact (abort_processes lock.deletionTask other state).imp id .inl

theorem apply_holds_subset (action : Action) (state : State) (other : Pid) :
    ((state.apply action).processes other).holds ⊆ (state.processes other).holds := by
  rcases apply_processes action state other with same | aborted | ⟨-, task, new⟩
  · rw [same]
    exact List.Subset.refl _
  · rw [aborted]
    exact List.nil_subset _
  · rw [new]
    exact List.nil_subset _

theorem apply_processes_of_waits {action : Action} {state : State} {other : Pid}
    {guard : LockType × Mode}
    (waits : ((state.apply action).processes other).waits = some guard) :
    (state.apply action).processes other = state.processes other := by
  rcases apply_processes action state other with same | aborted | ⟨-, task, new⟩
  · exact same
  · rw [aborted] at waits
    cases waits
  · rw [new] at waits
    cases waits

theorem abort_queue_sublist (pid : Pid) (state : State) (level : LockType) :
    ((state.abort pid).queue level).Sublist (state.queue level) := by
  unfold abort
  split
  · exact List.Sublist.refl _
  · exact List.filter_sublist

theorem apply_queue_sublist (action : Action) (state : State) (level : LockType) :
    ((state.apply action).queue level).Sublist (state.queue level) := by
  cases action with
  | reschedule entity lock task | abort lock | delete entity lock =>
    exact abort_queue_sublist lock.deletionTask state level
  | _ => exact List.Sublist.refl _

theorem spawned_le_apply (action : Action) (state : State) :
    state.spawned ≤ (state.apply action).spawned := by
  cases action <;> simp [apply, spawn, enter]

theorem step_cases {state next : State} {event : Event}
    (stepped : Step ecuFunctionalGroups state event next) :
    (∃ call, event = .arrive call ∧ next = state.spawn call.phase) ∨
    (∃ pid level mode, event = .grant pid ∧ (state.processes pid).waits = some (level, mode) ∧
      (state.queue level).head? = some pid ∧ state.admits pid level mode = true ∧
      next = state.handOver pid level) ∨
    (∃ pid answers action phase, event = .resume pid answers ∧ (state.processes pid).waits = none ∧
      resume ecuFunctionalGroups state.view answers (state.processes pid).phase =
        some (action, phase) ∧
      next = (state.apply action).enter pid phase) := by
  cases event with
  | arrive call => exact .inl ⟨call, rfl, (Option.some.inj stepped).symm⟩
  | grant pid =>
    right; left
    simp only [Step, step] at stepped
    split at stepped
    case h_1 level mode waits =>
      split at stepped
      case isTrue admitted =>
        exact ⟨pid, level, mode, rfl, waits, admitted.1, admitted.2,
          (Option.some.inj stepped).symm⟩
      case isFalse => cases stepped
    case h_2 => cases stepped
  | resume pid answers =>
    right; right
    simp only [Step, step] at stepped
    split at stepped
    case h_1 => cases stepped
    case h_2 ready =>
      split at stepped
      case h_1 action phase resumed =>
        exact ⟨pid, answers, action, phase, rfl, ready, resumed, (Option.some.inj stepped).symm⟩
      case h_2 => cases stepped

end State

/-- The `RwLock`s are in order. -/
structure Coherent (state : State) : Prop where
  exclusive : state.guards.Exclusive
  queued : state.guards.Queued
  unborn : ∀ pid, state.spawned ≤ pid →
    state.processes pid = ⟨.absent, false⟩ ∨ state.processes pid = ⟨.aborted, false⟩

namespace Coherent

variable {state base next : State}

theorem initial (ecuNames : List String) : Coherent (State.initial ecuNames) where
  exclusive := by
    intro process other level mode distinct holds
    cases holds
  queued := by
    constructor
    · intro level
      exact List.nodup_nil
    · intro level process
      constructor
      · intro inQueue
        cases inQueue
      · intro ⟨mode, waits⟩
        cases waits
  unborn := fun _ _ => .inl rfl

section

variable (coherent : Coherent state)

include coherent

theorem of_eq (processes : base.processes = state.processes)
    (spawned : base.spawned = state.spawned) (queue : base.queue = state.queue) :
    Coherent base := by
  have guards : base.guards = state.guards := by
    simp only [State.guards, processes, queue]
  constructor
  · rw [guards]
    exact coherent.exclusive
  · rw [guards]
    exact coherent.queued
  · rw [processes, spawned]
    exact coherent.unborn

theorem idle_of_unborn {pid : Pid} (unborn : state.spawned ≤ pid) :
    (state.processes pid).holds = [] ∧ (state.processes pid).waits = none := by
  rcases coherent.unborn pid unborn with absent | aborted
  · rw [absent]
    exact ⟨rfl, rfl⟩
  · rw [aborted]
    exact ⟨rfl, rfl⟩

theorem not_mem_queue {pid : Pid} (ready : (state.processes pid).waits = none) (level : LockType) :
    pid ∉ state.queue level := by
  intro inQueue
  obtain ⟨mode, waits⟩ := (coherent.queued.waiting level pid).mp inQueue
  change (state.processes pid).waits = _ at waits
  rw [ready] at waits
  cases waits

theorem enter {pid : Pid} {phase : Phase} (born : pid < state.spawned)
    (ready : (state.processes pid).waits = none)
    (compatible : ∀ other, other ≠ pid → ∀ level mode otherMode, (level, mode) ∈ phase.held →
      (level, otherMode) ∈ (state.processes other).holds → ¬ mode.Conflicts otherMode) :
    Coherent (state.enter pid phase) where
  exclusive := by
    intro process other level mode distinct writes holds
    simp only [State.guards, State.enter_processes] at writes holds
    by_cases first : process = pid
    · subst first
      rw [update_self] at writes
      rw [update_of_ne distinct.symm] at holds
      simp only [Process.holds, Bool.false_eq_true, if_false, List.append_nil] at writes
      exact compatible other distinct.symm level _ mode writes holds (.inl rfl)
    · rw [update_of_ne first] at writes
      by_cases second : other = pid
      · subst second
        rw [update_self] at holds
        simp only [Process.holds, Bool.false_eq_true, if_false, List.append_nil] at holds
        exact compatible process first level mode _ holds writes (.inr rfl)
      · rw [update_of_ne second] at holds
        exact coherent.exclusive process other level mode distinct writes holds
  queued := by
    have outside := coherent.not_mem_queue ready
    have unchanged (level : LockType) (process : Pid) (distinct : process ≠ pid) :
        process ∈ state.queue level ↔ ∃ mode,
          (state.enter pid phase).guards.waits process = some (level, mode) := by
      refine (coherent.queued.waiting level process).trans ?_
      simp only [State.guards, State.enter_processes, update_of_ne distinct]
    have waits : (state.enter pid phase).guards.waits pid = phase.wanted := by
      simp [State.guards, Process.waits]
    constructor
    · intro level
      change ((state.enter pid phase).queue level).Nodup
      unfold State.enter
      split
      case h_1 wanted mode _ =>
        by_cases same : level = wanted
        · subst same
          simp only [update_self]
          exact List.nodup_append_comm.mp
            (List.nodup_cons.mpr ⟨outside level, coherent.queued.nodup level⟩)
        · simp only [update_of_ne same]
          exact coherent.queued.nodup level
      case h_2 => exact coherent.queued.nodup level
    · intro level process
      change process ∈ (state.enter pid phase).queue level ↔ _
      by_cases same : process = pid
      · subst same
        rw [waits]
        unfold State.enter
        cases wants : phase.wanted with
        | none => simpa using outside level
        | some guard =>
          obtain ⟨wanted, mode⟩ := guard
          by_cases sameLevel : level = wanted
          · subst sameLevel
            simp
          · simp [sameLevel, Ne.symm sameLevel, outside level]
      · rw [← unchanged level process same]
        unfold State.enter
        split
        case h_1 wanted mode _ =>
          by_cases sameLevel : level = wanted
          · subst sameLevel
            simp [same]
          · simp [sameLevel]
        case h_2 => rfl
  unborn := by
    intro other unborn
    have distinct : other ≠ pid := (lt_of_lt_of_le born unborn).ne'
    rw [State.enter_processes, update_of_ne distinct]
    exact coherent.unborn other unborn

theorem spawn {phase : Phase} (empty : phase.held = []) : Coherent (state.spawn phase) := by
  have later : Coherent { state with spawned := state.spawned + 1 } :=
    ⟨coherent.exclusive, coherent.queued,
      fun pid unborn => coherent.unborn pid (Nat.le_of_succ_le unborn)⟩
  refine later.enter (Nat.lt_succ_self _) (coherent.idle_of_unborn le_rfl).2 ?_
  intro other distinct level mode otherMode held
  rw [empty] at held
  cases held

theorem abort (pid : Pid) : Coherent (state.abort pid) := by
  unfold State.abort
  split
  · exact coherent
  · constructor
    · intro process other level mode distinct writes holds
      simp only [State.guards] at writes holds
      by_cases first : process = pid
      · subst first
        rw [update_self] at writes
        cases writes
      · by_cases second : other = pid
        · subst second
          rw [update_self] at holds
          cases holds
        · rw [update_of_ne first] at writes
          rw [update_of_ne second] at holds
          exact coherent.exclusive process other level mode distinct writes holds
    · constructor
      · intro level
        exact (coherent.queued.nodup level).filter _
      · intro level process
        by_cases same : process = pid
        · subst same
          simp [State.guards, Process.waits, Phase.wanted]
        · have waiting := coherent.queued.waiting level process
          simp only [State.guards] at waiting
          simp [State.guards, same, waiting]
    · intro other unborn
      by_cases same : other = pid
      · right
        simp [same]
      · simp only [update_of_ne same]
        exact coherent.unborn other unborn

end

theorem apply (coherent : Coherent state) (action : Action) : Coherent (state.apply action) := by
  cases action with
  | keep => exact coherent
  | getMut entity | insert entity lock | expire entity => exact coherent.of_eq rfl rfl rfl
  | schedule entity task | scheduleInsert entity lock task =>
    apply Coherent.spawn _ rfl
    exact coherent.of_eq rfl rfl rfl
  | reschedule entity lock task =>
    apply Coherent.spawn _ rfl
    exact (coherent.abort lock.deletionTask).of_eq rfl rfl rfl
  | abort lock => exact coherent.abort lock.deletionTask
  | delete entity lock => exact (coherent.abort lock.deletionTask).of_eq rfl rfl rfl

theorem grant (coherent : Coherent state) {pid : Pid} {level : LockType} {mode : Mode}
    (waits : (state.processes pid).waits = some (level, mode))
    (first : (state.queue level).head? = some pid)
    (admitted : state.admits pid level mode = true) :
    Coherent (state.handOver pid level) := by
  have born : pid < state.spawned := by
    by_contra unborn
    rw [(coherent.idle_of_unborn (not_lt.mp unborn)).2] at waits
    cases waits
  have compatible (other : Pid) (distinct : other ≠ pid) (otherMode : Mode)
      (holds : (level, otherMode) ∈ (state.processes other).holds) :
      ¬ mode.Conflicts otherMode := by
    have known : other < state.spawned := by
      by_contra unborn
      rw [(coherent.idle_of_unborn (not_lt.mp unborn)).1] at holds
      cases holds
    simp only [State.admits, List.all_eq_true, List.mem_range] at admitted
    have checked := admitted other known
    rw [beq_eq_false_iff_ne.mpr distinct, Bool.false_or, List.all_eq_true] at checked
    simpa using checked _ holds
  have notGranted : (state.processes pid).granted = false := by
    by_contra granted
    simp [Process.waits, granted] at waits
  have wanted : (state.processes pid).phase.wanted = some (level, mode) := by
    simpa [Process.waits, notGranted] using waits
  obtain ⟨rest, queue⟩ : ∃ rest, state.queue level = pid :: rest :=
    List.head?_eq_some_iff.mp first
  have distinctQueue := coherent.queued.nodup level
  constructor
  · intro process other otherLevel otherMode distinct writes holds
    simp only [State.guards, State.handOver_processes] at writes holds
    by_cases isPid : process = pid
    · subst isPid
      rw [update_of_ne distinct.symm] at holds
      simp only [update_self, Process.holds, wanted, if_true, Option.toList_some,
        List.mem_append, List.mem_singleton, Prod.mk.injEq] at writes
      rcases writes with held | ⟨rfl, rfl⟩
      · exact coherent.exclusive process other otherLevel otherMode distinct
          (List.mem_append_left _ held) holds
      · exact compatible other distinct.symm otherMode holds (.inl rfl)
    · rw [update_of_ne isPid] at writes
      by_cases otherIsPid : other = pid
      · subst otherIsPid
        simp only [update_self, Process.holds, wanted, if_true, Option.toList_some,
          List.mem_append, List.mem_singleton, Prod.mk.injEq] at holds
        rcases holds with held | ⟨rfl, rfl⟩
        · exact coherent.exclusive process other otherLevel otherMode distinct writes
            (List.mem_append_left _ held)
        · exact compatible process distinct .write writes (.inr rfl)
      · rw [update_of_ne otherIsPid] at holds
        exact coherent.exclusive process other otherLevel otherMode distinct writes holds
  · constructor
    · intro otherLevel
      simp only [State.guards, State.handOver]
      by_cases same : otherLevel = level
      · subst same
        rw [update_self]
        exact (coherent.queued.nodup otherLevel).tail
      · rw [update_of_ne same]
        exact coherent.queued.nodup otherLevel
    · intro otherLevel process
      have waiting := coherent.queued.waiting otherLevel process
      simp only [State.guards] at waiting
      simp only [State.guards, State.handOver]
      by_cases isPid : process = pid
      · subst isPid
        simp only [update_self, Process.waits, if_true, reduceCtorEq, exists_false, iff_false]
        by_cases same : otherLevel = level
        · subst same
          simp only [State.guards, queue, List.nodup_cons] at distinctQueue
          simpa [queue] using distinctQueue.1
        · rw [update_of_ne same, waiting, waits]
          simp [Ne.symm same]
      · rw [update_of_ne isPid, ← waiting]
        by_cases same : otherLevel = level
        · subst same
          simp [queue, isPid]
        · rw [update_of_ne same]
  · intro other unborn
    have distinct : other ≠ pid := (lt_of_lt_of_le born unborn).ne'
    rw [State.handOver_processes, update_of_ne distinct]
    exact coherent.unborn other unborn

theorem born_of_resume (coherent : Coherent state) {pid : Pid} {view : View} {answers : Answers}
    {action : Action} {phase : Phase}
    (resumed : resume ecuFunctionalGroups view answers (state.processes pid).phase =
      some (action, phase)) : pid < state.spawned := by
  by_contra unborn
  rcases coherent.unborn pid (not_lt.mp unborn) with absent | aborted
  · rw [absent] at resumed
    cases resumed
  · rw [aborted] at resumed
    cases resumed

theorem step {event : Event} (coherent : Coherent state)
    (stepped : Step ecuFunctionalGroups state event next) : Coherent next := by
  rcases State.step_cases stepped with ⟨call, -, rfl⟩ |
    ⟨pid, level, mode, -, waits, first, admitted, rfl⟩ |
    ⟨pid, answers, action, phase, -, ready, resumed, rfl⟩
  · apply coherent.spawn
    cases call <;> rfl
  · exact coherent.grant waits first admitted
  · have born := coherent.born_of_resume resumed
    have kept := (resume_turn resumed).held_subset
    apply (coherent.apply action).enter
    · exact lt_of_lt_of_le born (State.spawned_le_apply action state)
    · rcases State.apply_processes action state pid with same | aborted | ⟨new, task, _⟩
      · rw [same]
        exact ready
      · rw [aborted]
        rfl
      · exact absurd new born.ne
    · intro other distinct otherLevel mode otherMode held holds conflict
      have before : (otherLevel, otherMode) ∈ (state.processes other).holds :=
        State.apply_holds_subset action state other holds
      have own : (otherLevel, mode) ∈ (state.processes pid).holds :=
        Process.mem_holds_of_ready ready (kept held)
      rcases conflict with rfl | rfl
      · exact coherent.exclusive pid other otherLevel otherMode distinct.symm own before
      · exact coherent.exclusive other pid otherLevel mode distinct before own

end Coherent

end DiagnosticAdapter.Sovd
