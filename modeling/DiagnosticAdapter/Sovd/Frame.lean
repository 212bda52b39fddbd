import DiagnosticAdapter.Sovd.Coherence

/-!
# What a step leaves alone

A step changes at most one lock, under the write guard of its level.  So what a
process has read under a guard stays true until it gives the guard back.
-/

namespace DiagnosticAdapter.Sovd

open Effects

variable {ecuFunctionalGroups : String → Except ApiError (List String)}

/-- The answers of the concrete runs: all clocks at zero, one ECU. -/
def Answers.atStart (uuid : String) : Answers :=
  ⟨0, 0, 0, 0, 0, uuid, .ok (), ["engine"], none⟩

/-- The entity an action assigns to and its new lock; `spawned` is the number of the task
it may spawn. -/
def Action.write? (spawned : Pid) : Action → Option (Entity × Option Lock)
  | .insert entity lock => some (entity, some lock)
  | .scheduleInsert entity lock _ => some (entity, some lock)
  | .reschedule entity lock task =>
    some (entity, some { lock with expiration := task.expiration, deletionTask := spawned })
  | .delete entity _ => some (entity, none)
  | .expire entity => some (entity, none)
  | _ => none

namespace State

theorem lockAt_initial (ecuNames : List String) (entity : Entity) :
    (State.initial ecuNames).locks.lockAt entity = none := by
  cases entity with
  | vehicle => rfl
  | functionalGroup name => rfl
  | ecu name =>
    have empty (names : List String) (map : LockHashMap)
        (free : (map.lookup name).join = none) :
        ((names.foldl (fun map name => map.insert name none) map).lookup name).join = none := by
      induction names generalizing map with
      | nil => exact free
      | cons head rest ih =>
        apply ih
        by_cases same : name = head
        · subst same
          simp
        · rw [AList.lookup_insert_ne same]
          exact free
    exact empty ecuNames ∅ rfl

theorem lockAt_apply (action : Action) (state : State) (entity : Entity) :
    (state.apply action).locks.lockAt entity =
      match action.write? state.spawned with
      | some (target, lock) => if entity = target then lock else state.locks.lockAt entity
      | none => state.locks.lockAt entity := by
  cases action <;> simp [apply, Action.write?]

/-- A lock that is there after an action was there before, or the action put it there. -/
theorem lockAt_apply_cases {action : Action} {state : State} {entity : Entity} {lock : Lock}
    (held : (state.apply action).locks.lockAt entity = some lock) :
    state.locks.lockAt entity = some lock ∨
      action.write? state.spawned = some (entity, some lock) := by
  rw [lockAt_apply] at held
  split at held
  case h_1 target written writes =>
    split at held
    case isTrue same =>
      right
      rw [writes, same, held]
    case isFalse => exact .inl held
  case h_2 => exact .inl held

end State

theorem Phase.write_of_update? {phase : Phase} {update : Update}
    (updates : phase.update? = some update) :
    (update.entity.lockType, .write) ∈ phase.held ++ phase.wanted.toList := by
  cases phase with
  | ecuPost request ecu point | vehiclePost request point | groupPost request group point =>
    cases point <;> cases updates
    simp [Phase.held, Phase.wanted, Entity.lockType]
  | put entity lockId sub lockExpiration =>
    cases updates
    simp [Phase.held, Phase.wanted]
  | _ => cases updates

variable {entity : Entity} {answers : Answers} {phase next : Phase} {action : Action}

theorem Turn.write_guarded {view : View}
    (turn : Turn ecuFunctionalGroups view answers phase action next)
    {spawned : Pid} {lock : Option Lock} (writes : action.write? spawned = some (entity, lock)) :
    (entity.lockType, .write) ∈ phase.held ++ phase.wanted.toList := by
  cases turn with
  | ended _ quiet => cases quiet <;> cases writes
  | reschedules updates =>
    cases writes
    exact Phase.write_of_update? updates
  | sweepDeletes =>
    rename_i level _ _ _ _
    cases writes
    cases level <;> simp [Phase.held, Phase.wanted, SweptLevel.lockType, SweptLevel.entity,
      Entity.lockType]
  | _ => cases writes <;> simp [Phase.held, Phase.wanted, Entity.lockType]

theorem Coherent.lockAt_apply_of_guard {state : State} (coherent : Coherent state)
    {pid other : Pid} {phase : Phase} (ready : (state.processes pid).waits = none)
    (turn : Turn ecuFunctionalGroups state.view answers (state.processes pid).phase action phase)
    (distinct : other ≠ pid) {mode : Mode}
    (guarded : (entity.lockType, mode) ∈ (state.processes other).holds) :
    (state.apply action).locks.lockAt entity = state.locks.lockAt entity := by
  rw [State.lockAt_apply]
  split
  case h_1 target lock writes =>
    apply if_neg
    intro same
    subst same
    have own := Process.mem_holds_of_ready ready (turn.write_guarded writes)
    exact coherent.exclusive pid other _ mode distinct.symm own guarded
  case h_2 => rfl

/-- The lock a POST has created and not yet inserted. -/
def Phase.inHand? : Phase → Option (Entity × Lock)
  | .ecuPost _ ecu (.testerPresent lock) => some (.ecu ecu, lock)
  | .groupPost _ group (.testerPresent _ lock) => some (.functionalGroup group, lock)
  | _ => none

variable {lock : Lock}

theorem Phase.write_of_inHand? {phase : Phase} (inHand : phase.inHand? = some (entity, lock)) :
    (entity.lockType, .write) ∈ phase.held := by
  cases phase with
  | ecuPost request ecu point | groupPost request group point =>
    cases point <;> cases inHand
    simp [Phase.held, Entity.lockType]
  | _ => cases inHand

theorem Coherent.inHand_free {state : State} (coherent : Coherent state) {pid other : Pid}
    (distinct : other ≠ pid) (writes : (entity.lockType, .write) ∈ (state.processes pid).holds) :
    (state.processes other).phase.inHand? ≠ some (entity, lock) := by
  intro inHand
  have otherWrites : (entity.lockType, .write) ∈ (state.processes other).holds :=
    List.mem_append_left _ (Phase.write_of_inHand? inHand)
  exact coherent.exclusive pid other _ .write distinct.symm writes otherWrites

theorem Turn.free_of_inHand {view : View}
    (turn : Turn ecuFunctionalGroups view answers phase action next)
    (inHand : next.inHand? = some (entity, lock)) :
    view.locks.lockAt entity = none ∧ ∀ spawned, action.write? spawned = none := by
  cases turn with
  | ecuPostCreates creates | groupPostCreates creates =>
    cases inHand
    exact ⟨creates.free, fun _ => rfl⟩
  | groupPostScans =>
    rename_i ecus _
    cases ecus <;> cases inHand
  | groupPostCleaned =>
    rename_i rest
    cases rest <;> cases inHand
  | _ => cases inHand

end DiagnosticAdapter.Sovd
