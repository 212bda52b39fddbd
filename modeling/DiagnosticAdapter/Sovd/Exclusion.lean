import DiagnosticAdapter.Sovd.Frame

/-!
# Exclusion across levels

A vehicle lock leaves room for locks of its owner only, and a functional-group lock
for locks of its owner only on the ECUs of the group.  The first holds in every run.
The second fails when an ECU lock is inserted after a functional-group POST has
looked at the ECU locks and before it has the write guard of its own level.
-/

namespace DiagnosticAdapter.Sovd

open Effects

variable {ecuFunctionalGroups : String → Except ApiError (List String)}

def InGroup (ecuFunctionalGroups : String → Except ApiError (List String)) (ecu group : String) :
    Prop :=
  ∃ groups, ecuFunctionalGroups ecu = .ok groups ∧ group ∈ groups

/-- The locks of the three levels go together. -/
structure Exclusion (ecuFunctionalGroups : String → Except ApiError (List String))
    (locks : Locks) : Prop where
  vehicle : ∀ vehicleLock entity lock, locks.vehicle = some vehicleLock →
    locks.lockAt entity = some lock → lock.owner = vehicleLock.owner
  group : ∀ group ecu groupLock ecuLock, InGroup ecuFunctionalGroups ecu group →
    locks.lockAt (.functionalGroup group) = some groupLock →
    locks.lockAt (.ecu ecu) = some ecuLock → ecuLock.owner = groupLock.owner

namespace Locks

/-- No lock of another client is held on the entity. -/
def OwnedAt (locks : Locks) (sub : String) (entity : Entity) : Prop :=
  ∀ lock, locks.lockAt entity = some lock → lock.owner = sub

def NoGroups (locks : Locks) : Prop :=
  ∀ group, locks.lockAt (.functionalGroup group) = none

/-- Every lock was already there, with the same owner. -/
def Within (after before : Locks) : Prop :=
  ∀ entity lock, after.lockAt entity = some lock →
    ∃ old, before.lockAt entity = some old ∧ old.owner = lock.owner

variable {before after : Locks}

theorem OwnedAt.within {sub : String} {entity : Entity} (owned : before.OwnedAt sub entity)
    (within : after.Within before) : after.OwnedAt sub entity := by
  intro lock held
  obtain ⟨old, heldBefore, sameOwner⟩ := within entity lock held
  rw [← sameOwner]
  exact owned old heldBefore

theorem NoGroups.within (free : before.NoGroups) (within : after.Within before) :
    after.NoGroups := by
  intro group
  by_contra locked
  obtain ⟨lock, held⟩ := Option.ne_none_iff_exists'.mp locked
  obtain ⟨old, heldBefore, -⟩ := within _ lock held
  rw [free group] at heldBefore
  cases heldBefore

theorem OwnedAt.setLock {sub : String} {entity target : Entity} {lock : Lock}
    (owned : before.OwnedAt sub entity) (new : entity = target → lock.owner = sub) :
    (before.setLock target (some lock)).OwnedAt sub entity := by
  intro found held
  rw [lockAt_setLock] at held
  split at held
  case isTrue same =>
    cases held
    exact new same
  case isFalse => exact owned found held

theorem NoGroups.setLock {target : Entity} {lock : Option Lock} (free : before.NoGroups)
    (other : target.lockType ≠ .functionalGroup) : (before.setLock target lock).NoGroups := by
  intro group
  rw [lockAt_setLock, if_neg]
  · exact free group
  · intro same
    subst same
    exact other rfl

end Locks

theorem Exclusion.within {before after : Locks} (exclusion : Exclusion ecuFunctionalGroups before)
    (within : after.Within before) : Exclusion ecuFunctionalGroups after where
  vehicle := by
    intro vehicleLock entity lock vehicleHeld held
    obtain ⟨oldVehicle, vehicleBefore, sameVehicle⟩ := within .vehicle vehicleLock vehicleHeld
    obtain ⟨old, heldBefore, sameOwner⟩ := within entity lock held
    rw [← sameVehicle, ← sameOwner]
    exact exclusion.vehicle oldVehicle entity old vehicleBefore heldBefore
  group := by
    intro group ecu groupLock ecuLock inGroup groupHeld ecuHeld
    obtain ⟨oldGroup, groupBefore, sameGroup⟩ := within _ groupLock groupHeld
    obtain ⟨oldEcu, ecuBefore, sameEcu⟩ := within _ ecuLock ecuHeld
    rw [← sameGroup, ← sameEcu]
    exact exclusion.group group ecu oldGroup oldEcu inGroup groupBefore ecuBefore

/-- The loop over the ECU locks is over, and the functional-group lock is not inserted. -/
def GroupPostPoint.AfterScan : GroupPostPoint → Prop
  | .vehicle => False
  | .scan => False
  | _ => True

/-- What a process has learned about the locks and still relies on. -/
def Phase.Knows (ecuFunctionalGroups : String → Except ApiError (List String)) (locks : Locks) :
    Phase → Prop
  | .ecuPost request _ point =>
    (point ≠ .vehicle → locks.OwnedAt request.sub .vehicle) ∧
    ((point = .ecu ∨ ∃ lock, point = .testerPresent lock) → locks.NoGroups) ∧
    (∀ lock, point = .testerPresent lock → lock.owner = request.sub)
  | .vehiclePost request point =>
    (point ≠ .vehicle → locks.OwnedAt request.sub .vehicle) ∧
    (point = .functionalGroup → ∀ ecu, locks.OwnedAt request.sub (.ecu ecu))
  | .groupPost request group point =>
    (point ≠ .vehicle → locks.OwnedAt request.sub .vehicle) ∧
    (point.AfterScan → ∀ ecu, InGroup ecuFunctionalGroups ecu group →
      locks.OwnedAt request.sub (.ecu ecu)) ∧
    (∀ deleted lock, point = .testerPresent deleted lock → lock.owner = request.sub)
  | _ => True

theorem Phase.Knows.within {before after : Locks} {phase : Phase}
    (knows : phase.Knows ecuFunctionalGroups before) (within : after.Within before) :
    phase.Knows ecuFunctionalGroups after := by
  cases phase with
  | ecuPost request ecu point =>
    obtain ⟨vehicle, free, owner⟩ := knows
    exact ⟨fun passed => (vehicle passed).within within,
      fun passed => (free passed).within within, owner⟩
  | vehiclePost request point =>
    obtain ⟨vehicle, ecus⟩ := knows
    exact ⟨fun passed => (vehicle passed).within within,
      fun passed ecu => (ecus passed ecu).within within⟩
  | groupPost request group point =>
    obtain ⟨vehicle, ecus, owner⟩ := knows
    exact ⟨fun passed => (vehicle passed).within within,
      fun passed ecu inGroup => (ecus passed ecu inGroup).within within, owner⟩
  | _ => trivial

theorem Phase.knows_of_no_vehicle {locks : Locks} {process : Process}
    (unguarded : ∀ mode, (LockType.vehicle, mode) ∉ process.holds) :
    process.phase.Knows ecuFunctionalGroups locks := by
  have outside (mode : Mode) : (LockType.vehicle, mode) ∉ process.phase.held :=
    fun held => unguarded mode (List.mem_append_left _ held)
  cases phase : process.phase with
  | ecuPost request ecu point =>
    rw [phase] at outside
    cases point with
    | vehicle => simp [Phase.Knows]
    | functionalGroup | ecu | testerPresent lock =>
      exact absurd (by simp [Phase.held]) (outside .read)
  | vehiclePost request point =>
    rw [phase] at outside
    cases point with
    | vehicle => simp [Phase.Knows]
    | ecu | functionalGroup => exact absurd (by simp [Phase.held]) (outside .write)
  | groupPost request group point =>
    rw [phase] at outside
    cases point with
    | vehicle => simp [Phase.Knows, GroupPostPoint.AfterScan]
    | scan | deleting | cleaning | functionalGroup | testerPresent =>
      exact absurd (by simp [Phase.held]) (outside .read)
  | _ => trivial

theorem within_apply {state : State} {action : Action}
    (kept : ∀ entity lock, action.write? state.spawned = some (entity, some lock) →
      ∃ old, state.locks.lockAt entity = some old ∧ old.owner = lock.owner) :
    (state.apply action).locks.Within state.locks := by
  intro entity lock held
  rcases State.lockAt_apply_cases held with before | writes
  · exact ⟨lock, before, rfl⟩
  · exact kept entity lock writes

section

variable {answers : Answers} {phase next : Phase} {action : Action}

theorem Turn.within_or_inserts {state : State}
    (turn : Turn ecuFunctionalGroups state.view answers phase action next) :
    (state.apply action).locks.Within state.locks ∨
    (∃ request ecu lock, phase = .ecuPost request ecu (.testerPresent lock) ∧
      action = .insert (.ecu ecu) lock ∧ next = .finished (.created lock.id) ∧
      answers.testerPresent = .ok ()) ∨
    (∃ request lock task, phase = .vehiclePost request .functionalGroup ∧
      action = .scheduleInsert .vehicle lock task ∧ next = .finished (.created lock.id) ∧
      lock.owner = request.sub ∧
      ∀ group, state.locks.OwnedAt request.sub (.functionalGroup group)) ∨
    (∃ request group deleted lock, phase = .groupPost request group (.testerPresent deleted lock) ∧
      action = .insert (.functionalGroup group) lock ∧ next = .finished (.created lock.id)) := by
  cases turn with
  | ecuPostInserts started => exact .inr (.inl ⟨_, _, _, rfl, rfl, rfl, started⟩)
  | vehiclePostCreates owned creates =>
    exact .inr (.inr (.inl ⟨_, _, _, rfl, rfl, rfl, creates.owner, owned⟩))
  | groupPostInserts => exact .inr (.inr (.inr ⟨_, _, _, _, rfl, rfl, rfl⟩))
  | ended _ quiet =>
    left
    apply within_apply
    intro entity lock writes
    cases quiet <;> cases writes
  | reschedules updates permits =>
    left
    apply within_apply
    intro entity lock writes
    cases writes
    exact ⟨_, permits.held, rfl⟩
  | _ =>
    left
    apply within_apply
    intro entity lock writes
    cases writes

theorem Turn.knows {view : View} (turn : Turn ecuFunctionalGroups view answers phase action next)
    (known : phase.Knows ecuFunctionalGroups view.locks) :
    next.Knows ecuFunctionalGroups view.locks := by
  cases turn with
  | ecuPostVehicle owned => exact ⟨fun _ => owned, by simp, by simp⟩
  | ecuPostGroups free => exact ⟨fun _ => known.1 (by simp), fun _ => free, by simp⟩
  | ecuPostCreates creates =>
    refine ⟨fun _ => known.1 (by simp), fun _ => known.2.1 (.inl rfl), ?_⟩
    intro lock inHand
    cases inHand
    exact creates.owner
  | vehiclePostVehicle owned => exact ⟨fun _ => owned, by simp⟩
  | vehiclePostEcus owned => exact ⟨fun _ => known.1 (by simp), fun _ => owned⟩
  | groupPostVehicle owned =>
    exact ⟨fun _ => owned, by simp [GroupPostPoint.AfterScan], by simp⟩
  | groupPostScans owned =>
    rename_i request group ecus
    refine ⟨fun _ => known.1 (by simp), ?_, ?_⟩
    · intro _ ecu ⟨groups, found, mem⟩ lock held
      exact owned ecu lock groups held found mem
    · intro deleted lock inHand
      cases ecus <;> cases inHand
  | groupPostDeletes =>
    exact ⟨fun _ => known.1 (by simp), fun _ => known.2.1 trivial, by simp⟩
  | groupPostCleaned =>
    rename_i request group deleted rest
    refine ⟨fun _ => known.1 (by simp), fun _ => known.2.1 trivial, ?_⟩
    intro deleted lock inHand
    cases rest <;> cases inHand
  | groupPostCreates creates =>
    refine ⟨fun _ => known.1 (by simp), fun _ => known.2.1 trivial, ?_⟩
    intro deleted lock inHand
    cases inHand
    exact creates.owner
  | _ => trivial

end

/-- The condition on a step: an ECU lock is not inserted while a functional-group POST of
another client, for a group of that ECU, is past its look at the ECU locks. -/
def Undisturbed (ecuFunctionalGroups : String → Except ApiError (List String)) (state : State) :
    Event → Prop
  | .resume pid answers =>
    ∀ request ecu lock, (state.processes pid).phase = .ecuPost request ecu (.testerPresent lock) →
      answers.testerPresent = .ok () →
      ∀ other otherRequest group point,
        (state.processes other).phase = .groupPost otherRequest group point →
        point.AfterScan → InGroup ecuFunctionalGroups ecu group →
        otherRequest.sub = request.sub
  | _ => True

/-- The locks go together, and what the processes rely on is true. -/
structure Reconciled (ecuFunctionalGroups : String → Except ApiError (List String))
    (state : State) : Prop where
  exclusion : Exclusion ecuFunctionalGroups state.locks
  knows : ∀ pid, (state.processes pid).phase.Knows ecuFunctionalGroups state.locks

namespace Reconciled

variable {state : State} {pid : Pid} {request : PostRequest} {lock : Lock}

section

variable (reconciled : Reconciled ecuFunctionalGroups state) (coherent : Coherent state)

include reconciled coherent

theorem insertEcu {ecu : String} {answers : Answers}
    (phase : (state.processes pid).phase = .ecuPost request ecu (.testerPresent lock))
    (started : answers.testerPresent = .ok ())
    (undisturbed : Undisturbed ecuFunctionalGroups state (.resume pid answers)) :
    Exclusion ecuFunctionalGroups (state.locks.setLock (.ecu ecu) (some lock)) ∧
    ∀ other, other ≠ pid → (state.processes other).phase.Knows ecuFunctionalGroups
      (state.locks.setLock (.ecu ecu) (some lock)) := by
  have own := reconciled.knows pid
  rw [phase] at own
  obtain ⟨vehicle, free, owner⟩ := own
  have vehicleOwned := vehicle (by simp)
  have noGroups := free (.inr ⟨lock, rfl⟩)
  have lockOwner := owner lock rfl
  constructor
  · constructor
    · intro vehicleLock entity found vehicleHeld held
      have sameVehicle : vehicleLock.owner = request.sub := vehicleOwned vehicleLock vehicleHeld
      rw [Locks.lockAt_setLock] at held
      split at held
      case isTrue =>
        cases held
        rw [lockOwner, sameVehicle]
      case isFalse => exact reconciled.exclusion.vehicle vehicleLock entity found vehicleHeld held
    · intro group name groupLock ecuLock inGroup groupHeld
      rw [Locks.lockAt_setLock, if_neg (by simp), noGroups group] at groupHeld
      cases groupHeld
  · intro other distinct
    have known := reconciled.knows other
    cases otherPhase : (state.processes other).phase with
    | ecuPost otherRequest name point =>
      rw [otherPhase] at known
      exact ⟨fun passed => (known.1 passed).setLock (by simp),
        fun passed => (known.2.1 passed).setLock (by simp [Entity.lockType]), known.2.2⟩
    | vehiclePost otherRequest point =>
      rw [otherPhase] at known
      refine ⟨fun passed => (known.1 passed).setLock (by simp), ?_⟩
      -- it still has the read guard of the ECU level
      intro passed
      subst passed
      have reads : (LockType.ecu, Mode.read) ∈ (state.processes other).holds := by
        simp [Process.holds, otherPhase, Phase.held]
      have writes : (LockType.ecu, Mode.write) ∈ (state.processes pid).holds := by
        simp [Process.holds, phase, Phase.held]
      exact absurd reads (coherent.exclusive pid other .ecu .read distinct.symm writes)
    | groupPost otherRequest group point =>
      rw [otherPhase] at known
      refine ⟨fun passed => (known.1 passed).setLock (by simp), ?_, known.2.2⟩
      intro passed name inGroup
      apply (known.2.1 passed name inGroup).setLock
      intro same
      cases same
      rw [lockOwner]
      exact (undisturbed request ecu lock phase started other otherRequest group point
        otherPhase passed inGroup).symm
    | _ => trivial

theorem insertVehicle (phase : (state.processes pid).phase = .vehiclePost request .functionalGroup)
    (owner : lock.owner = request.sub)
    (groupsOwned : ∀ group, state.locks.OwnedAt request.sub (.functionalGroup group)) :
    Exclusion ecuFunctionalGroups (state.locks.setLock .vehicle (some lock)) ∧
    ∀ other, other ≠ pid → (state.processes other).phase.Knows ecuFunctionalGroups
      (state.locks.setLock .vehicle (some lock)) := by
  have own := reconciled.knows pid
  rw [phase] at own
  have ecusOwned := own.2 rfl
  constructor
  · constructor
    · intro vehicleLock entity found vehicleHeld held
      cases vehicleHeld
      rw [Locks.lockAt_setLock] at held
      split at held
      case isTrue =>
        cases held
        rfl
      case isFalse ne =>
        rw [owner]
        cases entity with
        | vehicle => exact absurd rfl ne
        | ecu name => exact ecusOwned name found held
        | functionalGroup name => exact groupsOwned name found held
    · intro group name groupLock ecuLock inGroup groupHeld ecuHeld
      rw [Locks.lockAt_setLock, if_neg (by simp)] at groupHeld ecuHeld
      exact reconciled.exclusion.group group name groupLock ecuLock inGroup groupHeld ecuHeld
  · intro other distinct
    apply Phase.knows_of_no_vehicle
    intro mode
    apply coherent.exclusive pid other .vehicle mode distinct.symm
    simp [State.guards, Process.holds, phase, Phase.held]

theorem insertGroup {group : String} {deleted : List String}
    (phase : (state.processes pid).phase = .groupPost request group (.testerPresent deleted lock)) :
    Exclusion ecuFunctionalGroups (state.locks.setLock (.functionalGroup group) (some lock)) ∧
    ∀ other, other ≠ pid → (state.processes other).phase.Knows ecuFunctionalGroups
      (state.locks.setLock (.functionalGroup group) (some lock)) := by
  have own := reconciled.knows pid
  rw [phase] at own
  obtain ⟨vehicle, ecus, owner⟩ := own
  have vehicleOwned := vehicle (by simp)
  have ecusOwned := ecus trivial
  have lockOwner := owner deleted lock rfl
  constructor
  · constructor
    · intro vehicleLock entity found vehicleHeld held
      have sameVehicle : vehicleLock.owner = request.sub := vehicleOwned vehicleLock vehicleHeld
      rw [Locks.lockAt_setLock] at held
      split at held
      case isTrue =>
        cases held
        rw [lockOwner, sameVehicle]
      case isFalse => exact reconciled.exclusion.vehicle vehicleLock entity found vehicleHeld held
    · intro name ecu groupLock ecuLock inGroup groupHeld ecuHeld
      rw [Locks.lockAt_setLock, if_neg (by simp)] at ecuHeld
      rw [Locks.lockAt_setLock] at groupHeld
      split at groupHeld
      case isTrue same =>
        cases same
        cases groupHeld
        rw [lockOwner]
        exact ecusOwned ecu inGroup ecuLock ecuHeld
      case isFalse =>
        exact reconciled.exclusion.group name ecu groupLock ecuLock inGroup groupHeld ecuHeld
  · intro other distinct
    have known := reconciled.knows other
    cases otherPhase : (state.processes other).phase with
    | ecuPost otherRequest name point =>
      rw [otherPhase] at known
      refine ⟨fun passed => (known.1 passed).setLock (by simp), ?_, known.2.2⟩
      -- it still has the read guard of the functional-group level
      intro passed
      have reads : (LockType.functionalGroup, Mode.read) ∈ (state.processes other).holds := by
        rcases passed with rfl | ⟨inHand, rfl⟩ <;>
          simp [Process.holds, otherPhase, Phase.held]
      have writes : (LockType.functionalGroup, Mode.write) ∈ (state.processes pid).holds := by
        simp [Process.holds, phase, Phase.held]
      exact absurd reads (coherent.exclusive pid other .functionalGroup .read distinct.symm writes)
    | vehiclePost otherRequest point =>
      rw [otherPhase] at known
      exact ⟨fun passed => (known.1 passed).setLock (by simp),
        fun passed name => (known.2 passed name).setLock (by simp)⟩
    | groupPost otherRequest name point =>
      rw [otherPhase] at known
      exact ⟨fun passed => (known.1 passed).setLock (by simp),
        fun passed ecu inGroup => (known.2.1 passed ecu inGroup).setLock (by simp), known.2.2⟩
    | _ => trivial

theorem resume {answers : Answers} {action : Action} {next : Phase}
    (turn : Turn ecuFunctionalGroups state.view answers (state.processes pid).phase action next)
    (undisturbed : Undisturbed ecuFunctionalGroups state (.resume pid answers)) :
    Exclusion ecuFunctionalGroups (state.apply action).locks ∧
    next.Knows ecuFunctionalGroups (state.apply action).locks ∧
    ∀ other, other ≠ pid → (state.processes other).phase.Knows ecuFunctionalGroups
      (state.apply action).locks := by
  rcases turn.within_or_inserts with within | ⟨request, ecu, lock, phase, rfl, rfl, started⟩ |
    ⟨request, lock, task, phase, rfl, rfl, owner, groupsOwned⟩ |
    ⟨request, group, deleted, lock, phase, rfl, rfl⟩
  · exact ⟨reconciled.exclusion.within within, (turn.knows (reconciled.knows pid)).within within,
      fun other _ => (reconciled.knows other).within within⟩
  · obtain ⟨exclusion, others⟩ := reconciled.insertEcu coherent phase started undisturbed
    exact ⟨exclusion, trivial, others⟩
  · obtain ⟨exclusion, others⟩ := reconciled.insertVehicle coherent phase owner groupsOwned
    exact ⟨exclusion, trivial, others⟩
  · obtain ⟨exclusion, others⟩ := reconciled.insertGroup coherent phase
    exact ⟨exclusion, trivial, others⟩

end

theorem initial (ecuNames : List String) :
    Reconciled ecuFunctionalGroups (State.initial ecuNames) where
  exclusion := by
    constructor
    · intro vehicleLock entity lock vehicleHeld
      cases vehicleHeld
    · intro group ecu groupLock ecuLock inGroup groupHeld
      cases groupHeld
  knows := fun _ => trivial

theorem step {next : State} {event : Event} (reconciled : Reconciled ecuFunctionalGroups state)
    (coherent : Coherent state) (stepped : Step ecuFunctionalGroups state event next)
    (undisturbed : Undisturbed ecuFunctionalGroups state event) :
    Reconciled ecuFunctionalGroups next := by
  rcases State.step_cases stepped with ⟨call, rfl, rfl⟩ |
    ⟨pid, level, mode, rfl, waits, first, admitted, rfl⟩ |
    ⟨pid, answers, action, phase, rfl, ready, resumed, rfl⟩
  · refine ⟨reconciled.exclusion, ?_⟩
    intro pid
    rw [State.spawn_processes, State.spawn_locks]
    by_cases new : pid = state.spawned
    · subst new
      rw [Function.update_self]
      cases call <;> simp [Call.phase, Phase.Knows, GroupPostPoint.AfterScan]
    · rw [Function.update_of_ne new]
      exact reconciled.knows pid
  · refine ⟨reconciled.exclusion, ?_⟩
    intro other
    rw [State.handOver_phase]
    exact reconciled.knows other
  · obtain ⟨exclusion, own, others⟩ :=
      reconciled.resume coherent (resume_turn resumed) undisturbed
    refine ⟨exclusion, ?_⟩
    intro other
    rw [State.enter_processes, State.enter_locks]
    by_cases same : other = pid
    · subst same
      rw [Function.update_self]
      exact own
    · rw [Function.update_of_ne same]
      rcases State.apply_processes action state other with unchanged | aborted | ⟨-, task, new⟩
      · rw [unchanged]
        exact others other same
      · rw [aborted]
        trivial
      · rw [new]
        trivial

end Reconciled

/-- In every run without a disturbed functional-group POST the locks of the three levels
go together. -/
theorem exclusion_of_run {ecuNames : List String} {events : List Event} {state : State}
    (run : Run (fun state event next => Step ecuFunctionalGroups state event next ∧
      Undisturbed ecuFunctionalGroups state event) (State.initial ecuNames) events state) :
    Exclusion ecuFunctionalGroups state.locks := by
  have kept := run.keeps
    (fun _ state => Coherent state ∧ Reconciled ecuFunctionalGroups state)
    ⟨.initial ecuNames, .initial ecuNames⟩ ?_
  · exact kept.2.exclusion
  · intro _ _ _ _ ⟨coherent, reconciled⟩ ⟨stepped, undisturbed⟩
    exact ⟨coherent.step stepped, reconciled.step coherent stepped undisturbed⟩

def onePowertrain : String → Except ApiError (List String) :=
  fun _ => .ok ["powertrain"]

def groupThenVehicle : List Event :=
  [.arrive (.groupPost ⟨"alice", 10⟩ "powertrain"), .grant 0, .resume 0 (.atStart ""),
    .grant 0, .resume 0 (.atStart ""), .grant 0, .resume 0 (.atStart "a"),
    .resume 0 (.atStart "a"),
    .arrive (.vehiclePost ⟨"alice", 10⟩), .grant 2, .resume 2 (.atStart ""), .grant 2,
    .resume 2 (.atStart ""), .grant 2, .resume 2 (.atStart "b")]

def noEcuPost (state : State) : Event → Bool
  | .resume pid _ =>
    match (state.processes pid).phase with
    | .ecuPost .. => false
    | _ => true
  | _ => true

theorem undisturbed_of_noEcuPost {state : State} {event : Event}
    (quiet : noEcuPost state event = true) : Undisturbed ecuFunctionalGroups state event := by
  cases event with
  | resume pid answers =>
    intro request ecu lock phase
    simp only [noEcuPost, phase] at quiet
    cases quiet
  | _ => trivial

theorem exclusion_of_run_one_client : ∃ state groupLock vehicleLock,
      Run (fun state event next => Step onePowertrain state event next ∧
        Undisturbed onePowertrain state event) (State.initial ["engine"]) groupThenVehicle state ∧
      state.locks.lockAt (.functionalGroup "powertrain") = some groupLock ∧
      state.locks.vehicle = some vehicleLock ∧ Exclusion onePowertrain state.locks := by
  have run : ∃ state groupLock vehicleLock,
      Run (fun state event next => State.step onePowertrain state event = some next ∧
        noEcuPost state event = true) (State.initial ["engine"]) groupThenVehicle state ∧
      state.locks.lockAt (.functionalGroup "powertrain") = some groupLock ∧
      state.locks.vehicle = some vehicleLock :=
    ⟨_, _, _, Run.of_guarded_foldlM rfl, rfl, rfl⟩
  obtain ⟨state, groupLock, vehicleLock, run, groupHeld, vehicleHeld⟩ := run
  have undisturbed : Run (fun state event next => Step onePowertrain state event next ∧
      Undisturbed onePowertrain state event) (State.initial ["engine"]) groupThenVehicle
      state := by
    apply run.mono
    intro state event next ⟨taken, quiet⟩
    exact ⟨taken, undisturbed_of_noEcuPost quiet⟩
  exact ⟨state, groupLock, vehicleLock, undisturbed, groupHeld, vehicleHeld,
    exclusion_of_run undisturbed⟩

/-- An ECU POST past its check for group locks inserts its lock between the other client's look at
the ECU locks and its group lock. -/
def ecuPostDuringGroupPost : List Event :=
  [.arrive (.groupPost ⟨"alice", 10⟩ "powertrain"), .grant 0, .resume 0 (.atStart ""),
    .arrive (.ecuPost ⟨"bob", 10⟩ "engine"), .grant 1, .resume 1 (.atStart ""), .grant 1,
    .resume 1 (.atStart ""),
    -- alice finds no ECU lock
    .grant 0, .resume 0 (.atStart ""),
    .grant 1, .resume 1 (.atStart "b"), .resume 1 (.atStart "b"),
    .grant 0, .resume 0 (.atStart "a"), .resume 0 (.atStart "a")]

theorem exclusion_fails_between_scan_and_insert :
    ¬ ∀ (ecuFunctionalGroups : String → Except ApiError (List String))
        (ecuNames : List String) (events : List Event) (state : State),
      Run (Step ecuFunctionalGroups) (State.initial ecuNames) events state →
        Exclusion ecuFunctionalGroups state.locks := by
  intro everyStateExcludes
  have run : ∃ state groupLock ecuLock,
      Run (Step onePowertrain) (State.initial ["engine"]) ecuPostDuringGroupPost state ∧
      state.locks.lockAt (.functionalGroup "powertrain") = some groupLock ∧
      state.locks.lockAt (.ecu "engine") = some ecuLock ∧
      groupLock.owner = "alice" ∧ ecuLock.owner = "bob" :=
    ⟨_, _, _, Run.of_foldlM rfl, rfl, rfl, rfl, rfl⟩
  obtain ⟨state, groupLock, ecuLock, run, groupHeld, ecuHeld, groupOwner, ecuOwner⟩ := run
  have inGroup : InGroup onePowertrain "engine" "powertrain" :=
    ⟨_, rfl, List.mem_singleton_self _⟩
  have same :=
    (everyStateExcludes _ _ _ _ run).group _ _ groupLock ecuLock inGroup groupHeld ecuHeld
  rw [groupOwner, ecuOwner] at same
  exact absurd same (by decide)

end DiagnosticAdapter.Sovd
