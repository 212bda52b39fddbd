import DiagnosticAdapter.Effects.Guards
import Mathlib.Algebra.Group.Nat.Defs
import Mathlib.Data.List.AList

/-!
# The locks of the SOVD server

Vehicle, ECU and functional-group locks of `cda-sovd`, with the pure functions its
lock handlers are made of.  Times are nanoseconds; what a handler reads from the
clocks, the id generator and the UDS layer comes in as `Answers`.
-/

namespace DiagnosticAdapter.Sovd

inductive ApiError where
  | badRequest (message : String)
  | forbidden (message : Option String)
  | notFound (message : Option String)
  | internalServerError (message : Option String)
  | conflict (message : String)
  | notResponding (message : String)
  | invalidParameter (possibleValues : List String)
  deriving DecidableEq, Repr

inductive LockType where
  | vehicle
  | ecu
  | functionalGroup
  deriving DecidableEq, Repr

/-- What a lock is taken on; the name is the key in the map of its level. -/
inductive Entity where
  | vehicle
  | ecu (name : String)
  | functionalGroup (name : String)
  deriving DecidableEq, Repr

def Entity.lockType : Entity → LockType
  | .vehicle => .vehicle
  | .ecu _ => .ecu
  | .functionalGroup _ => .functionalGroup

abbrev Pid := Nat

/-- The cleanup function of a lock is determined by its level and left out. -/
structure Lock where
  id : String
  expiration : Nat
  owner : String
  deletionTask : Pid
  deriving DecidableEq, Repr

abbrev LockHashMap := AList fun _ : String => Option Lock

structure Locks where
  vehicle : Option Lock
  ecu : LockHashMap
  functionalGroup : LockHashMap

namespace Locks

def new (ecuNames : List String) : Locks where
  vehicle := none
  ecu := ecuNames.foldl (fun map name => map.insert name none) ∅
  functionalGroup := ∅

def lockAt (locks : Locks) : Entity → Option Lock
  | .vehicle => locks.vehicle
  | .ecu name => (locks.ecu.lookup name).join
  | .functionalGroup name => (locks.functionalGroup.lookup name).join

/-- The assignment through the reference that `get_mut` returns. -/
def setLock (entity : Entity) (lock : Option Lock) (locks : Locks) : Locks :=
  match entity with
  | .vehicle => { locks with vehicle := lock }
  | .ecu name => { locks with ecu := locks.ecu.insert name lock }
  | .functionalGroup name =>
    { locks with functionalGroup := locks.functionalGroup.insert name lock }

/-- `WriteLock::get_mut`: a missing entry is created without a lock. -/
def getMut (entity : Entity) (locks : Locks) : Locks :=
  locks.setLock entity (locks.lockAt entity)

/-- The part of `WriteLock::delete` before the cleanup function runs. -/
def delete (entity : Entity) (locks : Locks) : Locks :=
  match entity with
  | .vehicle => { locks with vehicle := none }
  | .ecu name => { locks with ecu := locks.ecu.erase name }
  | .functionalGroup name =>
    { locks with functionalGroup := locks.functionalGroup.erase name }

@[simp]
theorem lockAt_setLock (entity other : Entity) (lock : Option Lock) (locks : Locks) :
    (locks.setLock entity lock).lockAt other =
      if other = entity then lock else locks.lockAt other := by
  cases entity <;> cases other <;> simp only [setLock, lockAt, reduceCtorEq, if_true, if_false]
  case ecu.ecu name other =>
    by_cases same : other = name
    · subst same
      simp
    · simp [same, AList.lookup_insert_ne same]
  case functionalGroup.functionalGroup name other =>
    by_cases same : other = name
    · subst same
      simp
    · simp [same, AList.lookup_insert_ne same]

@[simp]
theorem lockAt_getMut (entity : Entity) (locks : Locks) :
    (locks.getMut entity).lockAt = locks.lockAt := by
  funext other
  rw [getMut, lockAt_setLock]
  split
  case isTrue same => rw [same]
  case isFalse => rfl

@[simp]
theorem lockAt_delete (entity other : Entity) (locks : Locks) : (locks.delete entity).lockAt other =
      if other = entity then none else locks.lockAt other := by
  cases entity <;> cases other <;> simp only [delete, lockAt, reduceCtorEq, if_true, if_false]
  case ecu.ecu name other =>
    by_cases same : other = name
    · subst same
      simp
    · simp [same, AList.lookup_erase_ne same]
  case functionalGroup.functionalGroup name other =>
    by_cases same : other = name
    · subst same
      simp
    · simp [same, AList.lookup_erase_ne same]

/-- The locks held on a level other than the vehicle, by name. -/
def values (locks : Locks) : LockType → List (Option Lock)
  | .vehicle => [locks.vehicle]
  | .ecu => locks.ecu.entries.map Sigma.snd
  | .functionalGroup => locks.functionalGroup.entries.map Sigma.snd

/-- Every value of a level belongs to one of its entities, and every held lock is there. -/
theorem mem_values_iff {locks : Locks} {lockType : LockType} {lock : Lock} :
    some lock ∈ locks.values lockType ↔
      ∃ entity : Entity, entity.lockType = lockType ∧ locks.lockAt entity = some lock := by
  have inMap (map : LockHashMap) :
      some lock ∈ map.entries.map Sigma.snd ↔ ∃ name, (map.lookup name).join = some lock := by
    simp only [List.mem_map, Option.join_eq_some_iff]
    constructor
    · intro ⟨⟨name, value⟩, mem, same⟩
      simp only at same
      subst same
      exact ⟨name, AList.mem_lookup_iff.mpr mem⟩
    · intro ⟨name, found⟩
      exact ⟨⟨name, some lock⟩, AList.mem_lookup_iff.mp found, rfl⟩
  cases lockType with
  | vehicle =>
    constructor
    · intro mem
      exact ⟨.vehicle, rfl, (List.mem_singleton.mp mem).symm⟩
    · intro ⟨entity, level, found⟩
      cases entity with
      | vehicle => exact List.mem_singleton.mpr found.symm
      | ecu name | functionalGroup name => cases level
  | ecu =>
    rw [values, inMap]
    constructor
    · intro ⟨name, found⟩
      exact ⟨.ecu name, rfl, found⟩
    · intro ⟨entity, level, found⟩
      cases entity with
      | ecu name => exact ⟨name, found⟩
      | vehicle | functionalGroup name => cases level
  | functionalGroup =>
    rw [values, inMap]
    constructor
    · intro ⟨name, found⟩
      exact ⟨.functionalGroup name, rfl, found⟩
    · intro ⟨entity, level, found⟩
      cases entity with
      | functionalGroup name => exact ⟨name, found⟩
      | vehicle | ecu name => cases level

end Locks

/-- Whether a level, given by its values, has a held lock. -/
def isAnyLocked (values : List (Option Lock)) : Bool :=
  values.any Option.isSome

def validateClaim (lockId : Option String) (sub : String) : Option Lock → Except ApiError Unit
  | some lock =>
    if sub ≠ lock.owner ∨ lockId.any (· ≠ lock.id) then
      .error (.forbidden (some "lock validation failed"))
    else
      .ok ()
  | none => .ok ()

/-- All errors are the same, so the order of the values does not matter. -/
def allLocksOwned (values : List (Option Lock)) (sub : String) : Except ApiError Unit :=
  forM values (validateClaim none sub)

theorem validateClaim_eq_ok_iff {lockId : Option String} {sub : String} {lock : Option Lock} :
    validateClaim lockId sub lock = .ok () ↔
      ∀ held, lock = some held → held.owner = sub ∧ ∀ id, lockId = some id → held.id = id := by
  cases lock with
  | none => simp [validateClaim]
  | some held =>
    cases lockId with
    | none => simp [validateClaim, eq_comm]
    | some id =>
      simp only [validateClaim, Option.any_some, decide_eq_true_eq, Option.some.injEq, forall_eq']
      constructor
      · intro result
        by_cases foreign : sub ≠ held.owner ∨ id ≠ held.id
        · simp [foreign] at result
        · simp only [not_or, ne_eq, not_not] at foreign
          exact ⟨foreign.1.symm, foreign.2.symm⟩
      · intro ⟨owner, same⟩
        simp [owner, same]

section

variable {locks : Locks} {lockType : LockType} {entity : Entity}

theorem owner_of_allLocksOwned {sub : String}
    (owned : allLocksOwned (locks.values lockType) sub = .ok ()) {lock : Lock}
    (level : entity.lockType = lockType) (held : locks.lockAt entity = some lock) :
    lock.owner = sub := by
  have mem : some lock ∈ locks.values lockType := Locks.mem_values_iff.mpr ⟨entity, level, held⟩
  generalize locks.values lockType = values at owned mem
  induction values with
  | nil => cases mem
  | cons value values ih =>
    rw [allLocksOwned, List.forM_cons] at owned
    cases checked : validateClaim none sub value with
    | error e => simp [checked, bind, Except.bind] at owned
    | ok =>
      rw [checked] at owned
      rcases List.mem_cons.mp mem with rfl | inRest
      · exact (validateClaim_eq_ok_iff.mp checked lock rfl).1
      · exact ih owned inRest

theorem lockAt_eq_none_of_not_isAnyLocked (free : isAnyLocked (locks.values lockType) = false)
    (level : entity.lockType = lockType) : locks.lockAt entity = none := by
  cases held : locks.lockAt entity with
  | none => rfl
  | some lock =>
    have mem := Locks.mem_values_iff.mpr ⟨entity, level, held⟩
    simp only [isAnyLocked, List.any_eq_false] at free
    exact absurd rfl (free _ mem)

end

def nanosPerSecond : Nat := 1000000000

def i64Max : Nat := 2 ^ 63 - 1

/-- The last instant of `DateTime<Utc>`, 262142-12-31T23:59:59.999999999Z. -/
def maxUtc : Nat := 8210266876799 * nanosPerSecond + 999999999

/-- `Instant` counts its seconds in an `i64`. -/
def maxInstant : Nat := i64Max * nanosPerSecond + 999999999

/-- What the clocks, the id generator, the UDS layer and the iteration order of a hash
map give to a handler between two of its awaits. -/
structure Answers where
  utcNow : Nat
  utcFallback : Nat
  utcCheck : Nat
  utcSchedule : Nat
  instantNow : Nat
  uuid : String
  testerPresent : Except ApiError Unit
  order : List String
  locked : Option String

/-- `DateTime::from(Request)`; `none` is the panic of `TimeDelta::seconds`. -/
def expirationOf (lockExpiration : UInt64) (answers : Answers) : Option Nat :=
  let seconds := min lockExpiration.toNat i64Max
  if seconds > i64Max / 1000 then
    none
  else if answers.utcNow + seconds * nanosPerSecond ≤ maxUtc then
    some (answers.utcNow + seconds * nanosPerSecond)
  else
    some answers.utcFallback

/-- The arguments and the clock readings a deletion task was scheduled with. -/
structure DeletionTask where
  entity : Entity
  lockId : String
  expiration : Nat
  utc : Nat
  instant : Nat
  deriving DecidableEq, Repr

/-- When the task wakes up: whole seconds after it was scheduled. -/
def DeletionTask.target (task : DeletionTask) : Nat :=
  task.instant + (task.expiration - task.utc) / nanosPerSecond * nanosPerSecond

def scheduleTokenDeletion (entity : Entity) (lockId : String) (expiration : Nat)
    (answers : Answers) : Except ApiError DeletionTask :=
  if expiration < answers.utcSchedule then
    .error (.badRequest "expiration date is in the past")
  else
    let task : DeletionTask :=
      ⟨entity, lockId, expiration, answers.utcSchedule, answers.instantNow⟩
    if task.target > maxInstant then
      .error (.internalServerError (some "Timeout is too large"))
    else
      .ok task

/-- The expiration is not in the past, and the task's wake-up time can be represented. -/
def Answers.Schedules (answers : Answers) (expiration : Nat) : Prop :=
  answers.utcSchedule ≤ expiration ∧
    answers.instantNow + (expiration - answers.utcSchedule) / nanosPerSecond * nanosPerSecond ≤
      maxInstant

instance (answers : Answers) (expiration : Nat) : Decidable (answers.Schedules expiration) :=
  inferInstanceAs (Decidable (_ ∧ _))

theorem scheduleTokenDeletion_eq_ok {answers : Answers} {expiration : Nat}
    (schedules : answers.Schedules expiration) (entity : Entity) (lockId : String) :
    ∃ task, scheduleTokenDeletion entity lockId expiration answers = .ok task := by
  obtain ⟨future, bounded⟩ := schedules
  unfold scheduleTokenDeletion
  rw [if_neg (not_lt.mpr future)]
  exact ⟨_, if_neg (not_lt.mpr bounded)⟩

theorem scheduleTokenDeletion_ok {entity : Entity} {lockId : String} {expiration : Nat}
    {answers : Answers} {task : DeletionTask}
    (scheduled : scheduleTokenDeletion entity lockId expiration answers = .ok task) :
    task.entity = entity ∧ task.lockId = lockId ∧ task.expiration = expiration := by
  unfold scheduleTokenDeletion at scheduled
  split at scheduled
  · cases scheduled
  · simp only at scheduled
    split at scheduled
    · cases scheduled
    · cases scheduled
      exact ⟨rfl, rfl, rfl⟩

end DiagnosticAdapter.Sovd
