import DiagnosticAdapter.Sovd.Lock
import Mathlib.Data.List.Perm.Basic

/-!
# The lock handlers

Each handler is a process that runs from one await to the next.  A `Phase` says at
which await it stands, and so which guards it holds and which one it waits for;
`resume` is the code up to the next await.  Awaits on the UDS layer that keep the
same guards and touch no lock are joined with their neighbour.
-/

namespace DiagnosticAdapter.Sovd

open Effects

structure PostRequest where
  sub : String
  lockExpiration : UInt64
  deriving DecidableEq, Repr

inductive Response where
  | created (lockId : String)
  | noContent
  /-- `validate_lock` and `validate_fg_lock` found no objection. -/
  | valid
  /-- A deletion task is through. -/
  | expired
  | error (error : ApiError)
  | panicked
  deriving DecidableEq, Repr

inductive EcuPostPoint where
  | vehicle
  | functionalGroup
  | ecu
  | testerPresent (lock : Lock)
  deriving DecidableEq, Repr

inductive VehiclePostPoint where
  | vehicle
  | ecu
  | functionalGroup
  deriving DecidableEq, Repr

/-- The loop over `functionalgroup_ecus` is given by the ECUs whose locks are deleted,
the one in hand and the rest. -/
inductive GroupPostPoint where
  | vehicle
  | scan
  | deleting (deleted : List String) (ecu lockId : String) (rest : List (String × String))
  | cleaning (deleted : List String) (rest : List (String × String))
  | functionalGroup (deleted : List String)
  | testerPresent (deleted : List String) (lock : Lock)
  deriving DecidableEq, Repr

inductive ValidatePoint where
  | own
  | vehicle
  deriving DecidableEq, Repr

/-- The levels the cleanup of a vehicle lock empties. -/
inductive SweptLevel where
  | ecu
  | functionalGroup
  deriving DecidableEq, Repr

def SweptLevel.lockType : SweptLevel → LockType
  | .ecu => .ecu
  | .functionalGroup => .functionalGroup

def SweptLevel.entity (name : String) : SweptLevel → Entity
  | .ecu => .ecu name
  | .functionalGroup => .functionalGroup name

inductive Phase where
  | absent
  | ecuPost (request : PostRequest) (ecu : String) (point : EcuPostPoint)
  | vehiclePost (request : PostRequest) (point : VehiclePostPoint)
  | groupPost (request : PostRequest) (group : String) (point : GroupPostPoint)
  | put (entity : Entity) (lockId sub : String) (lockExpiration : UInt64)
  | delete (entity : Entity) (lockId sub : String)
  | validateLock (sub ecu : String) (point : ValidatePoint)
  | validateFgLock (sub group : String) (point : ValidatePoint)
  | sleeping (task : DeletionTask)
  | expiring (task : DeletionTask)
  /-- The cleanup function of a deleted lock. -/
  | cleanup (entity : Entity) (response : Response)
  /-- The loops at the end of a vehicle lock's cleanup. -/
  | sweep (level : SweptLevel) (response : Response)
  | sweepCleanup (level : SweptLevel) (response : Response)
  | finished (response : Response)
  | aborted
  deriving DecidableEq, Repr

namespace Phase

/-- The guards held while the process waits in this phase. -/
def held : Phase → List (LockType × Mode)
  | .ecuPost _ _ .functionalGroup => [(.vehicle, .read)]
  | .ecuPost _ _ .ecu => [(.vehicle, .read), (.functionalGroup, .read)]
  | .ecuPost _ _ (.testerPresent _) =>
    [(.vehicle, .read), (.functionalGroup, .read), (.ecu, .write)]
  | .vehiclePost _ .ecu => [(.vehicle, .write)]
  | .vehiclePost _ .functionalGroup => [(.vehicle, .write), (.ecu, .read)]
  | .groupPost _ _ .scan => [(.vehicle, .read)]
  | .groupPost _ _ (.deleting ..) => [(.vehicle, .read)]
  | .groupPost _ _ (.cleaning ..) => [(.vehicle, .read), (.ecu, .write)]
  | .groupPost _ _ (.functionalGroup _) => [(.vehicle, .read)]
  | .groupPost _ _ (.testerPresent ..) => [(.vehicle, .read), (.functionalGroup, .write)]
  | .validateLock _ _ .vehicle => [(.ecu, .read)]
  | .validateFgLock _ _ .vehicle => [(.functionalGroup, .read)]
  | .cleanup entity _ => [(entity.lockType, .write)]
  | .sweep _ _ => [(.vehicle, .write)]
  | .sweepCleanup level _ => [(.vehicle, .write), (level.lockType, .write)]
  | _ => []

/-- The guard the process waits for in this phase. -/
def wanted : Phase → Option (LockType × Mode)
  | .ecuPost _ _ .vehicle => some (.vehicle, .read)
  | .ecuPost _ _ .functionalGroup => some (.functionalGroup, .read)
  | .ecuPost _ _ .ecu => some (.ecu, .write)
  | .vehiclePost _ .vehicle => some (.vehicle, .write)
  | .vehiclePost _ .ecu => some (.ecu, .read)
  | .vehiclePost _ .functionalGroup => some (.functionalGroup, .read)
  | .groupPost _ _ .vehicle => some (.vehicle, .read)
  | .groupPost _ _ .scan => some (.ecu, .read)
  | .groupPost _ _ (.deleting ..) => some (.ecu, .write)
  | .groupPost _ _ (.functionalGroup _) => some (.functionalGroup, .write)
  | .put entity .. => some (entity.lockType, .write)
  | .delete entity .. => some (entity.lockType, .write)
  | .validateLock _ _ .own => some (.ecu, .read)
  | .validateLock _ _ .vehicle => some (.vehicle, .read)
  | .validateFgLock _ _ .own => some (.functionalGroup, .read)
  | .validateFgLock _ _ .vehicle => some (.vehicle, .read)
  | .expiring task => some (task.entity.lockType, .write)
  | .sweep level _ => some (level.lockType, .write)
  | _ => none

end Phase

/-- What a handler does to the locks and the deletion tasks before its next await. -/
inductive Action where
  | keep
  /-- `get_mut` without an assignment. -/
  | getMut (entity : Entity)
  /-- `create_lock` has spawned the deletion task; the lock is not there yet. -/
  | schedule (entity : Entity) (task : DeletionTask)
  | insert (entity : Entity) (lock : Lock)
  | scheduleInsert (entity : Entity) (lock : Lock) (task : DeletionTask)
  /-- `update_lock`: abort the old task, spawn the new one. -/
  | reschedule (entity : Entity) (lock : Lock) (task : DeletionTask)
  /-- `update_lock` when the new task cannot be scheduled. -/
  | abort (lock : Lock)
  | delete (entity : Entity) (lock : Lock)
  /-- A deletion task deletes its lock without aborting itself. -/
  | expire (entity : Entity)
  deriving DecidableEq, Repr

/-- What the handlers read: the locks, the ids given out so far and the number the next
process gets. -/
structure View where
  locks : Locks
  issued : List String
  spawned : Pid

section Handlers

variable (ecuFunctionalGroups : String → Except ApiError (List String)) (view : View)
  (answers : Answers)

def createLock (entity : Entity) (request : PostRequest) : Except Response (Lock × DeletionTask) :=
  match expirationOf request.lockExpiration answers with
  | none => .error .panicked
  | some expiration =>
    if expiration < answers.utcCheck then
      .error (.error (.badRequest "Expiration date is in the past"))
    else
      match scheduleTokenDeletion entity answers.uuid expiration answers with
      | .error e => .error (.error e)
      | .ok task => .ok (⟨answers.uuid, expiration, request.sub, view.spawned⟩, task)

def updateLock (entity : Entity) (lockId sub : String) (lockExpiration : UInt64)
    (updated : Response) : Action × Response :=
  match validateClaim (some lockId) sub (view.locks.lockAt entity) with
  | .error e => (.getMut entity, .error e)
  | .ok () =>
    match view.locks.lockAt entity with
    | none => (.getMut entity, .error (.conflict "No lock found"))
    | some lock =>
      match expirationOf lockExpiration answers with
      | none => (.getMut entity, .panicked)
      | some expiration =>
        match scheduleTokenDeletion entity lock.id expiration answers with
        | .error e => (.abort lock, .error e)
        | .ok task => (.reschedule entity lock task, updated)

/-- `post_handler` once it holds the write guard; `created` goes on with a new lock. Ids are not
repeated. -/
def postHandler (entity : Entity) (request : PostRequest)
    (created : Lock → DeletionTask → Action × Phase) : Option (Action × Phase) :=
  match view.locks.lockAt entity with
  | some lock =>
    let (action, response) := updateLock view answers entity lock.id request.sub
      request.lockExpiration (.created lock.id)
    some (action, .finished response)
  | none =>
    if answers.uuid ∈ view.issued then
      none
    else
      match createLock view answers entity request with
      | .error response => some (.getMut entity, .finished response)
      | .ok (lock, task) => some (created lock task)

def insertLock (entity : Entity) (lock : Lock) : Action × Phase :=
  match answers.testerPresent with
  | .ok () => (.insert entity lock, .finished (.created lock.id))
  | .error e => (.keep, .finished (.error e))

/-- `delete_lock` up to the cleanup: the lock to delete. -/
def deleteLock (entity : Entity) (lockId sub : String) : Except ApiError Lock :=
  match validateClaim (some lockId) sub (view.locks.lockAt entity) with
  | .error e => .error e
  | .ok () =>
    match view.locks.lockAt entity with
    | some lock => .ok lock
    | none => .error (.notFound (some "No lock found"))

def ecuPost (request : PostRequest) (ecu : String) : EcuPostPoint → Option (Action × Phase)
  | .vehicle =>
    match validateClaim none request.sub view.locks.vehicle with
    | .error e => some (.keep, .finished (.error e))
    | .ok () => some (.keep, .ecuPost request ecu .functionalGroup)
  | .functionalGroup =>
    if isAnyLocked (view.locks.values .functionalGroup) then
      some (.keep, .finished (.error (.conflict "functional lock prevents setting ecu lock")))
    else
      some (.keep, .ecuPost request ecu .ecu)
  | .ecu =>
    postHandler view answers (.ecu ecu) request fun lock task =>
      (.schedule (.ecu ecu) task, .ecuPost request ecu (.testerPresent lock))
  | .testerPresent lock => some (insertLock answers (.ecu ecu) lock)

def vehiclePost (request : PostRequest) : VehiclePostPoint → Option (Action × Phase)
  | .vehicle =>
    match validateClaim none request.sub view.locks.vehicle with
    | .error e => some (.keep, .finished (.error e))
    | .ok () => some (.keep, .vehiclePost request .ecu)
  | .ecu =>
    match allLocksOwned (view.locks.values .ecu) request.sub with
    | .error e => some (.keep, .finished (.error e))
    | .ok () => some (.keep, .vehiclePost request .functionalGroup)
  | .functionalGroup =>
    match allLocksOwned (view.locks.values .functionalGroup) request.sub with
    | .error e => some (.keep, .finished (.error e))
    | .ok () =>
      postHandler view answers .vehicle request fun lock task =>
        (.scheduleInsert .vehicle lock task, .finished (.created lock.id))

/-- The loop over the ECU locks, in the iteration order of the map. -/
def scanEcus (group sub : String) : List String → Except ApiError (List (String × String))
  | [] => .ok []
  | ecu :: rest => do
    let groups ← ecuFunctionalGroups ecu
    if group ∈ groups then
      match view.locks.lockAt (.ecu ecu) with
      | some lock =>
        if lock.owner = sub then
          return (ecu, lock.id) :: (← scanEcus group sub rest)
        else
          throw (.conflict (s!"ECU {ecu} is locked by different user. This prevents " ++
            "setting functional group lock"))
      | none => scanEcus group sub rest
    else
      scanEcus group sub rest

/-- The next iteration of the loop that deletes the ECU locks, or its end. -/
def nextDeletion (deleted : List String) : List (String × String) → GroupPostPoint
  | (ecu, lockId) :: rest => .deleting deleted ecu lockId rest
  | [] => .functionalGroup deleted

def groupPost (request : PostRequest) (group : String) : GroupPostPoint → Option (Action × Phase)
  | .vehicle =>
    match validateClaim none request.sub view.locks.vehicle with
    | .error e => some (.keep, .finished (.error e))
    | .ok () => some (.keep, .groupPost request group .scan)
  | .scan =>
    if answers.order.Perm view.locks.ecu.keys then
      match scanEcus ecuFunctionalGroups view group request.sub answers.order with
      | .error e => some (.keep, .finished (.error e))
      | .ok ecus => some (.keep, .groupPost request group (nextDeletion [] ecus))
    else
      none
  | .deleting deleted ecu lockId rest =>
    match deleteLock view (.ecu ecu) lockId request.sub with
    | .error e => some (.getMut (.ecu ecu), .finished (.error e))
    | .ok lock =>
      some (.delete (.ecu ecu) lock, .groupPost request group (.cleaning (ecu :: deleted) rest))
  | .cleaning deleted rest => some (.keep, .groupPost request group (nextDeletion deleted rest))
  | .functionalGroup deleted =>
    postHandler view answers (.functionalGroup group) request fun lock task =>
      (.schedule (.functionalGroup group) task,
        .groupPost request group (.testerPresent deleted lock))
  | .testerPresent _ lock => some (insertLock answers (.functionalGroup group) lock)

/-- The common end of `validate_lock` and `validate_fg_lock`. -/
def validate (missing : String) (entity : Entity) (sub : String) : Response :=
  if (view.locks.lockAt entity).isNone && view.locks.vehicle.isNone then
    .error (.forbidden (some missing))
  else
    match allLocksOwned (view.locks.values .vehicle) sub with
    | .error e => .error e
    | .ok () =>
      match allLocksOwned (view.locks.values entity.lockType) sub with
      | .error e => .error e
      | .ok () => .valid

/-- `validate_lock` looks at the ECU locks a second time. -/
def validateLock (ecu sub : String) : Response :=
  match validate view "Required ECU lock is missing" (.ecu ecu) sub with
  | .valid =>
    match allLocksOwned (view.locks.values .ecu) sub with
    | .error e => .error e
    | .ok () => .valid
  | response => response

def validateFgLock (group sub : String) : Response :=
  validate view "Required functional group lock is missing" (.functionalGroup group) sub

/-- The loop head of the vehicle cleanup, under the level's write guard: the first held
lock in iteration order, if there is one. -/
def sweep (level : SweptLevel) (response : Response) : Option (Action × Phase) :=
  match answers.locked with
  | some name =>
    match view.locks.lockAt (level.entity name) with
    | some lock => some (.delete (level.entity name) lock, .sweepCleanup level response)
    | none => none
  | none =>
    if isAnyLocked (view.locks.values level.lockType) then
      none
    else
      match level with
      | .ecu => some (.keep, .sweep .functionalGroup response)
      | .functionalGroup => some (.keep, .finished response)

/-- The code of a process from the await it stands at to the next one. -/
def resume : Phase → Option (Action × Phase)
  | .ecuPost request ecu point => ecuPost view answers request ecu point
  | .vehiclePost request point => vehiclePost view answers request point
  | .groupPost request group point =>
    groupPost ecuFunctionalGroups view answers request group point
  | .put entity lockId sub lockExpiration =>
    let (action, response) :=
      updateLock view answers entity lockId sub lockExpiration .noContent
    some (action, .finished response)
  | .delete entity lockId sub =>
    match deleteLock view entity lockId sub with
    | .error e => some (.getMut entity, .finished (.error e))
    | .ok lock => some (.delete entity lock, .cleanup entity .noContent)
  | .validateLock sub ecu .own => some (.keep, .validateLock sub ecu .vehicle)
  | .validateLock sub ecu .vehicle =>
    some (.keep, .finished (validateLock view ecu sub))
  | .validateFgLock sub group .own => some (.keep, .validateFgLock sub group .vehicle)
  | .validateFgLock sub group .vehicle =>
    some (.keep, .finished (validateFgLock view group sub))
  | .sleeping task =>
    if task.target ≤ answers.instantNow then some (.keep, .expiring task) else none
  | .expiring task =>
    match view.locks.lockAt task.entity with
    | some lock =>
      if lock.id = task.lockId then
        some (.expire task.entity, .cleanup task.entity .expired)
      else
        some (.getMut task.entity, .finished .expired)
    | none => some (.getMut task.entity, .finished .expired)
  | .cleanup .vehicle response => some (.keep, .sweep .ecu response)
  | .cleanup _ response => some (.keep, .finished response)
  | .sweep level response => sweep view answers level response
  | .sweepCleanup level response => some (.keep, .sweep level response)
  | .absent => none
  | .finished _ => none
  | .aborted => none

end Handlers

end DiagnosticAdapter.Sovd
