import DiagnosticAdapter.Sovd.System

/-!
# What a handler can do between two awaits

`Turn` lists the transitions of `resume` with the facts that were checked on the way.
The invariants of the system are read off this list.
-/

namespace DiagnosticAdapter.Sovd

/-- The entry that `get_mut` may create holds no lock. -/
inductive Action.Quiet : Action → Prop where
  | keep : Quiet .keep
  | getMut (entity : Entity) : Quiet (.getMut entity)

/-- The deletion task a process is, as long as it can still delete its lock. -/
def Phase.task? : Phase → Option DeletionTask
  | .sleeping task => some task
  | .expiring task => some task
  | _ => none

/-- The lock that a phase may update, for which caller, until when, and under which id where the
request names one. -/
structure Update where
  entity : Entity
  lockId : Option String
  sub : String
  lockExpiration : UInt64

def Phase.update? : Phase → Option Update
  | .ecuPost request ecu .ecu => some ⟨.ecu ecu, none, request.sub, request.lockExpiration⟩
  | .vehiclePost request .functionalGroup =>
    some ⟨.vehicle, none, request.sub, request.lockExpiration⟩
  | .groupPost request group (.functionalGroup _) =>
    some ⟨.functionalGroup group, none, request.sub, request.lockExpiration⟩
  | .put entity lockId sub lockExpiration => some ⟨entity, some lockId, sub, lockExpiration⟩
  | _ => none

/-- The lock is there, and the caller may change it. -/
structure Update.Permits (update : Update) (view : View) (lock : Lock) : Prop where
  held : view.locks.lockAt update.entity = some lock
  owner : lock.owner = update.sub
  id : ∀ id, update.lockId = some id → lock.id = id

/-- A new lock and its deletion task, as `create_lock` makes them. -/
structure Creates (view : View) (entity : Entity) (request : PostRequest) (lock : Lock)
    (task : DeletionTask) : Prop where
  free : view.locks.lockAt entity = none
  owner : lock.owner = request.sub
  fresh : lock.id ∉ view.issued
  deletionTask : lock.deletionTask = view.spawned
  taskEntity : task.entity = entity
  taskId : task.lockId = lock.id
  taskExpiration : task.expiration = lock.expiration

inductive Turn (ecuFunctionalGroups : String → Except ApiError (List String)) (view : View)
    (answers : Answers) : Phase → Action → Phase → Prop where
  | ended {phase : Phase} {action : Action} {response : Response} :
      phase.task? = none → action.Quiet →
      Turn _ view answers phase action (.finished response)
  | ecuPostVehicle {request : PostRequest} {ecu : String} :
      (∀ lock, view.locks.vehicle = some lock → lock.owner = request.sub) →
      Turn _ view answers (.ecuPost request ecu .vehicle) .keep
        (.ecuPost request ecu .functionalGroup)
  | ecuPostGroups {request : PostRequest} {ecu : String} :
      (∀ group, view.locks.lockAt (.functionalGroup group) = none) →
      Turn _ view answers (.ecuPost request ecu .functionalGroup) .keep (.ecuPost request ecu .ecu)
  | ecuPostCreates {request : PostRequest} {ecu : String} {lock : Lock} {task : DeletionTask} :
      Creates view (.ecu ecu) request lock task →
      Turn _ view answers (.ecuPost request ecu .ecu) (.schedule (.ecu ecu) task)
        (.ecuPost request ecu (.testerPresent lock))
  | ecuPostInserts {request : PostRequest} {ecu : String} {lock : Lock} :
      answers.testerPresent = .ok () →
      Turn _ view answers (.ecuPost request ecu (.testerPresent lock)) (.insert (.ecu ecu) lock)
        (.finished (.created lock.id))
  | vehiclePostVehicle {request : PostRequest} :
      (∀ lock, view.locks.vehicle = some lock → lock.owner = request.sub) →
      Turn _ view answers (.vehiclePost request .vehicle) .keep (.vehiclePost request .ecu)
  | vehiclePostEcus {request : PostRequest} :
      (∀ ecu lock, view.locks.lockAt (.ecu ecu) = some lock → lock.owner = request.sub) →
      Turn _ view answers (.vehiclePost request .ecu) .keep (.vehiclePost request .functionalGroup)
  | vehiclePostCreates {request : PostRequest} {lock : Lock} {task : DeletionTask} :
      (∀ group lock, view.locks.lockAt (.functionalGroup group) = some lock →
        lock.owner = request.sub) →
      Creates view .vehicle request lock task →
      Turn _ view answers (.vehiclePost request .functionalGroup)
        (.scheduleInsert .vehicle lock task) (.finished (.created lock.id))
  | groupPostVehicle {request : PostRequest} {group : String} :
      (∀ lock, view.locks.vehicle = some lock → lock.owner = request.sub) →
      Turn _ view answers (.groupPost request group .vehicle) .keep (.groupPost request group .scan)
  | groupPostScans {request : PostRequest} {group : String} {ecus : List (String × String)} :
      (∀ ecu lock groups, view.locks.lockAt (.ecu ecu) = some lock →
        ecuFunctionalGroups ecu = .ok groups → group ∈ groups → lock.owner = request.sub) →
      Turn _ view answers (.groupPost request group .scan) .keep
        (.groupPost request group (nextDeletion [] ecus))
  | groupPostDeletes {request : PostRequest} {group ecu lockId : String}
      {deleted : List String} {rest : List (String × String)} {lock : Lock} :
      view.locks.lockAt (.ecu ecu) = some lock → lock.owner = request.sub →
      lock.id = lockId →
      Turn _ view answers (.groupPost request group (.deleting deleted ecu lockId rest))
        (.delete (.ecu ecu) lock) (.groupPost request group (.cleaning (ecu :: deleted) rest))
  | groupPostCleaned {request : PostRequest} {group : String} {deleted : List String}
      {rest : List (String × String)} :
      Turn _ view answers (.groupPost request group (.cleaning deleted rest)) .keep
        (.groupPost request group (nextDeletion deleted rest))
  | groupPostCreates {request : PostRequest} {group : String} {deleted : List String}
      {lock : Lock} {task : DeletionTask} :
      Creates view (.functionalGroup group) request lock task →
      Turn _ view answers (.groupPost request group (.functionalGroup deleted))
        (.schedule (.functionalGroup group) task)
        (.groupPost request group (.testerPresent deleted lock))
  | groupPostInserts {request : PostRequest} {group : String} {deleted : List String}
      {lock : Lock} :
      answers.testerPresent = .ok () →
      Turn _ view answers (.groupPost request group (.testerPresent deleted lock))
        (.insert (.functionalGroup group) lock) (.finished (.created lock.id))
  | reschedules {phase : Phase} {update : Update} {lock : Lock} {task : DeletionTask}
      {response : Response} :
      phase.update? = some update → update.Permits view lock →
      task.entity = update.entity → task.lockId = lock.id →
      (response = .created lock.id ∨ response = .noContent) →
      Turn _ view answers phase (.reschedule update.entity lock task) (.finished response)
  | unschedules {phase : Phase} {update : Update} {lock : Lock} {expiration : Nat}
      {e : ApiError} :
      phase.update? = some update → update.Permits view lock →
      expirationOf update.lockExpiration answers = some expiration →
      scheduleTokenDeletion update.entity lock.id expiration answers = .error e →
      Turn _ view answers phase (.abort lock) (.finished (.error e))
  | deletes {entity : Entity} {lockId sub : String} {lock : Lock} :
      view.locks.lockAt entity = some lock → lock.owner = sub → lock.id = lockId →
      Turn _ view answers (.delete entity lockId sub) (.delete entity lock)
        (.cleanup entity .noContent)
  | wakes {task : DeletionTask} :
      task.target ≤ answers.instantNow →
      Turn _ view answers (.sleeping task) .keep (.expiring task)
  | expires {task : DeletionTask} {lock : Lock} :
      view.locks.lockAt task.entity = some lock → lock.id = task.lockId →
      Turn _ view answers (.expiring task) (.expire task.entity) (.cleanup task.entity .expired)
  | lapses {task : DeletionTask} :
      (∀ lock, view.locks.lockAt task.entity = some lock → lock.id ≠ task.lockId) →
      Turn _ view answers (.expiring task) (.getMut task.entity) (.finished .expired)
  | validates {sub ecu : String} :
      Turn _ view answers (.validateLock sub ecu .own) .keep (.validateLock sub ecu .vehicle)
  | validatesFg {sub group : String} :
      Turn _ view answers (.validateFgLock sub group .own) .keep
        (.validateFgLock sub group .vehicle)
  | cleaned {response : Response} :
      Turn _ view answers (.cleanup .vehicle response) .keep (.sweep .ecu response)
  | sweepDeletes {level : SweptLevel} {response : Response} {name : String} {lock : Lock} :
      view.locks.lockAt (level.entity name) = some lock →
      Turn _ view answers (.sweep level response) (.delete (level.entity name) lock)
        (.sweepCleanup level response)
  | sweptEcus {response : Response} :
      Turn _ view answers (.sweep .ecu response) .keep (.sweep .functionalGroup response)
  | sweepCleaned {level : SweptLevel} {response : Response} :
      Turn _ view answers (.sweepCleanup level response) .keep (.sweep level response)

section Cases

variable {ecuFunctionalGroups : String → Except ApiError (List String)} {view : View}
  {answers : Answers} {phase next : Phase} {action : Action}

variable {request : PostRequest}

theorem createLock_ok {entity : Entity} {lock : Lock}
    {task : DeletionTask} (free : view.locks.lockAt entity = none)
    (fresh : answers.uuid ∉ view.issued)
    (created : createLock view answers entity request = .ok (lock, task)) :
    Creates view entity request lock task := by
  unfold createLock at created
  split at created
  · cases created
  · split at created
    · cases created
    · split at created
      · cases created
      · rename_i scheduled
        cases created
        obtain ⟨taskEntity, taskId, taskExpiration⟩ := scheduleTokenDeletion_ok scheduled
        exact ⟨free, rfl, fresh, rfl, taskEntity, taskId, taskExpiration⟩

variable {update : Update}

section

variable (updating : phase.update? = some update)

include updating

theorem Phase.task?_of_update? : phase.task? = none := by
  cases phase with
  | sleeping task | expiring task => cases updating
  | _ => rfl

/-- `update_lock`, told by what it does. -/
theorem updateLock_turn {lockId : String} {updated : Response}
    (named : ∀ id, update.lockId = some id → lockId = id)
    (success : updated = .noContent ∨ ∀ lock, view.locks.lockAt update.entity = some lock →
      updated = .created lock.id) :
    Turn ecuFunctionalGroups view answers phase
      (updateLock view answers update.entity lockId update.sub update.lockExpiration updated).1
      (.finished (updateLock view answers update.entity lockId update.sub update.lockExpiration
        updated).2) := by
  unfold updateLock
  split
  case h_1 => exact .ended (Phase.task?_of_update? updating) (.getMut _)
  case h_2 validated =>
    split
    case h_1 => exact .ended (Phase.task?_of_update? updating) (.getMut _)
    case h_2 lock held =>
      obtain ⟨owner, sameId⟩ := validateClaim_eq_ok_iff.mp validated lock held
      have permits : update.Permits view lock :=
        ⟨held, owner, fun id same => by rw [sameId lockId rfl, named id same]⟩
      split
      case h_1 => exact .ended (Phase.task?_of_update? updating) (.getMut _)
      case h_2 expiration expires =>
        split
        case h_1 e failed => exact .unschedules updating permits expires failed
        case h_2 task scheduled =>
          obtain ⟨taskEntity, taskId, -⟩ := scheduleTokenDeletion_ok scheduled
          refine .reschedules updating permits taskEntity taskId ?_
          exact success.symm.imp (fun created => created lock held) id

/-- `post_handler` updates a lock that is there and creates one that is not. -/
theorem postHandler_turn {created : Lock → DeletionTask → Action × Phase}
    (unnamed : update.lockId = none) (sub : update.sub = request.sub)
    (lockExpiration : update.lockExpiration = request.lockExpiration)
    (creates : ∀ lock task, Creates view update.entity request lock task →
      Turn ecuFunctionalGroups view answers phase (created lock task).1 (created lock task).2)
    (resumed : postHandler view answers update.entity request created = some (action, next)) :
    Turn ecuFunctionalGroups view answers phase action next := by
  unfold postHandler at resumed
  split at resumed
  case h_1 lock held =>
    cases resumed
    rw [← sub, ← lockExpiration]
    apply updateLock_turn updating
    · intro id named
      rw [unnamed] at named
      cases named
    · refine .inr fun other otherHeld => ?_
      rw [held] at otherHeld
      cases otherHeld
      rfl
  case h_2 free =>
    split at resumed
    case isTrue => cases resumed
    case isFalse fresh =>
      split at resumed
      case h_1 =>
        cases resumed
        exact .ended (Phase.task?_of_update? updating) (.getMut _)
      case h_2 lock task createdLock =>
        have turned := creates lock task (createLock_ok free fresh createdLock)
        rw [Option.some.injEq] at resumed
        rw [resumed] at turned
        exact turned

end

theorem deleteLock_ok {entity : Entity} {lockId sub : String} {lock : Lock}
    (found : deleteLock view entity lockId sub = .ok lock) :
    view.locks.lockAt entity = some lock ∧ lock.owner = sub ∧ lock.id = lockId := by
  unfold deleteLock at found
  split at found
  case h_1 => cases found
  case h_2 validated =>
    split at found
    case h_1 held' held =>
      cases found
      obtain ⟨owner, sameId⟩ := validateClaim_eq_ok_iff.mp validated lock held
      exact ⟨held, owner, sameId lockId rfl⟩
    case h_2 => cases found

theorem scanEcus_tail_ok {group sub head : String} {rest : List String}
    {ecus : List (String × String)}
    (scanned : scanEcus ecuFunctionalGroups view group sub (head :: rest) = .ok ecus) :
    ∃ restEcus, scanEcus ecuFunctionalGroups view group sub rest = .ok restEcus := by
  cases found : scanEcus ecuFunctionalGroups view group sub rest with
  | ok restEcus => exact ⟨restEcus, rfl⟩
  | error e =>
    -- the error of the rest, or an earlier one, is the error of the whole
    simp only [scanEcus, bind, Except.bind, found] at scanned
    split at scanned
    · cases scanned
    · split at scanned
      · split at scanned
        · split at scanned <;> cases scanned
        · cases scanned
      · cases scanned

theorem scanEcus_ok {group sub : String} {order : List String} {ecus : List (String × String)}
    (scanned : scanEcus ecuFunctionalGroups view group sub order = .ok ecus) :
    ∀ ecu ∈ order, ∀ lock groups, view.locks.lockAt (.ecu ecu) = some lock →
      ecuFunctionalGroups ecu = .ok groups → group ∈ groups → lock.owner = sub := by
  induction order generalizing ecus with
  | nil =>
    intro ecu mem
    cases mem
  | cons head rest ih =>
    intro ecu mem lock groups held lookup inGroup
    rcases List.mem_cons.mp mem with rfl | inRest
    · simp only [scanEcus, bind, Except.bind, lookup, if_pos inGroup, held] at scanned
      split at scanned
      case isTrue owner => exact owner
      case isFalse => cases scanned
    · obtain ⟨restEcus, restScanned⟩ := scanEcus_tail_ok scanned
      exact ih restScanned ecu inRest lock groups held lookup inGroup

theorem mem_order_of_lockAt {ecu : String} {lock : Lock} {order : List String}
    (complete : order.Perm view.locks.ecu.keys)
    (held : view.locks.lockAt (.ecu ecu) = some lock) : ecu ∈ order := by
  rw [complete.mem_iff, ← AList.mem_keys, ← AList.lookup_isSome]
  simp only [Locks.lockAt, Option.join_eq_some_iff] at held
  rw [held]
  rfl

theorem owner_of_validateClaim {sub : String} {lock : Option Lock}
    (validated : validateClaim none sub lock = .ok ()) :
    ∀ held, lock = some held → held.owner = sub :=
  fun held same => (validateClaim_eq_ok_iff.mp validated held same).1

theorem ecuPost_turn {ecu : String} {point : EcuPostPoint}
    (resumed : ecuPost view answers request ecu point = some (action, next)) :
    Turn ecuFunctionalGroups view answers (.ecuPost request ecu point) action next := by
  cases point with
  | vehicle =>
    simp only [ecuPost] at resumed
    split at resumed
    case h_1 =>
      cases resumed
      exact .ended rfl .keep
    case h_2 validated =>
      cases resumed
      exact .ecuPostVehicle (owner_of_validateClaim validated)
  | functionalGroup =>
    simp only [ecuPost] at resumed
    split at resumed
    case isTrue =>
      cases resumed
      exact .ended rfl .keep
    case isFalse unlocked =>
      cases resumed
      have free := Bool.eq_false_of_not_eq_true unlocked
      exact .ecuPostGroups fun group => lockAt_eq_none_of_not_isAnyLocked free rfl
  | ecu =>
    have updating : (Phase.ecuPost request ecu .ecu).update? =
        some ⟨.ecu ecu, none, request.sub, request.lockExpiration⟩ := rfl
    refine postHandler_turn updating rfl rfl rfl ?_ resumed
    intro lock task creates
    exact .ecuPostCreates creates
  | testerPresent lock =>
    simp only [ecuPost, insertLock, Option.some.injEq] at resumed
    split at resumed
    case h_1 started =>
      cases resumed
      exact .ecuPostInserts started
    case h_2 =>
      cases resumed
      exact .ended rfl .keep

theorem vehiclePost_turn {point : VehiclePostPoint}
    (resumed : vehiclePost view answers request point = some (action, next)) :
    Turn ecuFunctionalGroups view answers (.vehiclePost request point) action next := by
  cases point with
  | vehicle =>
    simp only [vehiclePost] at resumed
    split at resumed
    case h_1 =>
      cases resumed
      exact .ended rfl .keep
    case h_2 validated =>
      cases resumed
      exact .vehiclePostVehicle (owner_of_validateClaim validated)
  | ecu =>
    simp only [vehiclePost] at resumed
    split at resumed
    case h_1 =>
      cases resumed
      exact .ended rfl .keep
    case h_2 owned =>
      cases resumed
      exact .vehiclePostEcus fun ecu lock held => owner_of_allLocksOwned owned rfl held
  | functionalGroup =>
    simp only [vehiclePost] at resumed
    split at resumed
    case h_1 =>
      cases resumed
      exact .ended rfl .keep
    case h_2 owned =>
      have updating : (Phase.vehiclePost request .functionalGroup).update? =
          some ⟨.vehicle, none, request.sub, request.lockExpiration⟩ := rfl
      refine postHandler_turn updating rfl rfl rfl ?_ resumed
      intro lock task creates
      refine .vehiclePostCreates ?_ creates
      intro group other held
      exact owner_of_allLocksOwned owned rfl held

theorem groupPost_turn {group : String} {point : GroupPostPoint}
    (resumed : groupPost ecuFunctionalGroups view answers request group point =
      some (action, next)) :
    Turn ecuFunctionalGroups view answers (.groupPost request group point) action next := by
  cases point with
  | vehicle =>
    simp only [groupPost] at resumed
    split at resumed
    case h_1 =>
      cases resumed
      exact .ended rfl .keep
    case h_2 validated =>
      cases resumed
      exact .groupPostVehicle (owner_of_validateClaim validated)
  | scan =>
    simp only [groupPost] at resumed
    split at resumed
    case isFalse => cases resumed
    case isTrue complete =>
      split at resumed
      case h_1 =>
        cases resumed
        exact .ended rfl .keep
      case h_2 ecus scanned =>
        cases resumed
        refine .groupPostScans ?_
        intro ecu lock groups held
        exact scanEcus_ok scanned ecu (mem_order_of_lockAt complete held) lock groups held
  | deleting deleted ecu lockId rest =>
    simp only [groupPost] at resumed
    split at resumed
    case h_1 =>
      cases resumed
      exact .ended rfl (.getMut _)
    case h_2 lock found =>
      cases resumed
      obtain ⟨held, owner, sameId⟩ := deleteLock_ok found
      exact .groupPostDeletes held owner sameId
  | cleaning deleted rest =>
    cases resumed
    exact .groupPostCleaned
  | functionalGroup deleted =>
    have updating : (Phase.groupPost request group (.functionalGroup deleted)).update? =
        some ⟨.functionalGroup group, none, request.sub, request.lockExpiration⟩ := rfl
    refine postHandler_turn updating rfl rfl rfl ?_ resumed
    intro lock task creates
    exact .groupPostCreates creates
  | testerPresent deleted lock =>
    simp only [groupPost, insertLock, Option.some.injEq] at resumed
    split at resumed
    case h_1 started =>
      cases resumed
      exact .groupPostInserts started
    case h_2 =>
      cases resumed
      exact .ended rfl .keep

theorem sweep_turn {level : SweptLevel} {response : Response}
    (resumed : sweep view answers level response = some (action, next)) :
    Turn ecuFunctionalGroups view answers (.sweep level response) action next := by
  unfold sweep at resumed
  split at resumed
  case h_1 name picked =>
    split at resumed
    case h_1 lock held =>
      cases resumed
      exact .sweepDeletes held
    case h_2 => cases resumed
  case h_2 =>
    split at resumed
    case isTrue => cases resumed
    case isFalse =>
      cases level with
      | ecu =>
        cases resumed
        exact .sweptEcus
      | functionalGroup =>
        cases resumed
        exact .ended rfl .keep

theorem resume_turn
    (resumed : resume ecuFunctionalGroups view answers phase = some (action, next)) :
    Turn ecuFunctionalGroups view answers phase action next := by
  cases phase with
  | absent | finished response | aborted => cases resumed
  | ecuPost request ecu point => exact ecuPost_turn resumed
  | vehiclePost request point => exact vehiclePost_turn resumed
  | groupPost request group point => exact groupPost_turn resumed
  | put entity lockId sub lockExpiration =>
    simp only [resume, Option.some.injEq, Prod.mk.injEq] at resumed
    obtain ⟨rfl, rfl⟩ := resumed
    have updating : (Phase.put entity lockId sub lockExpiration).update? =
        some ⟨entity, some lockId, sub, lockExpiration⟩ := rfl
    refine updateLock_turn updating ?_ (.inl rfl)
    intro id named
    exact Option.some.inj named
  | delete entity lockId sub =>
    simp only [resume] at resumed
    split at resumed
    case h_1 =>
      cases resumed
      exact .ended rfl (.getMut _)
    case h_2 lock found =>
      cases resumed
      obtain ⟨held, owner, sameId⟩ := deleteLock_ok found
      exact .deletes held owner sameId
  | validateLock sub ecu point =>
    cases point with
    | own =>
      cases resumed
      exact .validates
    | vehicle =>
      cases resumed
      exact .ended rfl .keep
  | validateFgLock sub group point =>
    cases point with
    | own =>
      cases resumed
      exact .validatesFg
    | vehicle =>
      cases resumed
      exact .ended rfl .keep
  | sleeping task =>
    simp only [resume] at resumed
    split at resumed
    case isTrue awake =>
      cases resumed
      exact .wakes awake
    case isFalse => cases resumed
  | expiring task =>
    simp only [resume] at resumed
    split at resumed
    case h_1 lock held =>
      split at resumed
      case isTrue sameId =>
        cases resumed
        exact .expires held sameId
      case isFalse otherId =>
        cases resumed
        refine .lapses ?_
        intro other otherHeld
        rw [held] at otherHeld
        cases otherHeld
        exact otherId
    case h_2 free =>
      cases resumed
      refine .lapses ?_
      intro lock held
      rw [free] at held
      cases held
  | cleanup entity response =>
    cases entity with
    | vehicle =>
      cases resumed
      exact .cleaned
    | ecu name | functionalGroup name =>
      cases resumed
      exact .ended rfl .keep
  | sweep level response => exact sweep_turn resumed
  | sweepCleanup level response =>
    cases resumed
    exact .sweepCleaned

end Cases

end DiagnosticAdapter.Sovd
