import DiagnosticAdapter.Sovd.Exclusion

/-!
# Rebuilding the ECU entries

`Locks::update_entries` beside the lock requests.  The call takes the read guard of the
functional groups, gives it back, and then takes the write guard of the ECUs; like the
other processes it waits in the queues of the two locks.
-/

namespace DiagnosticAdapter.Sovd

open Effects Function

inductive LockUpdateError where
  | functionalGroupLocksHeld
  | ecuLocksHeld
  deriving DecidableEq, Repr

/-- The two places at which the call awaits a guard. -/
inductive UpdatePoint where
  | functionalGroup
  | ecu
  deriving DecidableEq, Repr

def UpdatePoint.wanted : UpdatePoint → LockType × Mode
  | .functionalGroup => (.functionalGroup, .read)
  | .ecu => (.ecu, .write)

inductive UpdatePhase where
  | running (point : UpdatePoint) (granted : Bool)
  | returned (result : Except LockUpdateError Unit)
  deriving DecidableEq, Repr

structure UpdateCall where
  newEcuNames : List String
  phase : UpdatePhase
  deriving DecidableEq, Repr

def UpdateCall.holds (call : UpdateCall) : List (LockType × Mode) :=
  match call.phase with
  | .running point true => [point.wanted]
  | _ => []

namespace LockHashMap

def retain (map : LockHashMap) (names : List String) : LockHashMap where
  entries := map.entries.filter fun entry => names.contains entry.1
  nodupKeys := map.nodupKeys.sublist List.filter_sublist

def orInsertNone (map : LockHashMap) (name : String) : LockHashMap :=
  if name ∈ map then map else map.insert name none

def rebuild (map : LockHashMap) (newEcuNames : List String) : LockHashMap :=
  newEcuNames.foldl orInsertNone (retain map newEcuNames)

end LockHashMap

/-- The lock server with its calls of `update_entries`, which are numbered among the
processes. -/
structure Server where
  state : State
  updates : Pid → Option UpdateCall

inductive ServerEvent where
  | base (event : Event)
  | arriveUpdate (newEcuNames : List String)
  | grantUpdate (pid : Pid)
  | resumeUpdate (pid : Pid)

namespace Server

def initial (ecuNames : List String) : Server := ⟨.initial ecuNames, fun _ => none⟩

/-- No other call of `update_entries` holds a guard that conflicts. -/
def updatesAdmit (server : Server) (pid : Pid) (level : LockType) (mode : Mode) : Bool :=
  (List.range server.state.spawned).all fun other =>
    other == pid || ((server.updates other).elim [] UpdateCall.holds).all
      fun (otherLevel, otherMode) =>
        otherLevel != level || !decide (mode.Conflicts otherMode)

def setUpdate (server : Server) (pid : Pid) (call : UpdateCall) : Server :=
  { server with updates := update server.updates pid (some call) }

def awaitGuard (server : Server) (pid : Pid) (newEcuNames : List String) (point : UpdatePoint) :
    Server :=
  let level := point.wanted.1
  { server with
    state := { server.state with
      queue := update server.state.queue level (server.state.queue level ++ [pid]) }
  }.setUpdate pid ⟨newEcuNames, .running point false⟩

def setEcus (server : Server) (map : LockHashMap) : Server :=
  { server with state := { server.state with
    locks := { server.state.locks with ecu := map } } }

def resumeUpdate (server : Server) (pid : Pid) (newEcuNames : List String) : UpdatePoint → Server
  | .functionalGroup =>
    if isAnyLocked (server.state.locks.values .functionalGroup) then
      server.setUpdate pid ⟨newEcuNames, .returned (.error .functionalGroupLocksHeld)⟩
    else
      server.awaitGuard pid newEcuNames .ecu
  | .ecu =>
    if isAnyLocked (server.state.locks.values .ecu) then
      server.setUpdate pid ⟨newEcuNames, .returned (.error .ecuLocksHeld)⟩
    else
      (server.setEcus (LockHashMap.rebuild server.state.locks.ecu newEcuNames)).setUpdate pid
        ⟨newEcuNames, .returned (.ok ())⟩

/-- A lock request gets its guard only if no call of `update_entries` stands in the way. -/
def admitsBase (server : Server) : Event → Bool
  | .grant pid =>
    match (server.state.processes pid).waits with
    | some (level, mode) => server.updatesAdmit pid level mode
    | none => false
  | _ => true

def step (ecuFunctionalGroups : String → Except ApiError (List String)) (server : Server) :
    ServerEvent → Option Server
  | .base event =>
    if server.admitsBase event then
      (server.state.step ecuFunctionalGroups event).map fun state => { server with state }
    else
      none
  | .arriveUpdate newEcuNames =>
    let pid := server.state.spawned
    some ({ server with state := { server.state with spawned := pid + 1 } }.awaitGuard pid
      newEcuNames .functionalGroup)
  | .grantUpdate pid =>
    match server.updates pid with
    | some ⟨newEcuNames, .running point false⟩ =>
      let (level, mode) := point.wanted
      if (server.state.queue level).head? = some pid ∧
          server.state.admits pid level mode ∧ server.updatesAdmit pid level mode then
        some ({ server with
          state := { server.state with
            queue := update server.state.queue level
              (server.state.queue level).tail }
        }.setUpdate pid ⟨newEcuNames, .running point true⟩)
      else
        none
    | _ => none
  | .resumeUpdate pid =>
    match server.updates pid with
    | some ⟨newEcuNames, .running point true⟩ =>
      some (server.resumeUpdate pid newEcuNames point)
    | _ => none

end Server

namespace LockHashMap

variable {map : LockHashMap} {name : String}

theorem mem_retain_iff (names : List String) :
    name ∈ retain map names ↔ name ∈ map ∧ name ∈ names := by
  simp only [AList.mem_keys, AList.keys, List.keys, retain, List.mem_map, List.mem_filter,
    List.contains_iff_mem]
  constructor
  · rintro ⟨entry, ⟨mem, kept⟩, rfl⟩
    exact ⟨⟨entry, mem, rfl⟩, kept⟩
  · rintro ⟨⟨entry, mem, rfl⟩, kept⟩
    exact ⟨entry, ⟨mem, kept⟩, rfl⟩

theorem mem_orInsertNone_iff (other : String) :
    name ∈ orInsertNone map other ↔ name = other ∨ name ∈ map := by
  rw [orInsertNone]
  split
  · rename_i present
    constructor
    · exact .inr
    · rintro (rfl | mem)
      · exact present
      · exact mem
  · exact AList.mem_insert map

theorem mem_rebuild_iff (newEcuNames : List String) :
    name ∈ rebuild map newEcuNames ↔ name ∈ newEcuNames := by
  have folded (names : List String) (start : LockHashMap) :
      name ∈ names.foldl orInsertNone start ↔ name ∈ names ∨ name ∈ start := by
    induction names generalizing start with
    | nil => simp
    | cons first names ih =>
      rw [List.foldl_cons, ih, mem_orInsertNone_iff, List.mem_cons]
      tauto
  rw [rebuild, folded, mem_retain_iff]
  tauto

def Free (map : LockHashMap) : Prop :=
  ∀ name, (map.lookup name).join = none

theorem Free.retain (free : Free map) (names : List String) : Free (retain map names) := by
  intro name
  cases found : (LockHashMap.retain map names).lookup name with
  | none => rfl
  | some lock =>
    have mem : ⟨name, lock⟩ ∈ map.entries :=
      List.mem_of_mem_filter (AList.mem_lookup_iff.1 found)
    have same : map.lookup name = some lock := AList.mem_lookup_iff.2 mem
    have none := free name
    rw [same] at none
    exact none

theorem Free.orInsertNone (free : Free map) (other : String) : Free (orInsertNone map other) := by
  intro name
  rw [LockHashMap.orInsertNone]
  split
  · exact free name
  · by_cases same : name = other
    · subst same
      rw [AList.lookup_insert]
      rfl
    · rw [AList.lookup_insert_ne same]
      exact free name

theorem Free.rebuild (free : Free map) (newEcuNames : List String) :
    Free (rebuild map newEcuNames) := by
  have folded (names : List String) (start : LockHashMap) (freeStart : Free start) :
      Free (names.foldl LockHashMap.orInsertNone start) := by
    induction names generalizing start with
    | nil => exact freeStart
    | cons first names ih =>
      exact ih _ (freeStart.orInsertNone first)
  exact folded newEcuNames _ (free.retain newEcuNames)

end LockHashMap

variable {ecuFunctionalGroups : String → Except ApiError (List String)}

theorem Turn.present_of_insert {view : View} {answers : Answers} {phase next : Phase}
    {entity : Entity} {lock : Lock}
    (turn : Turn ecuFunctionalGroups view answers phase (.insert entity lock) next) :
    answers.testerPresent = .ok () := by
  cases turn with
  | ended _ quiet => cases quiet
  | ecuPostInserts present => exact present
  | groupPostInserts present => exact present

namespace Server

variable {server next : Server} {event : ServerEvent} {pid : Pid}

/-- A call of `update_entries` has looked at the functional-group locks and still has to
rebuild the entries. -/
def Open (server : Server) : Prop :=
  ∃ pid newEcuNames granted, server.updates pid = some ⟨newEcuNames, .running .ecu granted⟩

/-- The event is the end of a POST that inserts a functional-group lock. -/
def InsertsGroupLock (server : Server) (event : ServerEvent) : Prop :=
  ∃ pid answers request group deleted lock, event = .base (.resume pid answers) ∧
    (server.state.processes pid).phase = .groupPost request group (.testerPresent deleted lock) ∧
    answers.testerPresent = .ok ()

def Step (ecuFunctionalGroups : String → Except ApiError (List String)) (server : Server)
    (event : ServerEvent) (next : Server) : Prop :=
  server.step ecuFunctionalGroups event = some next

theorem step_cases (stepped : Step ecuFunctionalGroups server event next) :
    (∃ baseEvent state, event = .base baseEvent ∧
      server.state.step ecuFunctionalGroups baseEvent = some state ∧
      next = { server with state }) ∨
    (∃ newEcuNames, event = .arriveUpdate newEcuNames ∧ next.state.locks = server.state.locks ∧
      next.updates = update server.updates server.state.spawned
        (some ⟨newEcuNames, .running .functionalGroup false⟩)) ∨
    (∃ pid newEcuNames point, event = .grantUpdate pid ∧
      server.updates pid = some ⟨newEcuNames, .running point false⟩ ∧
      next.state.locks = server.state.locks ∧
      next.updates = update server.updates pid (some ⟨newEcuNames, .running point true⟩)) ∨
    (∃ pid newEcuNames point, event = .resumeUpdate pid ∧
      server.updates pid = some ⟨newEcuNames, .running point true⟩ ∧
      next = server.resumeUpdate pid newEcuNames point) := by
  cases event with
  | base baseEvent =>
    simp only [Step, step] at stepped
    split at stepped
    · obtain ⟨state, taken, rfl⟩ := Option.map_eq_some_iff.1 stepped
      exact .inl ⟨baseEvent, state, rfl, taken, rfl⟩
    · cases stepped
  | arriveUpdate newEcuNames =>
    cases stepped
    exact .inr (.inl ⟨newEcuNames, rfl, rfl, rfl⟩)
  | grantUpdate pid =>
    simp only [Step, step] at stepped
    split at stepped
    · rename_i newEcuNames point waiting
      split at stepped
      · cases stepped
        exact .inr (.inr (.inl ⟨pid, newEcuNames, point, rfl, waiting, rfl, rfl⟩))
      · cases stepped
    · cases stepped
  | resumeUpdate pid =>
    simp only [Step, step] at stepped
    split at stepped
    · rename_i newEcuNames point granted
      cases stepped
      exact .inr (.inr (.inr ⟨pid, newEcuNames, point, rfl, granted, rfl⟩))
    · cases stepped

theorem noGroups_of_base {event : Event} {state : State}
    (stepped : server.state.step ecuFunctionalGroups event = some state)
    (free : server.state.locks.NoGroups)
    (quiet : ¬ server.InsertsGroupLock (.base event)) : state.locks.NoGroups := by
  obtain ⟨call, -, rfl⟩ | ⟨pid, level, mode, -, -, -, -, rfl⟩ |
    ⟨pid, answers, action, phase, rfl, -, resumed, rfl⟩ := State.step_cases stepped
  · exact free
  · exact free
  · rw [State.enter_locks]
    have turn := resume_turn resumed
    obtain within | ⟨request, ecu, lock, -, rfl, -, -⟩ | ⟨request, lock, task, -, rfl, -, -, -⟩ |
      ⟨request, group, deleted, lock, standing, rfl, -⟩ := turn.within_or_inserts
    · exact free.within within
    · exact free.setLock (by simp [Entity.lockType])
    · exact free.setLock (by simp [Entity.lockType])
    · exact absurd ⟨pid, answers, request, group, deleted, lock, rfl, standing,
        turn.present_of_insert⟩ quiet

/-- While the window is open no functional group is locked. -/
def Watched (server : Server) : Prop :=
  server.Open → server.state.locks.NoGroups

/-- No functional-group lock is inserted while the window is open. -/
def Undisturbed (server : Server) (event : ServerEvent) : Prop :=
  server.Open → ¬ server.InsertsGroupLock event

theorem open_of_update {call : UpdateCall}
    (updates : next.updates = update server.updates pid (some call))
    (outside : ∀ granted, call.phase ≠ .running .ecu granted) (opened : next.Open) :
    server.Open := by
  obtain ⟨other, newEcuNames, granted, running⟩ := opened
  rw [updates, update_apply] at running
  split at running
  · cases running
    exact absurd rfl (outside granted)
  · exact ⟨other, newEcuNames, granted, running⟩

theorem noGroups_of_isAnyLocked
    (free : isAnyLocked (server.state.locks.values .functionalGroup) = false) :
    server.state.locks.NoGroups :=
  fun _ => lockAt_eq_none_of_not_isAnyLocked free rfl

theorem Watched.step (watched : server.Watched)
    (stepped : Step ecuFunctionalGroups server event next)
    (undisturbed : server.Undisturbed event) : next.Watched := by
  intro opened
  obtain ⟨baseEvent, state, rfl, taken, rfl⟩ | ⟨newEcuNames, -, locks, updates⟩ |
    ⟨pid, newEcuNames, point, -, waiting, locks, updates⟩ |
    ⟨pid, newEcuNames, point, -, running, rfl⟩ := step_cases stepped
  · exact noGroups_of_base taken (watched opened) (undisturbed opened)
  · rw [locks]
    apply watched
    apply open_of_update updates _ opened
    rintro granted ⟨⟩
  · rw [locks]
    cases point with
    | functionalGroup =>
      apply watched
      apply open_of_update updates _ opened
      rintro granted ⟨⟩
    | ecu => exact watched ⟨pid, newEcuNames, false, waiting⟩
  · cases point with
    | functionalGroup =>
      rw [resumeUpdate] at opened ⊢
      split at opened
      · rename_i locked
        rw [if_pos locked]
        apply watched
        apply open_of_update rfl _ opened
        rintro granted ⟨⟩
      · rename_i free
        rw [if_neg free]
        exact noGroups_of_isAnyLocked (Bool.not_eq_true _ ▸ free)
    | ecu =>
      have free := watched ⟨pid, newEcuNames, true, running⟩
      rw [resumeUpdate]
      split <;> exact free

theorem Watched.initial (ecuNames : List String) : (Server.initial ecuNames).Watched := by
  rintro ⟨pid, newEcuNames, granted, ⟨⟩⟩

/-- At the end of the step nothing is locked and the ECU entries are those of the names. -/
structure Rebuilt (locks : Locks) (newEcuNames : List String) : Prop where
  noEcuLock : ∀ ecu, locks.lockAt (.ecu ecu) = none
  noGroupLock : ∀ group, locks.lockAt (.functionalGroup group) = none
  entries : ∀ name, name ∈ locks.ecu ↔ name ∈ newEcuNames

/-- A call that returns `Ok` rebuilds the entries while nothing is locked, its other steps leave
the locks as they are. -/
def Guarded (server next : Server) (pid : Pid) (newEcuNames : List String) : Prop :=
  if next.updates pid = some ⟨newEcuNames, .returned (.ok ())⟩ then
    Rebuilt next.state.locks newEcuNames
  else
    next.state.locks = server.state.locks

theorem guarded_of_resume {newEcuNames : List String} {point : UpdatePoint}
    (watched : server.Watched)
    (running : server.updates pid = some ⟨newEcuNames, .running point true⟩) :
    Guarded server (server.resumeUpdate pid newEcuNames point) pid newEcuNames := by
  cases point with
  | functionalGroup =>
    rw [resumeUpdate]
    split
    · rw [Guarded, if_neg]
      · rfl
      · simp [setUpdate]
    · rw [Guarded, if_neg]
      · rfl
      · simp [awaitGuard, setUpdate]
  | ecu =>
    have noGroups := watched ⟨pid, newEcuNames, true, running⟩
    rw [resumeUpdate]
    split
    · rw [Guarded, if_neg]
      · rfl
      · simp [setUpdate]
    · rename_i unlocked
      have free : LockHashMap.Free server.state.locks.ecu := by
        intro name
        have level : (Entity.ecu name).lockType = .ecu := rfl
        exact lockAt_eq_none_of_not_isAnyLocked (Bool.not_eq_true _ ▸ unlocked) level
      rw [Guarded, if_pos (by simp [setUpdate])]
      exact ⟨free.rebuild newEcuNames, noGroups,
        fun _ => LockHashMap.mem_rebuild_iff newEcuNames⟩

/-- In every run in which no functional-group lock is inserted between the two looks of a
call, each call rebuilds the entries under no lock or leaves them alone. -/
theorem guarded_of_run {ecuNames newEcuNames : List String} {events : List ServerEvent}
    (run : Run (fun server event next => Step ecuFunctionalGroups server event next ∧
      server.Undisturbed event) (Server.initial ecuNames) events server)
    (stepped : Step ecuFunctionalGroups server event next)
    (call : event = .grantUpdate pid ∨ event = .resumeUpdate pid)
    (running : ∃ point granted, server.updates pid = some ⟨newEcuNames, .running point granted⟩) :
    Guarded server next pid newEcuNames := by
  have watched : server.Watched := by
    apply run.keeps (fun _ server => server.Watched) (Watched.initial ecuNames)
    intro _ _ _ _ watched taken
    exact watched.step taken.1 taken.2
  obtain ⟨baseEvent, state, rfl, -, -⟩ | ⟨names, rfl, -, -⟩ |
    ⟨other, names, point, rfl, waiting, locks, updates⟩ |
    ⟨other, names, point, rfl, granted, rfl⟩ := step_cases stepped
  · simp at call
  · simp at call
  · obtain rfl : other = pid := by simpa using call
    rw [Guarded, if_neg]
    · exact locks
    · simp [updates]
  · obtain rfl : other = pid := by simpa using call
    obtain ⟨_, _, same⟩ := running
    rw [granted] at same
    cases same
    exact guarded_of_resume watched granted

/-- A rebuild while no request comes in, up to its last step. -/
def quietUpdate : List ServerEvent :=
  [.arriveUpdate ["brakes"], .grantUpdate 0, .resumeUpdate 0, .grantUpdate 0]

def isUpdateEvent : ServerEvent → Bool
  | .base _ => false
  | _ => true

theorem undisturbed_of_isUpdateEvent (isUpdate : isUpdateEvent event = true) :
    server.Undisturbed event := by
  rintro _ ⟨pid, answers, request, group, deleted, lock, rfl, -, -⟩
  cases isUpdate

theorem quietUpdate_guarded : ∃ server next, server.state.locks.ecu.keys = ["engine"] ∧
    next.updates 0 = some ⟨["brakes"], .returned (.ok ())⟩ ∧
    Guarded server next 0 ["brakes"] := by
  have run : ∃ server next,
      Run (fun server event next => server.step onePowertrain event = some next ∧
        isUpdateEvent event = true) (Server.initial ["engine"]) quietUpdate server ∧
      server.step onePowertrain (.resumeUpdate 0) = some next ∧
      server.state.locks.ecu.keys = ["engine"] ∧
      server.updates 0 = some ⟨["brakes"], .running .ecu true⟩ ∧
      next.updates 0 = some ⟨["brakes"], .returned (.ok ())⟩ :=
    ⟨_, _, Run.of_guarded_foldlM rfl, rfl, rfl, rfl, rfl⟩
  obtain ⟨server, next, run, stepped, before, running, returned⟩ := run
  have undisturbed : Run (fun server event next => Step onePowertrain server event next ∧
      server.Undisturbed event) (Server.initial ["engine"]) quietUpdate server := by
    apply run.mono
    intro server event next taken
    exact ⟨taken.1, undisturbed_of_isUpdateEvent taken.2⟩
  exact ⟨server, next, before, returned,
    guarded_of_run undisturbed stepped (.inr rfl) ⟨.ecu, true, running⟩⟩

/-- A functional-group POST that has scanned the ECUs inserts its lock while the call waits
for the ECU guard. -/
def groupPostDuringUpdate : List ServerEvent :=
  [.base (.arrive (.groupPost ⟨"alice", 10⟩ "powertrain")), .base (.grant 0),
    .base (.resume 0 (.atStart "")),
    .arriveUpdate ["brakes"], .grantUpdate 1,
    .base (.grant 0), .base (.resume 0 (.atStart "")),
    -- the call finds no functional-group lock
    .resumeUpdate 1,
    .base (.grant 0), .base (.resume 0 (.atStart "a")), .base (.resume 0 (.atStart "a")),
    .grantUpdate 1]

theorem rebuilt_under_group_lock :
    ¬ ∀ (ecuFunctionalGroups : String → Except ApiError (List String))
        (ecuNames newEcuNames : List String) (events : List ServerEvent) (server next : Server)
        (event : ServerEvent) (pid : Pid),
      Run (Step ecuFunctionalGroups) (Server.initial ecuNames) events server →
      Step ecuFunctionalGroups server event next →
      (event = .grantUpdate pid ∨ event = .resumeUpdate pid) →
      (∃ point granted, server.updates pid = some ⟨newEcuNames, .running point granted⟩) →
        Guarded server next pid newEcuNames := by
  intro everyEntryGuarded
  have run : ∃ server next lock,
      Run (Step onePowertrain) (Server.initial ["engine"]) groupPostDuringUpdate server ∧
      server.step onePowertrain (.resumeUpdate 1) = some next ∧
      server.updates 1 = some ⟨["brakes"], .running .ecu true⟩ ∧
      next.updates 1 = some ⟨["brakes"], .returned (.ok ())⟩ ∧
      next.state.locks.lockAt (.functionalGroup "powertrain") = some lock :=
    ⟨_, _, _, Run.of_foldlM rfl, rfl, rfl, rfl, rfl⟩
  obtain ⟨server, next, lock, run, stepped, running, returned, held⟩ := run
  have guarded := everyEntryGuarded _ _ _ _ _ _ _ _ run stepped (.inr rfl) ⟨.ecu, true, running⟩
  rw [Guarded, if_pos returned] at guarded
  rw [guarded.noGroupLock] at held
  cases held

end Server

end DiagnosticAdapter.Sovd
