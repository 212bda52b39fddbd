import DiagnosticAdapter.Kernel.Json
import DiagnosticAdapter.Sovd.Lock

/-!
# The executions of the operations of an ECU

The maps behind `/operations/{service}/executions` and behind the comparam executions,
with what the handlers do to them under the write guard.
-/

namespace DiagnosticAdapter.Sovd

open Kernel (Text JsonValue)

abbrev Uuid := Nat

inductive ExecutionStatus where
  | running
  | completed
  | failed
  | stopped
  deriving DecidableEq, Repr

abbrev Parameters := List (Text × JsonValue)

structure ServiceExecution where
  parameters : Parameters
  status : ExecutionStatus
  inFlight : Bool
  /-- False for a placeholder that was not finalized. -/
  isCreated : Bool

def ServiceExecution.placeholder : ServiceExecution := ⟨[], .running, false, false⟩

abbrev ServiceExecutions := AList fun _ : String => AList fun _ : Uuid => ServiceExecution

namespace ServiceExecutions

def find? (executions : ServiceExecutions) (service : String) (id : Uuid) :
    Option ServiceExecution :=
  (executions.lookup service).bind (·.lookup id)

/-- The placeholder that `reserve_execution` inserts under `entry(service).or_default()`. -/
def insertPlaceholder (service : String) (id : Uuid) (executions : ServiceExecutions) :
    ServiceExecutions :=
  executions.insert service (((executions.lookup service).getD ∅).insert id
    { ServiceExecution.placeholder with inFlight := true })

def modify (service : String) (id : Uuid) (change : ServiceExecution → ServiceExecution)
    (executions : ServiceExecutions) : ServiceExecutions :=
  match executions.lookup service with
  | none => executions
  | some opMap =>
    match opMap.lookup id with
    | none => executions
    | some execution => executions.insert service (opMap.insert id (change execution))

def shiftRemove (service : String) (id : Uuid) (executions : ServiceExecutions) :
    ServiceExecutions :=
  match executions.lookup service with
  | none => executions
  | some opMap => executions.insert service (opMap.erase id)

def hasRunning (service : String) (executions : ServiceExecutions) : Bool :=
  match executions.lookup service with
  | none => false
  | some opMap => opMap.entries.any fun entry => entry.2.status == .running

def any (test : String → ServiceExecution → Bool) (executions : ServiceExecutions) : Bool :=
  executions.entries.any fun entry => entry.2.entries.any fun execution =>
    test entry.1 execution.2

/-- `g.values().any(|m| !m.is_empty())`. -/
def isActive (executions : ServiceExecutions) : Bool :=
  executions.entries.any fun entry => !entry.2.entries.isEmpty

end ServiceExecutions

structure ComparamExecution where
  status : ExecutionStatus
  comparamOverride : Parameters

abbrev ComparamExecutions := AList fun _ : Uuid => ComparamExecution

def updateBlocked : ApiError := .conflict "Runtime update in progress, operation blocked"

def reserveExecution (service displayName : String) (updateInProgress : Bool) (id : Uuid)
    (executions : ServiceExecutions) : Except ApiError ServiceExecutions :=
  if updateInProgress then .error updateBlocked
  else if executions.hasRunning service then
    .error (.conflict s!"An execution for operation '{displayName}' is already in progress")
  else .ok (executions.insertPlaceholder service id)

def guardExecution (service : String) (id : Uuid) (conflictMsg : String)
    (executions : ServiceExecutions) : Except ApiError (ServiceExecution × ServiceExecutions) :=
  -- A placeholder is treated as non-existent.
  match (executions.find? service id).filter (·.isCreated) with
  | none => .error (.notFound (some s!"Execution with id {id} not found"))
  | some execution =>
    if execution.inFlight then .error (.conflict conflictMsg)
    else
      .ok ({ execution with inFlight := true },
        executions.modify service id ({ · with inFlight := true }))

def finalizeExecution (service : String) (id : Uuid)
    (update : ServiceExecution → ServiceExecution) : ServiceExecutions → ServiceExecutions :=
  .modify service id fun execution =>
    { update execution with isCreated := true, inFlight := false }

def removeReservedExecution (service : String) (id : Uuid) (executions : ServiceExecutions) :
    ServiceExecutions :=
  match executions.lookup service with
  | none => executions
  | some opMap =>
    let left := opMap.erase id
    if left.entries.isEmpty then executions.erase service else executions.insert service left

def clearInFlight (service : String) (id : Uuid) : ServiceExecutions → ServiceExecutions :=
  .modify service id ({ · with inFlight := false })

namespace ComparamExecutions

/-- `handler_write` once the flag is tested. -/
def create (id : Uuid) (parameters : Parameters) (executions : ComparamExecutions) :
    ComparamExecutions :=
  executions.insert id ⟨.running, parameters⟩

/-- `put`, with the parameters of the request added to those of the execution. -/
def put (id : Uuid) (parameters : Parameters) (executions : ComparamExecutions) :
    ComparamExecutions :=
  match executions.lookup id with
  | none => executions
  | some execution =>
    executions.insert id
      { execution with comparamOverride := execution.comparamOverride ++ parameters }

end ComparamExecutions

namespace ServiceExecutions

variable {executions : ServiceExecutions} {service other : String} {id otherId : Uuid}
  {change : ServiceExecution → ServiceExecution} {execution : ServiceExecution}

@[simp]
theorem find?_empty : find? ∅ service id = none := by
  simp [find?]

theorem find?_insert (opMap : AList fun _ : Uuid => ServiceExecution) :
    find? (executions.insert service opMap) other otherId =
      if other = service then opMap.lookup otherId else executions.find? other otherId := by
  by_cases same : other = service
  · subst same
    simp [find?]
  · simp [find?, same]

theorem find?_insertPlaceholder : (executions.insertPlaceholder service id).find? other otherId =
      if other = service ∧ otherId = id then
        some { ServiceExecution.placeholder with inFlight := true }
      else executions.find? other otherId := by
  rw [insertPlaceholder, find?_insert]
  by_cases same : other = service
  · subst same
    by_cases sameId : otherId = id
    · subst sameId
      simp
    · rw [if_pos rfl, AList.lookup_insert_ne sameId, if_neg (sameId ·.2)]
      cases found : executions.lookup other <;> simp [find?, found]
  · simp [same]

theorem find?_modify : (executions.modify service id change).find? other otherId =
      if other = service ∧ otherId = id then (executions.find? service id).map change
      else executions.find? other otherId := by
  unfold modify
  cases found : executions.lookup service with
  | none =>
    simp only
    split
    case isTrue same =>
      obtain ⟨rfl, rfl⟩ := same
      simp [find?, found]
    case isFalse => rfl
  | some opMap =>
    cases present : opMap.lookup id with
    | none =>
      simp only [present]
      split
      case isTrue same =>
        obtain ⟨rfl, rfl⟩ := same
        simp [find?, found, present]
      case isFalse => rfl
    | some execution =>
      simp only [present]
      rw [find?_insert]
      by_cases same : other = service
      · subst same
        by_cases sameId : otherId = id
        · subst sameId
          simp [find?, found, present]
        · simp [sameId, find?, found]
      · simp [same]

theorem find?_shiftRemove : (executions.shiftRemove service id).find? other otherId =
      if other = service ∧ otherId = id then none else executions.find? other otherId := by
  unfold shiftRemove
  cases found : executions.lookup service with
  | none =>
    simp only
    split
    case isTrue same =>
      obtain ⟨rfl, rfl⟩ := same
      simp [find?, found]
    case isFalse => rfl
  | some opMap =>
    simp only
    rw [find?_insert]
    by_cases same : other = service
    · subst same
      by_cases sameId : otherId = id
      · subst sameId
        simp
      · simp [sameId, find?, found]
    · simp [same]

theorem find?_removeReservedExecution :
    (removeReservedExecution service id executions).find? other otherId =
      if other = service ∧ otherId = id then none else executions.find? other otherId := by
  rw [← find?_shiftRemove]
  unfold removeReservedExecution shiftRemove
  cases found : executions.lookup service with
  | none => rfl
  | some opMap =>
    simp only
    split
    case isTrue nothing =>
      have noEntry : opMap.erase id = ∅ := by
        apply AList.ext
        simpa using nothing
      rw [noEntry, find?_insert]
      by_cases same : other = service
      · subst same
        simp [find?]
      · simp [find?, same]
    case isFalse => rfl

theorem find?_of_modify
    (present : (executions.modify service id change).find? other otherId = some execution) :
    ∃ before, executions.find? other otherId = some before := by
  rw [find?_modify] at present
  split at present
  case isTrue same =>
    obtain ⟨rfl, rfl⟩ := same
    obtain ⟨before, found, -⟩ := Option.map_eq_some_iff.mp present
    exact ⟨before, found⟩
  case isFalse => exact ⟨execution, present⟩

theorem find?_of_shiftRemove
    (present : (executions.shiftRemove service id).find? other otherId = some execution) :
    executions.find? other otherId = some execution := by
  rw [find?_shiftRemove] at present
  split at present
  case isTrue => cases present
  case isFalse => exact present

theorem find?_of_removeReservedExecution
    (present : (removeReservedExecution service id executions).find? other otherId =
      some execution) :
    executions.find? other otherId = some execution := by
  rw [find?_removeReservedExecution, ← find?_shiftRemove] at present
  exact find?_of_shiftRemove present

theorem any_iff {test : String → ServiceExecution → Bool} : executions.any test = true ↔
      ∃ service id execution, executions.find? service id = some execution ∧
        test service execution = true := by
  unfold any
  rw [List.any_eq_true]
  constructor
  · rintro ⟨⟨service, opMap⟩, mem, passes⟩
    obtain ⟨⟨id, execution⟩, inMap, passes⟩ := List.any_eq_true.mp passes
    have found : executions.lookup service = some opMap := AList.mem_lookup_iff.mpr mem
    have present : opMap.lookup id = some execution := AList.mem_lookup_iff.mpr inMap
    exact ⟨service, id, execution, by simp [find?, found, present], passes⟩
  · rintro ⟨service, id, execution, present, passes⟩
    obtain ⟨opMap, found, inMap⟩ := Option.bind_eq_some_iff.mp present
    exact ⟨⟨service, opMap⟩, AList.mem_lookup_iff.mp found,
      List.any_eq_true.mpr ⟨⟨id, execution⟩, AList.mem_lookup_iff.mp inMap, passes⟩⟩

theorem isActive_iff : executions.isActive = true ↔
      ∃ service id execution, executions.find? service id = some execution := by
  have isAny : executions.isActive = executions.any fun _ _ => true := by
    unfold isActive any
    apply congrArg executions.entries.any
    funext entry
    cases entry.2.entries <;> rfl
  rw [isAny, any_iff]
  simp

theorem not_running_of_hasRunning (idle : executions.hasRunning service = false)
    (present : executions.find? service id = some execution) : execution.status ≠ .running := by
  intro running
  unfold hasRunning at idle
  cases found : executions.lookup service with
  | none => simp [find?, found] at present
  | some opMap =>
    rw [found] at idle
    have mem : (⟨id, execution⟩ : Sigma fun _ : Uuid => ServiceExecution) ∈ opMap.entries := by
      apply AList.mem_lookup_iff.mp
      simpa [find?, found] using present
    have not := List.any_eq_false.mp idle _ mem
    simp [running] at not

end ServiceExecutions

/-- A `put` creates no execution. -/
theorem ComparamExecutions.lookup_of_put {executions : ComparamExecutions} {id other : Uuid}
    {parameters : Parameters} {execution : ComparamExecution}
    (present : (executions.put id parameters).lookup other = some execution) :
    ∃ before, executions.lookup other = some before := by
  unfold put at present
  split at present
  case h_1 => exact ⟨execution, present⟩
  case h_2 before found =>
    by_cases same : other = id
    · exact ⟨before, same ▸ found⟩
    · rw [AList.lookup_insert_ne same] at present
      exact ⟨execution, present⟩

end DiagnosticAdapter.Sovd
