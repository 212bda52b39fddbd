import DiagnosticAdapter.Sovd.OperationRequests

/-!
# Who holds an execution

A placeholder belongs to the POST that reserved it and a mark to the GET or DELETE that set
it.  What a resumption does is one of a few effects on the execution that its request holds.
-/

namespace DiagnosticAdapter.Sovd

open Effects

inductive ResumeEffect (answers : OperationAnswers) (executions : ServiceExecutions)
    (request : OperationRequest) : OperationRequest → ServiceExecutions → Prop where
  | reserves {service : String} {id : Uuid} {next : OperationRequest} :
      (∃ suppressService, request = .reserving service suppressService) →
      answers.updateInProgress = false → executions.hasRunning service = false →
      next.reserved = some (service, id) → next.marked = none →
      ResumeEffect answers executions request next (executions.insertPlaceholder service id)
  | marks {service : String} {id : Uuid} {next : OperationRequest}
      {execution : ServiceExecution} :
      request.holds = none → executions.find? service id = some execution →
      execution.isCreated = true → execution.inFlight = false → next.reserved = none →
      next.marked = some (service, id) →
      ResumeEffect answers executions request next
        (executions.modify service id ({ · with inFlight := true }))
  | moves {next : OperationRequest} :
      next.reserved = request.reserved → next.marked = request.marked →
      ResumeEffect answers executions request next executions
  | finalizes {service : String} {id : Uuid} {parameters : Parameters}
      {response : OperationResponse} :
      request.reserved = some (service, id) →
      ResumeEffect answers executions request (.returned response)
        (finalizeExecution service id ({ · with parameters := parameters }) executions)
  | removes {service : String} {id : Uuid} {response : OperationResponse}
      {left : ServiceExecutions} :
      request.holds = some (service, id) →
      (∀ other otherId, left.find? other otherId =
        if other = service ∧ otherId = id then none else executions.find? other otherId) →
      ResumeEffect answers executions request (.returned response) left
  | clears {service : String} {id : Uuid} {next : OperationRequest} :
      request.marked = some (service, id) → next.holds = none →
      ResumeEffect answers executions request next (clearInFlight service id executions)
  | stores {service : String} {id : Uuid} {parameters : Parameters}
      {response : OperationResponse} :
      request.holds = none →
      ResumeEffect answers executions request (.returned response)
        (executions.modify service id ({ · with parameters := parameters }))

variable {executions left : ServiceExecutions} {request next : OperationRequest}
  {answers : OperationAnswers} {service : String} {id : Uuid}

section

variable {suppressService isAsync : Bool} {parsed : Except ApiError Bool}

@[simp]
theorem reserved_parseAndStart :
    (parseAndStart service id suppressService isAsync parsed).reserved = some (service, id) := by
  unfold parseAndStart
  split
  · rfl
  · split <;> rfl

@[simp]
theorem marked_parseAndStart :
    (parseAndStart service id suppressService isAsync parsed).marked = none := by
  unfold parseAndStart
  split
  · rfl
  · split <;> rfl

end

theorem guardExecution_ok {conflictMsg : String} {stored : ServiceExecution}
    (guarded : guardExecution service id conflictMsg executions = .ok (stored, left)) :
    left = executions.modify service id ({ · with inFlight := true }) ∧
      ∃ execution, executions.find? service id = some execution ∧
        execution.isCreated = true ∧ execution.inFlight = false := by
  unfold guardExecution at guarded
  split at guarded
  case h_1 => cases guarded
  case h_2 execution found =>
    obtain ⟨present, isCreated⟩ := Option.filter_eq_some_iff.mp found
    split at guarded
    case isTrue => cases guarded
    case isFalse notInFlight =>
      cases guarded
      exact ⟨rfl, execution, present, isCreated, by simpa using notInFlight⟩

theorem reserveExecution_ok {displayName : String} {updateInProgress : Bool}
    (reserved : reserveExecution service displayName updateInProgress id executions = .ok left) :
    left = executions.insertPlaceholder service id ∧ executions.hasRunning service = false ∧
      updateInProgress = false := by
  unfold reserveExecution at reserved
  split at reserved
  case isTrue => cases reserved
  case isFalse noUpdate =>
    split at reserved
    case isTrue => cases reserved
    case isFalse idle =>
      cases reserved
      exact ⟨rfl, by simpa using idle, by simpa using noUpdate⟩

theorem ResumeEffect.of_resume
    (taken : resumeRequest answers executions request = some (next, left)) :
    ResumeEffect answers executions request next left := by
  unfold resumeRequest at taken
  split at taken
  case h_1 service suppressService =>
    split at taken
    case h_1 =>
      cases taken
      exact .moves rfl rfl
    case h_2 reserved equation =>
      obtain ⟨rfl, idle, noUpdate⟩ := reserveExecution_ok equation
      split at taken
      case isTrue =>
        cases taken
        exact .reserves ⟨suppressService, rfl⟩ noUpdate idle reserved_parseAndStart
          marked_parseAndStart
      case isFalse =>
        cases taken
        exact .reserves ⟨suppressService, rfl⟩ noUpdate idle rfl rfl
  case h_2 =>
    split at taken <;>
      cases taken <;> exact .moves rfl rfl
  case h_3 service id =>
    split at taken
    case h_1 =>
      cases taken
      exact .moves rfl rfl
    case h_2 =>
      cases taken
      exact .moves reserved_parseAndStart marked_parseAndStart
  case h_4 service id isAsync mapToJson =>
    split at taken
    case h_1 =>
      cases taken
      exact .moves rfl rfl
    case h_2 =>
      cases taken
      exact .moves rfl rfl
    case h_3 =>
      split at taken <;>
        cases taken <;> exact .moves rfl rfl
  case h_5 service id parameters =>
    cases taken
    exact .finalizes rfl
  case h_6 service id response =>
    cases taken
    exact .removes rfl fun _ _ => ServiceExecutions.find?_removeReservedExecution
  case h_7 service id suppressService =>
    split at taken
    case h_1 =>
      cases taken
      exact .moves rfl rfl
    case h_2 stored guardedExecutions equation =>
      obtain ⟨rfl, execution, present, isCreated, free⟩ := guardExecution_ok equation
      split at taken <;>
        cases taken <;> exact .marks rfl present isCreated free rfl rfl
  case h_8 service id =>
    split at taken <;>
      cases taken <;> exact .moves rfl rfl
  case h_9 service id suppressService force =>
    split at taken
    case h_1 =>
      cases taken
      exact .moves rfl rfl
    case h_2 stored guardedExecutions equation =>
      obtain ⟨rfl, execution, present, isCreated, free⟩ := guardExecution_ok equation
      cases taken
      exact .marks rfl present isCreated free rfl rfl
  case h_10 service id suppressService force =>
    split at taken
    case h_1 =>
      cases taken
      exact .moves rfl rfl
    all_goals
      split at taken <;>
        cases taken <;> exact .moves rfl rfl
  case h_11 service id response =>
    cases taken
    exact .removes rfl fun _ _ => ServiceExecutions.find?_shiftRemove
  case h_12 service id response store =>
    split at taken <;>
      cases taken <;> exact .clears rfl rfl
  case h_13 service id parameters =>
    cases taken
    exact .stores rfl
  all_goals cases taken

variable {key : String × Uuid}

theorem OperationRequest.holds_of_sending
    (sending : request.sending = some key) : request.holds = some key := by
  cases request <;> first | exact sending | cases sending

theorem OperationRequest.holds_of_reserved
    (reserved : request.reserved = some key) : request.holds = some key := by
  cases request <;> first | exact reserved | cases reserved

theorem OperationRequest.holds_of_marked
    (marked : request.marked = some key) : request.holds = some key := by
  cases request <;> first | exact marked | cases marked

theorem OperationRequest.isOpen_of_holds
    (holds : request.holds = some key) : request.isOpen = true := by
  cases request <;> first | rfl | cases holds

theorem eqIgnoreAsciiCase_iff {text other : String} : eqIgnoreAsciiCase text other = true ↔
      text.toList.map Char.toLower = other.toList.map Char.toLower := by
  simp [eqIgnoreAsciiCase]

theorem eqIgnoreAsciiCase_symm {text other : String}
    (same : eqIgnoreAsciiCase text other = true) : eqIgnoreAsciiCase other text = true :=
  eqIgnoreAsciiCase_iff.mpr (eqIgnoreAsciiCase_iff.mp same).symm

end DiagnosticAdapter.Sovd
