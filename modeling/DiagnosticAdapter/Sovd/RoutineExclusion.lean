import DiagnosticAdapter.Sovd.OperationOwnership

/-!
# Routine executions exclude each other

As long as no request is dropped while it holds an execution, and no routine is started
under a second spelling while it runs, an execution has one holder at most and a routine one
execution at most.
-/

namespace DiagnosticAdapter.Sovd

open Effects Function

def ServiceExecution.isHeld (execution : ServiceExecution) : Bool :=
  !execution.isCreated || execution.inFlight

namespace OperationState

/-- What the executions of an ECU are meant to obey. -/
structure Exclusive (state : OperationState) : Prop where
  oneRunning : ∀ service id execution other otherId otherExecution,
    state.executions.find? service id = some execution →
    state.executions.find? other otherId = some otherExecution →
    execution.status = .running → otherExecution.status = .running →
    eqIgnoreAsciiCase service other = true → service = other ∧ id = otherId
  oneRequest : ∀ request other key, (state.requests request).sending = some key →
    (state.requests other).sending = some key → request = other
  held : ∀ service id execution, state.executions.find? service id = some execution →
    execution.isHeld = true →
    ∃ request, (state.requests request).isOpen = true ∧
      (state.requests request).holds = some (service, id)

/-- A routine is running that a client has spelled in another way. -/
def runsOtherSpelling (service : String) (executions : ServiceExecutions) : Bool :=
  executions.any fun other execution =>
    execution.status == .running && eqIgnoreAsciiCase other service && other != service

/-- The requests go on undropped while they hold an execution, and no routine is reserved
that is running under another spelling. -/
def permits (state : OperationState) : OperationEvent → Bool
  | .drop request => (state.requests request).holds.isNone
  | .resume request answers =>
    match state.requests request with
    | .reserving service _ =>
      answers.updateInProgress || state.executions.hasRunning service ||
        !runsOtherSpelling service state.executions
    | _ => true
  | _ => true

structure Held (state : OperationState) : Prop where
  reserved : ∀ request service id, (state.requests request).reserved = some (service, id) →
    ∃ execution, state.executions.find? service id = some execution ∧ execution.isCreated = false
  marked : ∀ request service id, (state.requests request).marked = some (service, id) →
    ∃ execution, state.executions.find? service id = some execution ∧
      execution.isCreated = true ∧ execution.inFlight = true
  held : ∀ service id execution, state.executions.find? service id = some execution →
    execution.isHeld = true → ∃ request, (state.requests request).holds = some (service, id)
  one : ∀ request other key, (state.requests request).holds = some key →
    (state.requests other).holds = some key → request = other
  running : ∀ service id execution, state.executions.find? service id = some execution →
    execution.status = .running
  single : ∀ service id execution other otherId otherExecution,
    state.executions.find? service id = some execution →
    state.executions.find? other otherId = some otherExecution →
    eqIgnoreAsciiCase service other = true → service = other ∧ id = otherId

variable {state after : OperationState} {event : OperationEvent}
  {left : ServiceExecutions} {next : OperationRequest}
  {answers : OperationAnswers} {request : Nat} {service : String} {id : Uuid}

theorem held_initial : Held .initial where
  reserved _ _ _ reserved := by cases reserved
  marked _ _ _ marked := by cases marked
  held _ _ _ present := by
    rw [initial, ServiceExecutions.find?_empty] at present
    cases present
  one _ _ _ holds := by cases holds
  running _ _ _ present := by
    rw [initial, ServiceExecutions.find?_empty] at present
    cases present
  single _ _ _ _ _ _ present := by
    rw [initial, ServiceExecutions.find?_empty] at present
    cases present

theorem Held.exclusive (held : state.Held) : state.Exclusive where
  oneRunning service id execution other otherId otherExecution present otherPresent _ _ same :=
    held.single service id execution other otherId otherExecution present otherPresent same
  oneRequest request other key sending otherSending :=
    held.one request other key (OperationRequest.holds_of_sending sending)
      (OperationRequest.holds_of_sending otherSending)
  held service id execution present isHeld := by
    obtain ⟨request, holds⟩ := held.held service id execution present isHeld
    exact ⟨request, OperationRequest.isOpen_of_holds holds, holds⟩

theorem Held.present (held : state.Held)
    (holds : (state.requests request).holds = some (service, id)) :
    ∃ execution, state.executions.find? service id = some execution ∧ execution.isHeld = true := by
  rcases Option.or_eq_some_iff.mp holds with reserved | ⟨-, marked⟩
  · obtain ⟨execution, present, notCreated⟩ := held.reserved request service id reserved
    exact ⟨execution, present, by simp [ServiceExecution.isHeld, notCreated]⟩
  · obtain ⟨execution, present, -, inFlight⟩ := held.marked request service id marked
    exact ⟨execution, present, by simp [ServiceExecution.isHeld, inFlight]⟩

def signature (execution : ServiceExecution) : ExecutionStatus × Bool × Bool :=
  (execution.status, execution.inFlight, execution.isCreated)

variable {execution : ServiceExecution}

theorem exists_of_map_signature {some_ other : Option ServiceExecution}
    (same : some_.map signature = other.map signature) (present : some_ = some execution) :
    ∃ otherExecution, other = some otherExecution ∧ otherExecution.status = execution.status ∧
      otherExecution.inFlight = execution.inFlight ∧
      otherExecution.isCreated = execution.isCreated := by
  rw [present] at same
  obtain ⟨otherExecution, found, equal⟩ := Option.map_eq_some_iff.mp same.symm
  injection equal with status flags
  injection flags with inFlight isCreated
  exact ⟨otherExecution, found, status, inFlight, isCreated⟩

theorem Held.of_same (held : state.Held)
    (reserved : ∀ request, (after.requests request).reserved = (state.requests request).reserved)
    (marked : ∀ request, (after.requests request).marked = (state.requests request).marked)
    (same : ∀ service id, (after.executions.find? service id).map signature =
      (state.executions.find? service id).map signature) : after.Held := by
  have holds : ∀ request, (after.requests request).holds = (state.requests request).holds := by
    intro request
    rw [OperationRequest.holds, OperationRequest.holds, reserved, marked]
  constructor
  · intro request service id isReserved
    obtain ⟨before, present, notCreated⟩ :=
      held.reserved request service id (reserved request ▸ isReserved)
    obtain ⟨execution, found, -, -, isCreated⟩ :=
      exists_of_map_signature (same service id).symm present
    exact ⟨execution, found, isCreated.trans notCreated⟩
  · intro request service id isMarked
    obtain ⟨before, present, created, marks⟩ :=
      held.marked request service id (marked request ▸ isMarked)
    obtain ⟨execution, found, -, inFlight, isCreated⟩ :=
      exists_of_map_signature (same service id).symm present
    exact ⟨execution, found, isCreated.trans created, inFlight.trans marks⟩
  · intro service id execution present isHeld
    obtain ⟨before, found, -, inFlight, isCreated⟩ :=
      exists_of_map_signature (same service id) present
    obtain ⟨request, holder⟩ := held.held service id before found (by
      rw [ServiceExecution.isHeld, inFlight, isCreated]
      exact isHeld)
    exact ⟨request, (holds request).trans holder⟩
  · intro request other key mine others
    exact held.one request other key (holds request ▸ mine) (holds other ▸ others)
  · intro service id execution present
    obtain ⟨before, found, status, -⟩ := exists_of_map_signature (same service id) present
    exact status ▸ held.running service id before found
  · intro service id execution other otherId otherExecution present otherPresent sameRoutine
    obtain ⟨before, found, -⟩ := exists_of_map_signature (same service id) present
    obtain ⟨otherBefore, otherFound, -⟩ :=
      exists_of_map_signature (same other otherId) otherPresent
    exact held.single service id before other otherId otherBefore found otherFound sameRoutine

/-- The holder of an execution gives it back: it is gone, or finalized and without a mark. -/
theorem Held.of_release (held : state.Held)
    (holder : (state.requests request).holds = some (service, id))
    (requests : after.requests = update state.requests request next)
    (released : next.holds = none)
    (others : ∀ other otherId, ¬ (other = service ∧ otherId = id) →
      after.executions.find? other otherId = state.executions.find? other otherId)
    (ended : ∀ execution, after.executions.find? service id = some execution →
      execution.isHeld = false ∧ execution.status = .running) : after.Held := by
  obtain ⟨given, givenPresent, -⟩ := held.present holder
  have apart : ∀ other key, (after.requests other).holds = some key →
      other ≠ request ∧ (state.requests other).holds = some key := by
    intro other key holds
    rw [requests] at holds
    by_cases same : other = request
    · rw [same, update_self, released] at holds
      cases holds
    · rw [update_of_ne same] at holds
      exact ⟨same, holds⟩
  have elsewhere : ∀ other otherService otherId, other ≠ request →
      (state.requests other).holds = some (otherService, otherId) →
      ¬ (otherService = service ∧ otherId = id) := by
    rintro other otherService otherId ne holds ⟨rfl, rfl⟩
    exact ne (held.one other request _ holds holder)
  have before : ∀ otherService otherId execution,
      after.executions.find? otherService otherId = some execution →
      ∃ old, state.executions.find? otherService otherId = some old := by
    intro otherService otherId execution present
    by_cases same : otherService = service ∧ otherId = id
    · obtain ⟨rfl, rfl⟩ := same
      exact ⟨given, givenPresent⟩
    · rw [others _ _ same] at present
      exact ⟨execution, present⟩
  constructor
  · intro other otherService otherId reserved
    obtain ⟨ne, heldBefore⟩ :=
      apart other _ (OperationRequest.holds_of_reserved reserved)
    rw [others _ _ (elsewhere other _ _ ne heldBefore)]
    rw [requests, update_of_ne ne] at reserved
    exact held.reserved other otherService otherId reserved
  · intro other otherService otherId marked
    obtain ⟨ne, heldBefore⟩ := apart other _ (OperationRequest.holds_of_marked marked)
    rw [others _ _ (elsewhere other _ _ ne heldBefore)]
    rw [requests, update_of_ne ne] at marked
    exact held.marked other otherService otherId marked
  · intro otherService otherId execution present isHeld
    have ne : ¬ (otherService = service ∧ otherId = id) := by
      rintro ⟨rfl, rfl⟩
      have free := (ended execution present).1
      rw [isHeld] at free
      cases free
    obtain ⟨other, holds⟩ :=
      held.held otherService otherId execution ((others _ _ ne).symm.trans present) isHeld
    have notRequest : other ≠ request := by
      rintro rfl
      rw [holder] at holds
      cases holds
      exact ne ⟨rfl, rfl⟩
    exact ⟨other, by rw [requests, update_of_ne notRequest, holds]⟩
  · intro first second key firstHolds secondHolds
    exact held.one first second key (apart first key firstHolds).2 (apart second key secondHolds).2
  · intro otherService otherId execution present
    by_cases same : otherService = service ∧ otherId = id
    · obtain ⟨rfl, rfl⟩ := same
      exact (ended execution present).2
    · exact held.running otherService otherId execution ((others _ _ same).symm.trans present)
  · intro first firstId firstExecution second secondId secondExecution present otherPresent same
    obtain ⟨old, found⟩ := before first firstId firstExecution present
    obtain ⟨otherOld, otherFound⟩ := before second secondId secondExecution otherPresent
    exact held.single first firstId old second secondId otherOld found otherFound same

theorem Held.of_acquire (held : state.Held) (execution : ServiceExecution)
    (idle : (state.requests request).holds = none)
    (unheld : ∀ other, (state.requests other).holds ≠ some (service, id))
    (requests : after.requests = update state.requests request next)
    (taken : next.reserved = some (service, id) ∧ next.marked = none ∧ execution.isCreated = false ∨
      next.reserved = none ∧ next.marked = some (service, id) ∧
        execution.isCreated = true ∧ execution.inFlight = true)
    (others : ∀ other otherId, ¬ (other = service ∧ otherId = id) →
      after.executions.find? other otherId = state.executions.find? other otherId)
    (present : after.executions.find? service id = some execution)
    (running : execution.status = .running)
    (alone : ∀ other otherId otherExecution,
      state.executions.find? other otherId = some otherExecution →
      eqIgnoreAsciiCase other service = true → other = service ∧ otherId = id) :
    after.Held := by
  have nextHolds : next.holds = some (service, id) := by
    rcases taken with ⟨reserved, -⟩ | ⟨-, marked, -⟩
    · exact OperationRequest.holds_of_reserved reserved
    · exact OperationRequest.holds_of_marked marked
  have elsewhere : ∀ other otherService otherId,
      (state.requests other).holds = some (otherService, otherId) →
      ¬ (otherService = service ∧ otherId = id) := by
    rintro other otherService otherId holds ⟨rfl, rfl⟩
    exact unheld other holds
  constructor
  · intro other otherService otherId reserved
    by_cases same : other = request
    · rw [requests, same, update_self] at reserved
      rcases taken with ⟨mine, -, notCreated⟩ | ⟨none, -⟩
      · rw [mine] at reserved
        cases reserved
        exact ⟨execution, present, notCreated⟩
      · rw [none] at reserved
        cases reserved
    · rw [requests, update_of_ne same] at reserved
      rw [others _ _ (elsewhere other _ _ (OperationRequest.holds_of_reserved reserved))]
      exact held.reserved other otherService otherId reserved
  · intro other otherService otherId marked
    by_cases same : other = request
    · rw [requests, same, update_self] at marked
      rcases taken with ⟨-, none, -⟩ | ⟨-, mine, flags⟩
      · rw [none] at marked
        cases marked
      · rw [mine] at marked
        cases marked
        exact ⟨execution, present, flags⟩
    · rw [requests, update_of_ne same] at marked
      rw [others _ _ (elsewhere other _ _ (OperationRequest.holds_of_marked marked))]
      exact held.marked other otherService otherId marked
  · intro otherService otherId otherExecution otherPresent isHeld
    by_cases same : otherService = service ∧ otherId = id
    · obtain ⟨rfl, rfl⟩ := same
      exact ⟨request, by rw [requests, update_self, nextHolds]⟩
    · obtain ⟨other, holds⟩ := held.held otherService otherId otherExecution
        ((others _ _ same).symm.trans otherPresent) isHeld
      have notRequest : other ≠ request := by
        rintro rfl
        rw [idle] at holds
        cases holds
      exact ⟨other, by rw [requests, update_of_ne notRequest, holds]⟩
  · intro first second key firstHolds secondHolds
    rw [requests] at firstHolds secondHolds
    by_cases firstIs : first = request
    · by_cases secondIs : second = request
      · exact firstIs.trans secondIs.symm
      · rw [firstIs, update_self, nextHolds] at firstHolds
        rw [update_of_ne secondIs, ← firstHolds] at secondHolds
        exact absurd secondHolds (unheld second)
    · by_cases secondIs : second = request
      · rw [secondIs, update_self, nextHolds] at secondHolds
        rw [update_of_ne firstIs, ← secondHolds] at firstHolds
        exact absurd firstHolds (unheld first)
      · rw [update_of_ne firstIs] at firstHolds
        rw [update_of_ne secondIs] at secondHolds
        exact held.one first second key firstHolds secondHolds
  · intro otherService otherId otherExecution otherPresent
    by_cases same : otherService = service ∧ otherId = id
    · obtain ⟨rfl, rfl⟩ := same
      rw [present] at otherPresent
      cases otherPresent
      exact running
    · exact held.running otherService otherId otherExecution
        ((others _ _ same).symm.trans otherPresent)
  · intro first firstId firstExecution second secondId secondExecution firstPresent secondPresent
      same
    by_cases firstIs : first = service ∧ firstId = id
    · obtain ⟨rfl, rfl⟩ := firstIs
      by_cases secondIs : second = first ∧ secondId = firstId
      · exact ⟨secondIs.1.symm, secondIs.2.symm⟩
      · obtain ⟨sameService, sameId⟩ := alone second secondId secondExecution
          ((others _ _ secondIs).symm.trans secondPresent) (eqIgnoreAsciiCase_symm same)
        exact ⟨sameService.symm, sameId.symm⟩
    · have firstBefore := (others _ _ firstIs).symm.trans firstPresent
      by_cases secondIs : second = service ∧ secondId = id
      · obtain ⟨rfl, rfl⟩ := secondIs
        exact alone first firstId firstExecution firstBefore same
      · exact held.single first firstId firstExecution second secondId secondExecution firstBefore
          ((others _ _ secondIs).symm.trans secondPresent) same

def Numbered (state : OperationState) : Prop :=
  ∀ request, state.arrived ≤ request → state.requests request = .absent

theorem Numbered.step (numbered : state.Numbered) (taken : state.step event = some after) :
    after.Numbered := by
  have arrives : ∀ phase, (state.arrive phase).Numbered := by
    intro phase request unarrived
    have ne : request ≠ state.arrived := Nat.ne_of_gt unarrived
    simpa [arrive, ne] using numbered request (Nat.le_of_succ_le unarrived)
  have updates : ∀ request phase executions, state.requests request ≠ .absent →
      Numbered { state with
        executions := executions
        requests := update state.requests request phase } := by
    intro request phase executions present other unarrived
    have ne : other ≠ request := by
      rintro rfl
      exact present (numbered other unarrived)
    simpa [ne] using numbered other unarrived
  cases event with
  | post service suppressService | get service id suppressService
  | delete service id suppressService force =>
    cases taken
    exact arrives _
  | resume request answers =>
    obtain ⟨⟨phase, executions⟩, resumed, rfl⟩ := Option.map_eq_some_iff.mp taken
    apply updates
    intro absent
    rw [absent] at resumed
    cases resumed
  | drop request =>
    simp only [step] at taken
    split at taken
    case isTrue isOpen =>
      cases taken
      apply updates
      intro absent
      rw [absent] at isOpen
      cases isOpen
    case isFalse => cases taken

theorem Held.of_unheld (held : state.Held) {number : Nat}
    (before : (state.requests request).holds = none) (released : next.holds = none)
    (same : ∀ service id, (left.find? service id).map signature =
      (state.executions.find? service id).map signature) :
    Held ⟨left, update state.requests request next, number⟩ := by
  obtain ⟨notReserved, notMarked⟩ := Option.or_eq_none_iff.mp before
  obtain ⟨nextReserved, nextMarked⟩ := Option.or_eq_none_iff.mp released
  refine held.of_same ?_ ?_ same
  · intro other
    by_cases same : other = request
    · simp [same, notReserved, nextReserved]
    · simp [same]
  · intro other
    by_cases same : other = request
    · simp [same, notMarked, nextMarked]
    · simp [same]

theorem Held.arrive (held : state.Held) (numbered : state.Numbered) (idle : next.holds = none) :
    (state.arrive next).Held := by
  refine held.of_unheld ?_ idle fun _ _ => rfl
  rw [numbered _ (Nat.le_refl _)]
  rfl

theorem not_runsOtherSpelling {executions : ServiceExecutions}
    (none : runsOtherSpelling service executions = false) {other : String} {otherId : Uuid}
    (present : executions.find? other otherId = some execution)
    (running : execution.status = .running) (same : eqIgnoreAsciiCase other service = true) :
    other = service := by
  by_contra ne
  have some : runsOtherSpelling service executions = true :=
    ServiceExecutions.any_iff.mpr ⟨other, otherId, execution, present, by
      simp [running, same, ne]⟩
  rw [none] at some
  cases some

theorem Held.reserves (held : state.Held) (idle : (state.requests request).holds = none)
    (notRunning : state.executions.hasRunning service = false)
    (noOther : runsOtherSpelling service state.executions = false)
    (reserved : next.reserved = some (service, id)) (notMarked : next.marked = none) :
    Held { state with
      executions := state.executions.insertPlaceholder service id
      requests := update state.requests request next } := by
  have absent : ∀ otherId execution,
      state.executions.find? service otherId ≠ some execution := by
    intro otherId execution present
    exact ServiceExecutions.not_running_of_hasRunning notRunning present
      (held.running service otherId execution present)
  refine held.of_acquire { ServiceExecution.placeholder with inFlight := true } idle ?_ rfl
    (.inl ⟨reserved, notMarked, rfl⟩) ?_ ?_ rfl ?_
  · intro other holds
    obtain ⟨execution, present, -⟩ := held.present holds
    exact absent id execution present
  · intro other otherId ne
    exact ServiceExecutions.find?_insertPlaceholder.trans (if_neg ne)
  · exact ServiceExecutions.find?_insertPlaceholder.trans (if_pos ⟨rfl, rfl⟩)
  · intro other otherId execution present same
    have sameService := not_runsOtherSpelling noOther present
      (held.running other otherId execution present) same
    exact absurd present (sameService ▸ absent otherId execution)

theorem Held.marks (held : state.Held) (idle : (state.requests request).holds = none)
    (present : state.executions.find? service id = some execution)
    (created : execution.isCreated = true) (free : execution.inFlight = false)
    (notReserved : next.reserved = none) (marked : next.marked = some (service, id)) :
    Held { state with
      executions := state.executions.modify service id ({ · with inFlight := true })
      requests := update state.requests request next } := by
  refine held.of_acquire { execution with inFlight := true } idle ?_ rfl
    (.inr ⟨notReserved, marked, created, rfl⟩) ?_ ?_ ?_ ?_
  · intro other holds
    obtain ⟨same, samePresent, isHeld⟩ := held.present holds
    rw [present] at samePresent
    cases samePresent
    simp [ServiceExecution.isHeld, created, free] at isHeld
  · intro other otherId ne
    exact ServiceExecutions.find?_modify.trans (if_neg ne)
  · rw [ServiceExecutions.find?_modify, if_pos ⟨rfl, rfl⟩, present]
    rfl
  · exact held.running service id execution present
  · intro other otherId otherExecution otherPresent same
    exact held.single other otherId otherExecution service id execution otherPresent present same

theorem Held.unmarks (held : state.Held) {change : ServiceExecution → ServiceExecution}
    (holder : (state.requests request).holds = some (service, id)) (released : next.holds = none)
    (unheld : ∀ execution, state.executions.find? service id = some execution →
      (change execution).isHeld = false ∧ (change execution).status = execution.status) :
    Held { state with
      executions := state.executions.modify service id change
      requests := update state.requests request next } := by
  refine held.of_release holder rfl released ?_ ?_
  · intro other otherId ne
    exact ServiceExecutions.find?_modify.trans (if_neg ne)
  · intro execution present
    rw [ServiceExecutions.find?_modify, if_pos ⟨rfl, rfl⟩] at present
    obtain ⟨before, found, rfl⟩ := Option.map_eq_some_iff.mp present
    obtain ⟨free, status⟩ := unheld before found
    exact ⟨free, status.trans (held.running service id before found)⟩

theorem Held.resume (held : state.Held) {phase : OperationRequest}
    (phaseIs : state.requests request = phase)
    (permitted : state.permits (.resume request answers) = true)
    (effect : ResumeEffect answers state.executions phase next left) :
    Held { state with
      executions := left, requests := update state.requests request next } := by
  subst phaseIs
  cases effect with
  | @reserves service id next reserving noUpdate notRunning reserved notMarked =>
    obtain ⟨suppressService, reserving⟩ := reserving
    have noOther : runsOtherSpelling service state.executions = false := by
      simpa [permits, reserving, noUpdate, notRunning] using permitted
    exact held.reserves (by rw [reserving]; rfl) notRunning noOther reserved notMarked
  | marks idle present created free notReserved marked =>
    exact held.marks idle present created free notReserved marked
  | moves reserved marked =>
    refine held.of_same ?_ ?_ fun _ _ => rfl
    · intro other
      by_cases same : other = request
      · simp [same, reserved]
      · simp [same]
    · intro other
      by_cases same : other = request
      · simp [same, marked]
      · simp [same]
  | finalizes reserved =>
    refine held.unmarks (OperationRequest.holds_of_reserved reserved) rfl ?_
    intro execution _
    exact ⟨rfl, rfl⟩
  | removes holder gone =>
    refine held.of_release holder rfl rfl ?_ ?_
    · intro other otherId ne
      exact (gone other otherId).trans (if_neg ne)
    · intro execution present
      rw [gone, if_pos ⟨rfl, rfl⟩] at present
      cases present
  | clears marked released =>
    refine held.unmarks (OperationRequest.holds_of_marked marked) released ?_
    intro execution present
    obtain ⟨same, samePresent, created, -⟩ := held.marked request _ _ marked
    rw [present] at samePresent
    cases samePresent
    exact ⟨by simp [ServiceExecution.isHeld, created], rfl⟩
  | stores idle =>
    refine held.of_unheld idle rfl ?_
    intro other otherId
    rw [ServiceExecutions.find?_modify]
    split
    case isTrue same =>
      obtain ⟨rfl, rfl⟩ := same
      rw [Option.map_map]
      rfl
    case isFalse => rfl

theorem Held.step (held : state.Held) (numbered : state.Numbered)
    (permitted : state.permits event = true) (taken : state.step event = some after) :
    after.Held := by
  cases event with
  | post service suppressService =>
    cases taken
    apply held.arrive numbered
    split <;> rfl
  | get service id suppressService | delete service id suppressService force =>
    cases taken
    exact held.arrive numbered rfl
  | resume request answers =>
    obtain ⟨⟨phase, executions⟩, resumed, rfl⟩ := Option.map_eq_some_iff.mp taken
    exact held.resume rfl permitted (.of_resume resumed)
  | drop request =>
    simp only [OperationState.step] at taken
    split at taken
    case isTrue =>
      cases taken
      exact held.of_unheld (Option.isNone_iff_eq_none.mp permitted) rfl fun _ _ => rfl
    case isFalse => cases taken

theorem Held.not_exclusive_of_reserve {suppressService : Bool}
    (reserving : state.requests request = .reserving service suppressService)
    (noUpdate : answers.updateInProgress = false)
    (notRunning : state.executions.hasRunning service = false)
    (otherRuns : runsOtherSpelling service state.executions = true)
    (taken : state.step (.resume request answers) = some after) : ¬ after.Exclusive := by
  intro exclusive
  have reserved : reserveExecution service service answers.updateInProgress answers.newV4
      state.executions = .ok (state.executions.insertPlaceholder service answers.newV4) := by
    simp [reserveExecution, noUpdate, notRunning]
  have placed : after.executions =
      state.executions.insertPlaceholder service answers.newV4 := by
    simp only [OperationState.step, resumeRequest, reserving, reserved] at taken
    split at taken <;>
      cases taken <;> rfl
  obtain ⟨other, otherId, execution, present, runs⟩ := ServiceExecutions.any_iff.mp otherRuns
  obtain ⟨⟨running, same⟩, ne⟩ :
      (execution.status = .running ∧ eqIgnoreAsciiCase other service = true) ∧ other ≠ service := by
    simpa using runs
  have mine := exclusive.oneRunning other otherId execution service answers.newV4
    { ServiceExecution.placeholder with inFlight := true }
    (by rw [placed, ServiceExecutions.find?_insertPlaceholder, if_neg (ne ·.1), present])
    (by rw [placed, ServiceExecutions.find?_insertPlaceholder, if_pos ⟨rfl, rfl⟩])
    running rfl same
  exact ne mine.1

theorem Held.not_exclusive_of_drop (held : state.Held)
    (holds : (state.requests request).holds = some (service, id))
    (taken : state.step (.drop request) = some after) : ¬ after.Exclusive := by
  intro exclusive
  obtain ⟨execution, present, isHeld⟩ := held.present holds
  simp only [OperationState.step] at taken
  split at taken
  case isTrue =>
    cases taken
    obtain ⟨other, -, otherHolds⟩ := exclusive.held service id execution present isHeld
    have holder : (update state.requests request .dropped other).holds =
        some (service, id) := otherHolds
    by_cases same : other = request
    · rw [same, update_self] at holder
      cases holder
    · rw [update_of_ne same] at holder
      exact same (held.one other request _ holder holds)
  case isFalse => cases taken

theorem Held.permits_of_exclusive (held : state.Held) (taken : state.step event = some after)
    (exclusive : after.Exclusive) : state.permits event = true := by
  cases event with
  | post service suppressService => rfl
  | get service id suppressService => rfl
  | delete service id suppressService force => rfl
  | resume request answers =>
    simp only [permits]
    split
    case h_1 service suppressService reserving =>
      by_contra forbidden
      obtain ⟨⟨noUpdate, notRunning⟩, otherRuns⟩ :
          (answers.updateInProgress = false ∧ state.executions.hasRunning service = false) ∧
            runsOtherSpelling service state.executions = true := by
        simpa using forbidden
      exact not_exclusive_of_reserve reserving noUpdate notRunning otherRuns taken exclusive
    case h_2 => rfl
  | drop request =>
    by_contra forbidden
    obtain ⟨⟨service, id⟩, holds⟩ := Option.ne_none_iff_exists'.mp fun none =>
      forbidden (Option.isNone_iff_eq_none.mpr none)
    exact held.not_exclusive_of_drop holds taken exclusive

end OperationState

def PermittedStep (state : OperationState) (event : OperationEvent) (after : OperationState) :
    Prop :=
  state.step event = some after ∧ state.permits event = true

theorem held_of_run {state : OperationState} {events : List OperationEvent}
    (run : Run PermittedStep .initial events state) : state.Held ∧ state.Numbered := by
  apply run.keeps fun _ state => state.Held ∧ state.Numbered
  · exact ⟨OperationState.held_initial, fun _ _ => rfl⟩
  · intro events event state after ⟨held, numbered⟩ ⟨taken, permitted⟩
    exact ⟨held.step numbered permitted taken, numbered.step taken⟩

/-- Permitted steps keep the executions of a routine and the requests on an execution apart, and
the next step does so exactly when it is permitted. -/
theorem routine_executions_exclusive {state : OperationState} {events : List OperationEvent}
    (run : Run PermittedStep .initial events state) :
    state.Exclusive ∧ ∀ event after, state.step event = some after →
      (after.Exclusive ↔ state.permits event = true) := by
  obtain ⟨held, numbered⟩ := held_of_run run
  refine ⟨held.exclusive, ?_⟩
  intro event after taken
  constructor
  · exact held.permits_of_exclusive taken
  · intro permitted
    exact (held.step numbered permitted taken).exclusive

def answering (id : Uuid) : OperationAnswers :=
  ⟨false, id, [⟨"Clean", some 1⟩, ⟨"Clean", some 2⟩], .ok true, .ok (.positive true [])⟩

/-- A routine is started, asked for and stopped, while a second start is refused. -/
def startAskStop : List OperationEvent :=
  [.post "Clean" false, .resume 0 (answering 1), .post "Clean" false, .resume 1 (answering 2),
    .resume 0 (answering 1), .resume 0 (answering 1), .resume 0 (answering 1),
    .get "Clean" 1 false, .resume 2 (answering 0), .delete "Clean" 1 false false,
    .resume 3 (answering 0), .resume 2 (answering 0), .resume 2 (answering 0),
    .resume 2 (answering 0), .delete "Clean" 1 false false, .resume 4 (answering 0),
    .resume 4 (answering 0), .resume 4 (answering 0)]

theorem routine_executions_exclusive_of_startAskStop :
    ∃ state, Run PermittedStep .initial startAskStop state ∧
      state.Exclusive ∧ ∀ event after, state.step event = some after →
        (after.Exclusive ↔ state.permits event = true) := by
  have run : ∃ state, Run PermittedStep .initial startAskStop state :=
    ⟨_, Run.of_guarded_foldlM rfl⟩
  obtain ⟨state, run⟩ := run
  exact ⟨state, run, routine_executions_exclusive run⟩

/-- A client starts a routine and goes away while the routine is looked up. -/
def startAndLeave : List OperationEvent :=
  [.post "Clean" false, .resume 0 (answering 1)]

/-- A routine runs, and a client asks for it in lower case. -/
def startTwice : List OperationEvent :=
  [.post "Clean" false, .resume 0 (answering 1), .resume 0 (answering 1),
    .resume 0 (answering 1), .resume 0 (answering 1), .post "clean" false]

theorem not_exclusive_of_left_and_spelled :
    (∃ state, Run (fun state event after => OperationState.step state event = some after) .initial
      (startAndLeave ++ [.drop 0]) state ∧ ¬ state.Exclusive) ∧
    ∃ state, Run (fun state event after => OperationState.step state event = some after) .initial
      (startTwice ++ [.resume 1 (answering 2)]) state ∧ ¬ state.Exclusive := by
  have breaks : ∀ (events : List OperationEvent) (event : OperationEvent)
      (state after : OperationState), Run PermittedStep .initial events state →
      state.step event = some after → state.permits event = false →
      ∃ state, Run (fun state event after => OperationState.step state event = some after)
        .initial (events ++ [event]) state ∧ ¬ state.Exclusive := by
    intro events event state after run taken forbidden
    refine ⟨after, .step (run.mono fun _ _ _ permitted => permitted.1) taken, ?_⟩
    intro exclusive
    have permitted := (held_of_run run).1.permits_of_exclusive taken exclusive
    rw [forbidden] at permitted
    cases permitted
  constructor
  · exact breaks startAndLeave (.drop 0) _ _ (Run.of_guarded_foldlM rfl) rfl rfl
  · exact breaks startTwice (.resume 1 (answering 2)) _ _ (Run.of_guarded_foldlM rfl) rfl rfl

end DiagnosticAdapter.Sovd
