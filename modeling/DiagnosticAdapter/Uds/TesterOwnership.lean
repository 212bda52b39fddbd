import DiagnosticAdapter.Uds.TesterPresent

/-!
# Who owns a tester-present task

As long as a stop finds only tasks of its own ECU or group, the one map serves all
owners: a task runs until its owner stops it.
-/

namespace DiagnosticAdapter.Uds

open Effects Function

variable {ecus : TesterPresentEcus} {state next : TesterPresentState}

namespace TesterPresentState

/-- The call is a start of the type that has succeeded for the ECU, and no stop of the
type has been called since the start was. -/
def Owed (state : TesterPresentState) (call : Nat) (start : TesterPresentCall) (ecu : String) :
    Prop :=
  state.calls call = some start ∧ start.mode = .start ∧ ecu ∈ start.succeeded ∧
    ∀ other stop, state.calls other = some stop → stop.mode = .stop → stop.type = start.type →
      other < call

/-- A start of the type has succeeded for some ECU, and no stop of the type that was
called after the start had returned has returned itself. -/
def StartedNotStopped (state : TesterPresentState) (type : TesterPresentType) : Prop :=
  ∃ call start, state.calls call = some start ∧ start.mode = .start ∧ start.type = type ∧
    start.succeeded ≠ [] ∧
    ∀ other stop, state.calls other = some stop → stop.mode = .stop → stop.type = type →
      stop.returnedAt.isSome = true →
      ∀ returned, start.returnedAt = some returned → stop.issuedAt ≤ returned

/-- The task that a call about to control its next ECU finds there. -/
def found (state : TesterPresentState) (call : Nat) :
    Option (TesterPresentCall × String × Option TesterPresentTask) :=
  match state.calls call with
  | some current =>
    match current.remaining with
    | ecu :: _ => some (current, ecu, state.tasks ecu)
    | [] => none
  | none => none

/-- A stop finds only tasks that an earlier start of its type has begun, tasks are started for ECUs
with a tester-present time, and a check answers true only where a task of its type runs. -/
def guarded (ecus : TesterPresentEcus) (state : TesterPresentState) : TesterPresentEvent → Bool
  | .control call =>
    match state.found call with
    | some (current, _, some task) =>
      match current.mode with
      | .stop => decide (task.type = current.type ∧ task.call < call)
      | .start => true
    | some (current, ecu, none) =>
      match current.mode with
      | .start => ecus.all fun found => found.name != ecu || 0 < found.testerPresentTime
      | .stop => true
    | none => true
  | .check type =>
    !state.checkTesterPresentActive ecus type ||
      (type.ecus ecus).any fun ecu => ((state.tasks ecu).map (·.type)) == some type
  | _ => true

end TesterPresentState

/-- Every successful start keeps its tasks running until a stop of the same ECU or group
is called. -/
def KeepsRunning (state : TesterPresentState) : Prop :=
  ∀ call start ecu, state.Owed call start ecu →
    ∃ task, state.tasks ecu = some task ∧ task.type = start.type ∧ task.alive = true

/-- What a step may do to the tasks and what a check may answer. -/
structure Respectful (ecus : TesterPresentEcus) (state : TesterPresentState)
    (event : TesterPresentEvent) (next : TesterPresentState) : Prop where
  /-- Only a stop for the task's own ECU or group ends it. -/
  endsOwn : ∀ ecu task, state.tasks ecu = some task → next.tasks ecu ≠ some task →
    ∃ call stop, event = .control call ∧ state.calls call = some stop ∧ stop.mode = .stop ∧
      stop.type = task.type
  /-- A check answers true only for what is started and not stopped. -/
  checked : ∀ type, event = .check type → state.checkTesterPresentActive ecus type = true →
    state.StartedNotStopped type

/-- Every task belongs to a start call. -/
structure Rightful (ecus : TesterPresentEcus) (state : TesterPresentState) : Prop where
  unissued : ∀ call, state.issued ≤ call → state.calls call = none
  clocked : ∀ call current, state.calls call = some current → current.issuedAt < state.clock
  returned : ∀ call current, state.calls call = some current →
    current.returnedAt.isSome = true → current.remaining = []
  concerned : ∀ call current, state.calls call = some current →
    (∀ ecu ∈ current.remaining, ecu ∈ current.type.ecus ecus) ∧
      ∀ ecu ∈ current.succeeded, ecu ∈ current.type.ecus ecus
  owner : ∀ ecu task, state.tasks ecu = some task →
    ∃ start, state.calls task.call = some start ∧ start.mode = .start ∧
      start.type = task.type ∧ ecu ∈ start.succeeded ∧
      ∀ other stop returned, state.calls other = some stop → stop.mode = .stop →
        stop.type = start.type → start.returnedAt = some returned →
        returned < stop.issuedAt → ecu ∈ stop.remaining
  owed : ∀ call start ecu, state.Owed call start ecu →
    state.tasks ecu = some ⟨start.type, true, call⟩

theorem rightful_initial : Rightful ecus .initial := by
  constructor
  · intro call _
    rfl
  · intro call current present
    cases present
  · intro call current present
    cases present
  · intro call current present
    cases present
  · intro ecu task present
    cases present
  · intro call start ecu owed
    cases owed.1

theorem Rightful.keepsRunning (rightful : Rightful ecus state) : KeepsRunning state := by
  intro call start ecu owed
  exact ⟨_, rightful.owed call start ecu owed, rfl, rfl⟩

variable {call : Nat}

theorem Rightful.issued_of_call (rightful : Rightful ecus state)
    {current : TesterPresentCall} (present : state.calls call = some current) :
    call < state.issued := by
  by_contra unissued
  rw [rightful.unissued call (Nat.not_lt.mp unissued)] at present
  cases present

theorem Rightful.issue (rightful : Rightful ecus state) (mode : TesterPresentMode)
    (type : TesterPresentType) : Rightful ecus (state.issue ecus mode type) := by
  have kept : ∀ other current, state.calls other = some current →
      (state.issue ecus mode type).calls other = some current := by
    intro other current present
    have ne : other ≠ state.issued := Nat.ne_of_lt (rightful.issued_of_call present)
    exact (update_of_ne ne ..).trans present
  have origin : ∀ other current, (state.issue ecus mode type).calls other = some current →
      other = state.issued ∧ current = ⟨mode, type, type.ecus ecus, [], .ok (), state.clock, none⟩ ∨
        state.calls other = some current := by
    intro other current present
    exact (cases_of_update present).imp_right And.right
  constructor
  · intro other unissued
    have later : state.issued + 1 ≤ other := unissued
    have ne : other ≠ state.issued := by omega
    exact (update_of_ne ne ..).trans (rightful.unissued other (by omega))
  · intro other current present
    rcases origin other current present with ⟨-, rfl⟩ | before
    · exact Nat.lt_succ_self _
    · exact Nat.lt_succ_of_lt (rightful.clocked other current before)
  · intro other current present isReturned
    rcases origin other current present with ⟨-, rfl⟩ | before
    · cases isReturned
    · exact rightful.returned other current before isReturned
  · intro other current present
    rcases origin other current present with ⟨-, rfl⟩ | before
    · exact ⟨fun _ mem => mem, by simp⟩
    · exact rightful.concerned other current before
  · intro ecu task present
    obtain ⟨start, startPresent, isStart, sameType, success, pending⟩ :=
      rightful.owner ecu task present
    refine ⟨start, kept _ _ startPresent, isStart, sameType, success, ?_⟩
    intro other stop returned stopPresent isStop stopType startReturned later
    rcases origin other stop stopPresent with ⟨-, rfl⟩ | before
    · change type = start.type at stopType
      change ecu ∈ type.ecus ecus
      rw [stopType]
      exact (rightful.concerned _ start startPresent).2 ecu success
    · exact pending other stop returned before isStop stopType startReturned later
  · intro call start ecu ⟨present, isStart, success, noStop⟩
    rcases origin call start present with ⟨-, rfl⟩ | before
    · cases success
    · exact rightful.owed call start ecu ⟨before, isStart, success, fun other stop stopPresent =>
        noStop other stop (kept other stop stopPresent)⟩

/-- What is owed after a call has gone on was owed before, unless it is by the ECU the
call has just seen to. -/
theorem Rightful.owed_before (rightful : Rightful ecus state)
    {current advanced start : TesterPresentCall} {other : Nat} {ecu : String}
    (isOwed : next.Owed other start ecu) (present : state.calls call = some current)
    (calls : next.calls = update state.calls call (some advanced))
    (mode : advanced.mode = current.mode) (type : advanced.type = current.type)
    (earlier : other = call → ecu ∈ advanced.succeeded → ecu ∈ current.succeeded) :
    state.tasks ecu = some ⟨start.type, true, other⟩ := by
  obtain ⟨startPresent, isStart, success, noStop⟩ := isOwed
  have noStopBefore : ∀ stopCall stop, state.calls stopCall = some stop →
      stop.mode = .stop → stop.type = start.type → stopCall < other := by
    intro stopCall stop stopPresent isStop stopType
    by_cases same : stopCall = call
    · rw [same, present] at stopPresent
      cases stopPresent
      rw [same]
      exact noStop call advanced (by rw [calls, update_self]) (mode.trans isStop)
        (type.trans stopType)
    · exact noStop stopCall stop (by rw [calls, update_of_ne same, stopPresent]) isStop stopType
  rw [calls] at startPresent
  rcases cases_of_update startPresent with ⟨rfl, rfl⟩ | ⟨-, before⟩
  · rw [type] at noStopBefore ⊢
    exact rightful.owed _ current ecu ⟨present, mode ▸ isStart, earlier rfl success, noStopBefore⟩
  · exact rightful.owed other start ecu ⟨before, isStart, success, noStopBefore⟩

theorem Rightful.complete (rightful : Rightful ecus state)
    {current : TesterPresentCall} (present : state.calls call = some current)
    (done : current.remaining = []) :
    Rightful ecus ({ state with clock := state.clock + 1 }.enter call
      { current with returnedAt := some state.clock } state.tasks) := by
  -- whoever is found has been there with the same mode, type, targets and time
  have earlier : ∀ other found, (update state.calls call
      (some { current with returnedAt := some state.clock })) other = some found →
      ∃ before, state.calls other = some before ∧ found.mode = before.mode ∧
        found.type = before.type ∧ found.remaining = before.remaining ∧
        found.succeeded = before.succeeded ∧ found.issuedAt = before.issuedAt := by
    intro other found foundPresent
    rcases cases_of_update foundPresent with ⟨rfl, rfl⟩ | ⟨-, before⟩
    · exact ⟨current, present, rfl, rfl, rfl, rfl, rfl⟩
    · exact ⟨found, before, rfl, rfl, rfl, rfl, rfl⟩
  constructor
  · intro other unissued
    have ne : other ≠ call := by
      have := rightful.issued_of_call present
      have : state.issued ≤ other := unissued
      omega
    exact (update_of_ne ne ..).trans (rightful.unissued other unissued)
  · intro other found foundPresent
    obtain ⟨before, beforePresent, -, -, -, -, sameTime⟩ := earlier other found foundPresent
    rw [sameTime]
    exact Nat.lt_succ_of_lt (rightful.clocked other before beforePresent)
  · intro other found foundPresent isReturned
    rcases cases_of_update foundPresent with ⟨-, rfl⟩ | ⟨-, before⟩
    · exact done
    · exact rightful.returned other found before isReturned
  · intro other found foundPresent
    obtain ⟨before, beforePresent, -, sameType, sameRemaining, sameSucceeded, -⟩ :=
      earlier other found foundPresent
    rw [sameType, sameRemaining, sameSucceeded]
    exact rightful.concerned other before beforePresent
  · intro ecu task taskPresent
    obtain ⟨start, startPresent, isStart, sameType, success, pending⟩ :=
      rightful.owner ecu task taskPresent
    by_cases same : task.call = call
    · have equal : start = current := by
        rw [same, present] at startPresent
        exact (Option.some.inj startPresent).symm
      refine ⟨{ current with returnedAt := some state.clock }, ?_, equal ▸ isStart,
        equal ▸ sameType, equal ▸ success, ?_⟩
      · simp [TesterPresentState.enter, same]
      · intro other stop returned stopPresent isStop stopType startReturned later
        -- no stop has been called after a start that returns just now
        cases startReturned
        obtain ⟨before, beforePresent, -, -, -, -, sameTime⟩ := earlier other stop stopPresent
        have clocked := rightful.clocked other before beforePresent
        omega
    · refine ⟨start, ?_, isStart, sameType, success, ?_⟩
      · simpa [TesterPresentState.enter, same] using startPresent
      · intro other stop returned stopPresent isStop stopType startReturned later
        obtain ⟨before, beforePresent, sameMode, sameStopType, sameRemaining, -, sameTime⟩ :=
          earlier other stop stopPresent
        rw [sameRemaining]
        exact pending other before returned beforePresent (sameMode ▸ isStop)
          (sameStopType ▸ stopType) startReturned (sameTime ▸ later)
  · intro other start ecu isOwed
    exact rightful.owed_before isOwed present rfl rfl rfl fun _ success => success

structure Advanced (state next : TesterPresentState) (call : Nat)
    (current advanced : TesterPresentCall) (ecu : String) : Prop where
  present : state.calls call = some current
  remaining : current.remaining = ecu :: advanced.remaining
  calls : next.calls = update state.calls call (some advanced)
  issued : next.issued = state.issued
  clock : next.clock = state.clock
  mode : advanced.mode = current.mode
  type : advanced.type = current.type
  issuedAt : advanced.issuedAt = current.issuedAt
  returnedAt : advanced.returnedAt = current.returnedAt
  succeeded : ∀ other ∈ current.succeeded, other ∈ advanced.succeeded
  origin : ∀ other ∈ advanced.succeeded, other = ecu ∨ other ∈ current.succeeded

theorem Rightful.advance (rightful : Rightful ecus state)
    {current advanced : TesterPresentCall} {ecu : String}
    (step : Advanced state next call current advanced ecu)
    (others : ∀ other, other ≠ ecu → next.tasks other = state.tasks other)
    (own : next.tasks ecu = none ∨ current.mode = .start ∧ (next.tasks ecu = state.tasks ecu ∨
        ∃ alive, next.tasks ecu = some ⟨current.type, alive, call⟩ ∧ ecu ∈ advanced.succeeded))
    (owed : ∀ other start, next.Owed other start ecu →
      next.tasks ecu = some ⟨start.type, true, other⟩) :
    Rightful ecus next := by
  have notReturned : current.returnedAt = none := by
    by_contra isReturned
    have done := rightful.returned call current step.present
      (Option.isSome_iff_ne_none.mpr isReturned)
    rw [step.remaining] at done
    cases done
  have origin : ∀ other found, next.calls other = some found →
      other = call ∧ found = advanced ∨ other ≠ call ∧ state.calls other = some found := by
    intro other found foundPresent
    rw [step.calls] at foundPresent
    exact cases_of_update foundPresent
  have atCall : next.calls call = some advanced := by rw [step.calls, update_self]
  have atOther : ∀ other, other ≠ call → next.calls other = state.calls other := by
    intro other ne
    rw [step.calls, update_of_ne ne]
  -- the owner of a task is still there, and so is what it awaits
  have owner : ∀ found task, found ≠ ecu ∨ current.mode = .start →
      state.tasks found = some task →
      ∃ start, next.calls task.call = some start ∧ start.mode = .start ∧
        start.type = task.type ∧ found ∈ start.succeeded ∧
        ∀ other stop returned, next.calls other = some stop → stop.mode = .stop →
          stop.type = start.type → start.returnedAt = some returned →
          returned < stop.issuedAt → found ∈ stop.remaining := by
    intro found task elsewhere taskPresent
    obtain ⟨start, startPresent, isStart, sameType, success, pending⟩ :=
      rightful.owner found task taskPresent
    have pendingNext : ∀ other stop returned, next.calls other = some stop →
        stop.mode = .stop → stop.type = start.type → start.returnedAt = some returned →
        returned < stop.issuedAt → found ∈ stop.remaining := by
      intro other stop returned stopPresent isStop stopType startReturned later
      rcases origin other stop stopPresent with ⟨-, rfl⟩ | ⟨-, before⟩
      · have waits := pending call current returned step.present (step.mode ▸ isStop)
          (step.type ▸ stopType) startReturned (step.issuedAt ▸ later)
        rw [step.remaining] at waits
        rcases elsewhere with ne | started
        · exact (List.mem_cons.mp waits).resolve_left ne
        · rw [step.mode, started] at isStop
          cases isStop
      · exact pending other stop returned before isStop stopType startReturned later
    by_cases same : task.call = call
    · rw [same, step.present] at startPresent
      cases startPresent
      refine ⟨advanced, same ▸ atCall, step.mode.trans isStart, step.type.trans sameType,
        step.succeeded found success, ?_⟩
      intro other stop returned stopPresent isStop stopType startReturned
      exact pendingNext other stop returned stopPresent isStop (stopType.trans step.type)
        (step.returnedAt ▸ startReturned)
    · exact ⟨start, (atOther _ same).trans startPresent, isStart, sameType, success, pendingNext⟩
  constructor
  · intro other unissued
    rw [step.issued] at unissued
    have ne : other ≠ call := by
      have := rightful.issued_of_call step.present
      omega
    rw [atOther other ne]
    exact rightful.unissued other unissued
  · intro other found foundPresent
    rw [step.clock]
    rcases origin other found foundPresent with ⟨-, rfl⟩ | ⟨-, before⟩
    · rw [step.issuedAt]
      exact rightful.clocked call current step.present
    · exact rightful.clocked other found before
  · intro other found foundPresent isReturned
    rcases origin other found foundPresent with ⟨-, rfl⟩ | ⟨-, before⟩
    · rw [step.returnedAt, notReturned] at isReturned
      cases isReturned
    · exact rightful.returned other found before isReturned
  · intro other found foundPresent
    rcases origin other found foundPresent with ⟨-, rfl⟩ | ⟨-, before⟩
    · obtain ⟨targets, successes⟩ := rightful.concerned call current step.present
      rw [step.remaining] at targets
      rw [step.type]
      refine ⟨fun target mem => targets target (List.mem_cons_of_mem _ mem), ?_⟩
      intro target mem
      rcases step.origin target mem with isEcu | before
      · rw [isEcu]
        exact targets ecu List.mem_cons_self
      · exact successes target before
    · exact rightful.concerned other found before
  · intro found task taskPresent
    by_cases isEcu : found = ecu
    · subst isEcu
      rcases own with none | ⟨isStart, same | ⟨alive, new, success⟩⟩
      · rw [none] at taskPresent
        cases taskPresent
      · rw [same] at taskPresent
        exact owner found task (.inr isStart) taskPresent
      · rw [new] at taskPresent
        cases taskPresent
        refine ⟨advanced, atCall, step.mode.trans isStart, step.type, success, ?_⟩
        intro other stop returned _ _ _ startReturned _
        rw [step.returnedAt, notReturned] at startReturned
        cases startReturned
    · rw [others found isEcu] at taskPresent
      exact owner found task (.inl isEcu) taskPresent
  · intro other start found isOwed
    by_cases isEcu : found = ecu
    · subst isEcu
      exact owed other start isOwed
    · rw [others found isEcu]
      exact rightful.owed_before isOwed step.present step.calls step.mode step.type
        fun _ success => (step.origin found success).resolve_left isEcu

inductive Controls (ecus : TesterPresentEcus) (state : TesterPresentState) (call : Nat)
    (current : TesterPresentCall) (ecu : String) (rest : List String) :
    TesterPresentState → Prop where
  | refused {result} :
      Controls ecus state call current ecu rest
        (state.enter call { current with remaining := rest, result := result } state.tasks)
  | started {found} :
      current.mode = .start → state.tasks ecu = none →
      ecus.find? (·.name == ecu) = some found →
      Controls ecus state call current ecu rest (state.enter call
          { current with remaining := rest, succeeded := ecu :: current.succeeded }
          (update state.tasks ecu
            (some ⟨current.type, decide (0 < found.testerPresentTime), call⟩)))
  | stopped {task} :
      current.mode = .stop → state.tasks ecu = some task →
      Controls ecus state call current ecu rest (state.enter call
          { current with remaining := rest, succeeded := ecu :: current.succeeded }
          (update state.tasks ecu none))

theorem Controls.of_step (taken : state.step ecus (.control call) = some next) :
    ∃ current ecu rest, state.calls call = some current ∧ current.remaining = ecu :: rest ∧
      Controls ecus state call current ecu rest next := by
  unfold TesterPresentState.step at taken
  simp only at taken
  split at taken
  case h_2 => cases taken
  case h_1 current present =>
    split at taken
    case h_2 => cases taken
    case h_1 ecu rest remaining =>
      refine ⟨current, ecu, rest, present, remaining, ?_⟩
      split at taken
      case h_2 =>
        cases taken
        exact .refused
      case h_1 tasks controlled =>
        cases taken
        unfold controlTesterPresent at controlled
        split at controlled
        case h_1 isStart =>
          split at controlled
          case h_1 => cases controlled
          case h_2 absent =>
            split at controlled
            case h_1 => cases controlled
            case h_2 found isFound =>
              cases controlled
              exact .started isStart absent isFound
        case h_2 isStop =>
          split at controlled
          case h_1 => cases controlled
          case h_2 task taskPresent =>
            cases controlled
            exact .stopped isStop taskPresent

section

variable (rightful : Rightful ecus state)

include rightful

theorem Rightful.control (guarded : state.guarded ecus (.control call) = true)
    (taken : state.step ecus (.control call) = some next) : Rightful ecus next := by
  obtain ⟨current, ecu, rest, present, remaining, controls⟩ := Controls.of_step taken
  have looksAt : state.found call = some (current, ecu, state.tasks ecu) := by
    simp only [TesterPresentState.found, present, remaining]
  have step (tasks : TesterPresentTasks) : Advanced state
      (state.enter call { current with remaining := rest, succeeded := ecu :: current.succeeded }
        tasks)
      call current { current with remaining := rest, succeeded := ecu :: current.succeeded } ecu :=
    ⟨present, remaining, rfl, rfl, rfl, rfl, rfl, rfl, rfl,
      fun _ mem => List.mem_cons_of_mem _ mem, fun _ mem => List.mem_cons.mp mem⟩
  cases controls with
  | @refused result =>
    have step : Advanced state
        (state.enter call { current with remaining := rest, result := result } state.tasks)
        call current { current with remaining := rest, result := result } ecu :=
      ⟨present, remaining, rfl, rfl, rfl, rfl, rfl, rfl, rfl, fun _ mem => mem,
        fun _ mem => .inr mem⟩
    apply rightful.advance step (fun _ _ => rfl)
    · cases mode : current.mode with
      | start => exact .inr ⟨rfl, .inl rfl⟩
      | stop =>
        -- a stop is refused where there is no task
        left
        cases absent : state.tasks ecu with
        | none => exact absent
        | some task =>
          simp [TesterPresentState.step, present, remaining, mode, controlTesterPresent,
            absent] at taken
          have changed := congrArg (fun state => state.tasks ecu) taken
          simp [TesterPresentState.enter, absent] at changed
    · intro other start isOwed
      exact rightful.owed_before isOwed present step.calls rfl rfl fun _ success => success
  | @started found isStart absent isFound =>
    have alive : 0 < found.testerPresentTime := by
      have timed : (ecus.all fun found => found.name != ecu || 0 < found.testerPresentTime) =
          true := by
        simpa only [TesterPresentState.guarded, looksAt, absent, isStart] using guarded
      have known := List.all_eq_true.mp timed found (List.mem_of_find?_eq_some isFound)
      have named := List.find?_some isFound
      simp only [beq_iff_eq] at named
      simpa [named] using known
    apply rightful.advance (step _)
    · intro other ne
      exact update_of_ne ne ..
    · exact .inr ⟨isStart, .inr ⟨_, update_self .., List.mem_cons_self⟩⟩
    · intro other start isOwed
      by_cases same : other = call
      · have startPresent := isOwed.1
        rw [same] at startPresent
        simp only [TesterPresentState.enter, update_self, Option.some.injEq] at startPresent
        simp only [TesterPresentState.enter, update_self, ← startPresent, same, alive, decide_true]
      · have occupied := rightful.owed_before isOwed present (step _).calls rfl rfl
          fun isCall => absurd isCall same
        rw [absent] at occupied
        cases occupied
  | @stopped task isStop taskPresent =>
    have own : task.type = current.type ∧ task.call < call := by
      simpa only [TesterPresentState.guarded, looksAt, taskPresent, isStop, decide_eq_true_eq]
        using guarded
    apply rightful.advance (step _)
    · intro other ne
      exact update_of_ne ne ..
    · exact .inl (update_self ..)
    · intro other start isOwed
      -- the task was owed to a start of the stop's type, and the stop came later
      have ne : other ≠ call := by
        intro same
        have startPresent := isOwed.1
        rw [same] at startPresent
        simp only [TesterPresentState.enter, update_self, Option.some.injEq] at startPresent
        have started := isOwed.2.1
        rw [← startPresent] at started
        rw [isStop] at started
        cases started
      have ownTask := rightful.owed_before isOwed present (step _).calls rfl rfl
        fun same => absurd same ne
      rw [taskPresent] at ownTask
      cases ownTask
      have earlier := isOwed.2.2.2 call _ (update_self ..) isStop own.1.symm
      exact absurd own.2 (Nat.lt_asymm earlier)

theorem Rightful.step {event : TesterPresentEvent} (guarded : state.guarded ecus event = true)
    (taken : state.step ecus event = some next) : Rightful ecus next := by
  cases event with
  | issue mode type =>
    cases taken
    exact rightful.issue mode type
  | control call => exact rightful.control guarded taken
  | complete call =>
    unfold TesterPresentState.step at taken
    simp only at taken
    split at taken
    case h_2 => cases taken
    case h_1 current present =>
      split at taken
      case isFalse => cases taken
      case isTrue done =>
        cases taken
        exact rightful.complete present done.1
  | check type =>
    cases taken
    exact rightful

theorem Rightful.startedNotStopped {ecu : String} {task : TesterPresentTask}
    (present : state.tasks ecu = some task) : state.StartedNotStopped task.type := by
  obtain ⟨start, startPresent, isStart, sameType, success, pending⟩ :=
    rightful.owner ecu task present
  refine ⟨task.call, start, startPresent, isStart, sameType, List.ne_nil_of_mem success, ?_⟩
  intro other stop stopPresent isStop stopType stopReturned returned startReturned
  by_contra later
  have waits := pending other stop returned stopPresent isStop (stopType.trans sameType.symm)
    startReturned (Nat.not_le.mp later)
  rw [rightful.returned other stop stopPresent stopReturned] at waits
  cases waits

theorem Rightful.respectful {event : TesterPresentEvent} (guarded : state.guarded ecus event = true)
    (taken : state.step ecus event = some next) : Respectful ecus state event next := by
  constructor
  · intro ecu task taskPresent changed
    cases event with
    | issue mode type | check type =>
      cases taken
      exact absurd taskPresent changed
    | complete call =>
      unfold TesterPresentState.step at taken
      simp only at taken
      split at taken
      case h_2 => cases taken
      case h_1 current present =>
        split at taken
        case isFalse => cases taken
        case isTrue done =>
          cases taken
          exact absurd taskPresent changed
    | control call =>
      obtain ⟨current, target, rest, present, remaining, controls⟩ := Controls.of_step taken
      cases controls with
      | refused => exact absurd taskPresent changed
      | started isStart absent isFound =>
        by_cases same : ecu = target
        · rw [same, absent] at taskPresent
          cases taskPresent
        · exact absurd (by simpa [TesterPresentState.enter, same] using taskPresent) changed
      | @stopped found isStop foundPresent =>
        by_cases same : ecu = target
        · rw [same, foundPresent] at taskPresent
          cases taskPresent
          have own : task.type = current.type ∧ task.call < call := by
            simpa only [TesterPresentState.guarded, TesterPresentState.found, present,
              remaining, foundPresent, isStop, decide_eq_true_eq] using guarded
          exact ⟨call, current, rfl, present, isStop, own.1.symm⟩
        · exact absurd (by simpa [TesterPresentState.enter, same] using taskPresent) changed
  · intro type isCheck active
    rw [isCheck] at guarded
    simp only [TesterPresentState.guarded, active, Bool.not_true, Bool.false_or,
      List.any_eq_true, beq_iff_eq, Option.map_eq_some_iff] at guarded
    obtain ⟨ecu, -, task, present, sameType⟩ := guarded
    rw [← sameType]
    exact rightful.startedNotStopped present

end

/-- The steps under which the owners do not get in each other's way. -/
def GuardedTesterStep (ecus : TesterPresentEcus) (state : TesterPresentState)
    (event : TesterPresentEvent) (next : TesterPresentState) : Prop :=
  state.step ecus event = some next ∧ state.guarded ecus event = true

theorem keepsRunning_and_respectful_of_run {events : List TesterPresentEvent}
    (run : Run (GuardedTesterStep ecus) .initial events state) :
    KeepsRunning state ∧ ∀ event next, GuardedTesterStep ecus state event next →
      Respectful ecus state event next := by
  have rightful : Rightful ecus state := by
    apply run.keeps (fun _ state => Rightful ecus state) rightful_initial
    intro events event state next rightful ⟨taken, guarded⟩
    exact rightful.step guarded taken
  refine ⟨rightful.keepsRunning, ?_⟩
  intro event next ⟨taken, guarded⟩
  exact rightful.respectful guarded taken

def gatewayInTwoGroups : TesterPresentEcus :=
  [⟨"gateway", 0x1000, 0x1000, true, ["powertrain", "chassis"], 2000000⟩,
    ⟨"engine", 0x1001, 0x1000, true, ["powertrain"], 2000000⟩]

def groupAfterGroup : List TesterPresentEvent :=
  [.issue .start (.functional "powertrain"), .control 0, .complete 0,
    .check (.functional "powertrain"), .issue .start (.ecu "engine"), .control 1, .complete 1,
    .issue .stop (.functional "powertrain"), .control 2, .complete 2,
    .check (.functional "powertrain"), .issue .start (.functional "chassis"), .control 3]

theorem keepsRunning_and_respectful_groupAfterGroup :
    ∃ state, Run (GuardedTesterStep gatewayInTwoGroups) .initial groupAfterGroup state ∧
      state.tasks "gateway" = some ⟨.functional "chassis", true, 3⟩ ∧
      state.tasks "engine" = some ⟨.ecu "engine", true, 1⟩ ∧
      KeepsRunning state ∧ ∀ event next, GuardedTesterStep gatewayInTwoGroups state event next →
        Respectful gatewayInTwoGroups state event next := by
  have run : ∃ state, Run (GuardedTesterStep gatewayInTwoGroups) .initial groupAfterGroup state ∧
      state.tasks "gateway" = some ⟨.functional "chassis", true, 3⟩ ∧
      state.tasks "engine" = some ⟨.ecu "engine", true, 1⟩ :=
    ⟨_, Run.of_guarded_foldlM rfl, rfl, rfl⟩
  obtain ⟨state, guarded, gateway, engine⟩ := run
  exact ⟨state, guarded, gateway, engine, keepsRunning_and_respectful_of_run guarded⟩

/-- Both groups are locked; the lock on the second is released. -/
def groupInsideGroup : List TesterPresentEvent :=
  [.issue .start (.functional "powertrain"), .control 0, .complete 0,
    .issue .start (.functional "chassis"), .control 1, .complete 1,
    .issue .stop (.functional "chassis"), .control 2]

/-- The stop for one group ends the other group's task; and a task of a group makes the
check for its gateway true. -/
theorem stop_ends_foreign_task : (¬ ∀ ecus events state, Run (fun state event next =>
        TesterPresentState.step ecus state event = some next) .initial events state →
      KeepsRunning state) ∧
    ¬ ∀ ecus events state event next, Run (fun state event next =>
        TesterPresentState.step ecus state event = some next) .initial events state →
      state.step ecus event = some next → Respectful ecus state event next := by
  constructor
  · intro keepsRunning
    have run : ∃ (state : TesterPresentState) (first second stop : TesterPresentCall),
        Run (fun state event next =>
          TesterPresentState.step gatewayInTwoGroups state event = some next)
          .initial groupInsideGroup state ∧
        state.calls 0 = some first ∧ state.calls 1 = some second ∧ state.calls 2 = some stop ∧
        (∀ call, state.calls (call + 3) = none) ∧ first.mode = .start ∧
        first.type = .functional "powertrain" ∧ second.mode = .start ∧
        stop.type = .functional "chassis" ∧ "gateway" ∈ first.succeeded ∧
        state.tasks "gateway" = none := by
      refine ⟨_, _, _, _, Run.of_foldlM rfl, rfl, rfl, rfl, ?_, rfl, rfl, rfl, rfl,
        List.mem_cons_self, rfl⟩
      intro call
      rfl
    obtain ⟨state, first, second, stop, run, firstAt, secondAt, stopAt, absent, firstMode,
      firstType, secondMode, stopType, success, gone⟩ := run
    have owed : state.Owed 0 first "gateway" := by
      refine ⟨firstAt, firstMode, success, ?_⟩
      intro call other present isStop sameType
      match call with
      | 0 =>
        rw [firstAt] at present
        cases present
        rw [firstMode] at isStop
        cases isStop
      | 1 =>
        rw [secondAt] at present
        cases present
        rw [secondMode] at isStop
        cases isStop
      | 2 =>
        rw [stopAt] at present
        cases present
        rw [stopType, firstType] at sameType
        exact absurd sameType (by decide)
      | call + 3 =>
        rw [absent call] at present
        cases present
    obtain ⟨task, present, -⟩ := keepsRunning _ _ _ run 0 first "gateway" owed
    rw [gone] at present
    cases present
  · intro respectful
    have run : ∃ (state : TesterPresentState) (start : TesterPresentCall),
        Run (fun state event next =>
          TesterPresentState.step gatewayInTwoGroups state event = some next)
          .initial [.issue .start (.functional "powertrain"), .control 0] state ∧
        state.calls 0 = some start ∧ start.type = .functional "powertrain" ∧
        (∀ call, state.calls (call + 1) = none) ∧
        state.checkTesterPresentActive gatewayInTwoGroups (.ecu "gateway") = true := by
      refine ⟨_, _, Run.of_foldlM rfl, rfl, rfl, ?_, rfl⟩
      intro call
      rfl
    obtain ⟨state, start, run, startAt, startType, absent, active⟩ := run
    obtain ⟨call, found, present, -, sameType, -⟩ :=
      (respectful _ _ _ (.check (.ecu "gateway")) state run rfl).checked _ rfl active
    match call with
    | 0 =>
      rw [startAt] at present
      cases present
      rw [startType] at sameType
      cases sameType
    | call + 1 =>
      rw [absent call] at present
      cases present

end DiagnosticAdapter.Uds
