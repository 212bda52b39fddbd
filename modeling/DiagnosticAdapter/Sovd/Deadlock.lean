import DiagnosticAdapter.Sovd.Frame

/-!
# Freedom from deadlock

Every handler but `validate_lock` and `validate_fg_lock` takes the vehicle guard first.
These two ask for it last, so they must not meet a writer of the vehicle level.
-/

namespace DiagnosticAdapter.Sovd

open Effects Function

variable {ecuFunctionalGroups : String → Except ApiError (List String)}

/-- `validate_lock` and `validate_fg_lock`, at the given await. -/
def Phase.ValidatesAt (point : ValidatePoint) (phase : Phase) : Prop :=
  (∃ sub ecu, phase = .validateLock sub ecu point) ∨
    ∃ sub group, phase = .validateFgLock sub group point

/-- The condition on a step: when one of the two asks for the vehicle guard, no process
has or wants to have the write guard of that level. -/
def Unobstructed (state : State) : Event → Prop
  | .resume pid _ =>
    (state.processes pid).phase.ValidatesAt .own → ∀ other,
      (.vehicle, .write) ∉ (state.processes other).holds ∧
      (state.processes other).waits ≠ some (.vehicle, .write)
  | _ => True

def Process.Validating (process : Process) : Prop :=
  process.granted = false ∧ process.phase.ValidatesAt .vehicle

theorem Process.Validating.waits {process : Process} (validating : process.Validating) :
    process.waits = some (.vehicle, .read) := by
  obtain ⟨notGranted, ⟨sub, name, phase⟩ | ⟨sub, name, phase⟩⟩ := validating
  · simp [Process.waits, notGranted, phase, Phase.wanted]
  · simp [Process.waits, notGranted, phase, Phase.wanted]

/-- Who waits with a guard in hand asks for the vehicle guard last or has one. In the second case
only the vehicle POST has a guard of the ECUs, only the ECU POST one of the groups. -/
theorem Process.validating_or_ordered {process : Process} {guard wanted : LockType × Mode}
    (holds : guard ∈ process.holds) (waits : process.waits = some wanted) :
    process.Validating ∨ wanted.1 ≠ .vehicle ∧
      (guard.1 = .ecu → (.vehicle, .write) ∈ process.holds ∧ wanted.1 = .functionalGroup) ∧
      (guard.1 = .functionalGroup → (.vehicle, .read) ∈ process.holds ∧ wanted.1 = .ecu) := by
  have notGranted : process.granted = false := by
    by_contra granted
    simp [Process.waits, granted] at waits
  simp only [Process.waits, notGranted, Bool.false_eq_true, if_false] at waits
  simp only [Process.holds, notGranted, Bool.false_eq_true, if_false, List.append_nil] at holds ⊢
  cases phase : process.phase with
  | validateLock sub ecu point =>
    rw [phase] at holds
    cases point with
    | own => cases holds
    | vehicle => exact .inl ⟨notGranted, .inl ⟨sub, ecu, phase⟩⟩
  | validateFgLock sub group point =>
    rw [phase] at holds
    cases point with
    | own => cases holds
    | vehicle => exact .inl ⟨notGranted, .inr ⟨sub, group, phase⟩⟩
  | ecuPost request ecu point | vehiclePost request point =>
    rw [phase] at holds waits
    right
    cases point <;> cases waits <;> simp_all [Phase.held]
    rcases holds with rfl | rfl <;> simp
  | groupPost request group point =>
    rw [phase] at holds waits
    right
    cases point <;> cases waits <;> simp_all [Phase.held]
  | sweep level response =>
    rw [phase] at holds waits
    right
    cases level <;> cases waits <;> simp_all [Phase.held, SweptLevel.lockType]
  | cleanup entity response | sweepCleanup level response =>
    rw [phase] at waits
    cases waits
  | _ =>
    rw [phase] at holds
    cases holds

/-- A validation that waits for its vehicle guard has only readers before it. -/
structure Unhindered (state : State) : Prop where
  noWriter : ∀ pid, (state.processes pid).Validating → ∀ other,
    (.vehicle, .write) ∉ (state.processes other).holds
  readersAhead : (state.queue .vehicle).Pairwise fun other pid =>
    (state.processes pid).Validating → (state.processes other).waits = some (.vehicle, .read)

namespace Unhindered

variable {state : State} {pid : Pid}

theorem initial (ecuNames : List String) : Unhindered (State.initial ecuNames) where
  noWriter := by
    intro pid validating other holds
    cases holds
  readersAhead := List.Pairwise.nil

theorem enter (unhindered : Unhindered state) (queued : state.guards.Queued) {phase : Phase}
    (ready : (state.processes pid).waits = none)
    (kept : (.vehicle, .write) ∈ phase.held → ∀ other, ¬ (state.processes other).Validating)
    (clear : phase.ValidatesAt .vehicle → ∀ other,
      (.vehicle, .write) ∉ (state.processes other).holds ∧
      (state.processes other).waits ≠ some (.vehicle, .write)) :
    Unhindered (state.enter pid phase) := by
  have own : (⟨phase, false⟩ : Process).holds = phase.held := by simp [Process.holds]
  constructor
  · intro validator validating other holds
    rw [State.enter_processes] at validating holds
    by_cases isPid : validator = pid
    · subst isPid
      rw [update_self] at validating
      by_cases same : other = validator
      · subst same
        rw [update_self, own] at holds
        -- a validation has no guard of the vehicle level
        rcases validating.2 with ⟨sub, name, rfl⟩ | ⟨sub, name, rfl⟩ <;>
          simp [Phase.held] at holds
      · rw [update_of_ne same] at holds
        exact (clear validating.2 other).1 holds
    · rw [update_of_ne isPid] at validating
      by_cases same : other = pid
      · subst same
        rw [update_self, own] at holds
        exact kept holds validator validating
      · rw [update_of_ne same] at holds
        exact unhindered.noWriter validator validating other holds
  · have outside (other : Pid) (inQueue : other ∈ state.queue .vehicle) : other ≠ pid := by
      intro same
      subst same
      obtain ⟨mode, waits⟩ := (queued.waiting .vehicle other).mp inQueue
      change (state.processes other).waits = _ at waits
      rw [ready] at waits
      cases waits
    have earlier : (state.queue .vehicle).Pairwise fun other validator =>
        ((state.enter pid phase).processes validator).Validating →
          ((state.enter pid phase).processes other).waits = some (.vehicle, .read) := by
      apply unhindered.readersAhead.imp_of_mem
      intro other validator otherQueued validatorQueued ahead
      rw [State.enter_processes, update_of_ne (outside other otherQueued),
        update_of_ne (outside validator validatorQueued)]
      exact ahead
    have last (other : Pid) (inQueue : other ∈ state.queue .vehicle) :
        ((state.enter pid phase).processes pid).Validating →
          ((state.enter pid phase).processes other).waits = some (.vehicle, .read) := by
      intro validating
      rw [State.enter_processes, update_self] at validating
      rw [State.enter_processes, update_of_ne (outside other inQueue)]
      obtain ⟨mode, waits⟩ := (queued.waiting .vehicle other).mp inQueue
      change (state.processes other).waits = _ at waits
      cases mode with
      | read => exact waits
      | write => exact absurd waits (clear validating.2 other).2
    rcases State.enter_queue pid phase state .vehicle with same | appended
    · rw [same]
      exact earlier
    · rw [appended]
      apply List.pairwise_append.mpr
      refine ⟨earlier, List.pairwise_singleton .., ?_⟩
      intro other inQueue validator isPid
      rw [List.mem_singleton.mp isPid]
      exact last other inQueue

theorem apply (unhindered : Unhindered state) (coherent : Coherent state) (action : Action) :
    Unhindered (state.apply action) := by
  have before (other : Pid) (validating : ((state.apply action).processes other).Validating) :
      (state.processes other).Validating := by
    rw [← State.apply_processes_of_waits validating.waits]
    exact validating
  constructor
  · intro validator validating other holds
    exact unhindered.noWriter validator (before validator validating) other
      (State.apply_holds_subset action state other holds)
  · have fewer := unhindered.readersAhead.sublist (State.apply_queue_sublist action state .vehicle)
    apply fewer.imp_of_mem
    intro other validator otherQueued _ ahead validating
    obtain ⟨mode, waits⟩ := ((coherent.apply action).queued.waiting .vehicle other).mp otherQueued
    rw [State.apply_processes_of_waits waits]
    exact ahead (before validator validating)

theorem handOver (unhindered : Unhindered state) (coherent : Coherent state) {level : LockType}
    {mode : Mode} (waits : (state.processes pid).waits = some (level, mode))
    (first : (state.queue level).head? = some pid) :
    Unhindered (state.handOver pid level) := by
  have before (other : Pid)
      (validating : ((state.handOver pid level).processes other).Validating) :
      other ≠ pid ∧ (state.processes other).Validating := by
    rw [State.handOver_processes] at validating
    by_cases same : other = pid
    · subst same
      rw [update_self] at validating
      cases validating.1
    · rw [update_of_ne same] at validating
      exact ⟨same, validating⟩
  obtain ⟨rest, queue⟩ : ∃ rest, state.queue level = pid :: rest :=
    List.head?_eq_some_iff.mp first
  constructor
  · intro validator validating other holds
    obtain ⟨distinct, earlier⟩ := before validator validating
    have free := unhindered.noWriter validator earlier other
    rw [State.handOver_processes] at holds
    by_cases same : other = pid
    · subst same
      rw [update_self] at holds
      rcases List.mem_append.mp holds with held | wanted
      · exact free (List.mem_append_left _ held)
      · -- the validation stands behind, so the guard is a read guard
        have isWanted : (state.processes other).waits = some (.vehicle, .write) := by
          have notGranted : (state.processes other).granted = false := by
            by_contra granted
            simp [Process.waits, granted] at waits
          simpa [Process.waits, notGranted] using wanted
        rw [waits] at isWanted
        cases isWanted
        have behind : validator ∈ rest := by
          have inQueue := (coherent.queued.waiting .vehicle validator).mpr ⟨_, earlier.waits⟩
          change validator ∈ state.queue .vehicle at inQueue
          rw [queue] at inQueue
          exact (List.mem_cons.mp inQueue).resolve_left distinct
        have ahead := unhindered.readersAhead
        rw [queue, List.pairwise_cons] at ahead
        have reads := ahead.1 validator behind earlier
        rw [waits] at reads
        cases reads
    · rw [update_of_ne same] at holds
      exact free holds
  · have fewer : ((state.handOver pid level).queue .vehicle).Sublist (state.queue .vehicle) := by
      simp only [State.handOver]
      by_cases same : LockType.vehicle = level
      · subst same
        rw [update_self]
        exact List.tail_sublist _
      · rw [update_of_ne same]
    have outside (other : Pid) (inQueue : other ∈ (state.handOver pid level).queue .vehicle) :
        other ≠ pid := by
      intro same
      subst same
      simp only [State.handOver] at inQueue
      by_cases sameLevel : LockType.vehicle = level
      · subst sameLevel
        rw [update_self, queue] at inQueue
        have distinct := coherent.queued.nodup .vehicle
        simp only [State.guards, queue, List.nodup_cons] at distinct
        exact distinct.1 inQueue
      · rw [update_of_ne sameLevel] at inQueue
        obtain ⟨otherMode, otherWaits⟩ := (coherent.queued.waiting .vehicle other).mp inQueue
        change (state.processes other).waits = _ at otherWaits
        rw [waits] at otherWaits
        cases otherWaits
        exact sameLevel rfl
    apply (unhindered.readersAhead.sublist fewer).imp_of_mem
    intro other validator otherQueued _ ahead validating
    rw [State.handOver_processes, update_of_ne (outside other otherQueued)]
    exact ahead (before validator validating).2

theorem validatesAt_own_of_turn {view : View} {answers : Answers} {phase next : Phase}
    {action : Action} (turn : Turn ecuFunctionalGroups view answers phase action next)
    (validates : next.ValidatesAt .vehicle) : phase.ValidatesAt .own := by
  cases turn with
  | validates => exact .inl ⟨_, _, rfl⟩
  | validatesFg => exact .inr ⟨_, _, rfl⟩
  | _ => simp [Phase.ValidatesAt] at validates

theorem step {event : Event} {next : State} (unhindered : Unhindered state)
    (coherent : Coherent state) (stepped : Step ecuFunctionalGroups state event next)
    (unobstructed : Unobstructed state event) : Unhindered next := by
  rcases State.step_cases stepped with ⟨call, rfl, rfl⟩ |
    ⟨pid, level, mode, rfl, waits, first, -, rfl⟩ |
    ⟨pid, answers, action, phase, rfl, ready, resumed, rfl⟩
  · have later : Unhindered { state with spawned := state.spawned + 1 } :=
      ⟨unhindered.noWriter, unhindered.readersAhead⟩
    apply later.enter coherent.queued (coherent.idle_of_unborn le_rfl).2
    · intro held
      cases call <;> cases held
    · intro validates
      cases call <;> simp [Call.phase, Phase.ValidatesAt] at validates
  · exact unhindered.handOver coherent waits first
  · have turn := resume_turn resumed
    have born := coherent.born_of_resume resumed
    apply (unhindered.apply coherent action).enter (coherent.apply action).queued
    · rcases State.apply_processes action state pid with same | aborted | ⟨new, -⟩
      · rw [same]
        exact ready
      · rw [aborted]
        rfl
      · exact absurd new born.ne
    · intro held other validating
      have holds := Process.mem_holds_of_ready ready (turn.held_subset held)
      rw [State.apply_processes_of_waits validating.waits] at validating
      exact unhindered.noWriter other validating pid holds
    · intro validates other
      have clear := unobstructed (validatesAt_own_of_turn turn validates) other
      constructor
      · intro holds
        exact clear.1 (State.apply_holds_subset action state other holds)
      · intro waits
        rw [State.apply_processes_of_waits waits] at waits
        exact clear.2 waits

end Unhindered

theorem not_deadlocked {state : State} (coherent : Coherent state)
    (unhindered : Unhindered state) (members : Set Pid) : ¬ state.guards.Deadlocked members := by
  intro deadlocked
  have noValidation (pid : Pid) (mem : pid ∈ members) :
      ¬ (state.processes pid).Validating := by
    intro validating
    obtain ⟨place, placed⟩ := List.mem_iff_getElem?.mp
      ((coherent.queued.waiting .vehicle pid).mpr ⟨_, validating.waits⟩)
    obtain ⟨first, -, firstPlace, before, firstPlaced, holder, -, -, mode, holdMode, waits, holds,
      conflicts⟩ := deadlocked.exists_holder coherent.queued mem placed
    have reads : state.guards.waits first = some (.vehicle, .read) := by
      rcases before.eq_or_lt with same | ahead
      · rw [same, placed] at firstPlaced
        cases firstPlaced
        exact validating.waits
      · obtain ⟨placeBound, rfl⟩ := List.getElem?_eq_some_iff.mp placed
        obtain ⟨firstBound, rfl⟩ := List.getElem?_eq_some_iff.mp firstPlaced
        exact List.pairwise_iff_getElem.mp unhindered.readersAhead firstPlace place
          firstBound placeBound ahead validating
    rw [waits] at reads
    cases reads
    rcases conflicts with isWrite | rfl
    · cases isWrite
    · exact unhindered.noWriter pid validating holder holds
  -- who waits for an ECU guard waits in the end for a vehicle POST, which waits for an ECU POST
  have noEcu (pid : Pid) (mem : pid ∈ members) (mode : Mode) :
      (state.processes pid).waits ≠ some (.ecu, mode) := by
    intro waits
    obtain ⟨poster, posterMember, posterMode, posterHolds⟩ :=
      deadlocked.holder_of_waits coherent.queued mem waits
    obtain ⟨⟨level, wantedMode⟩, posterWaits⟩ :
        ∃ wanted, (state.processes poster).waits = some wanted := by
      obtain ⟨level, wanted, posterWaits⟩ := deadlocked.exists_waits posterMember
      exact ⟨_, posterWaits⟩
    obtain validating | ⟨-, ecu, -⟩ := Process.validating_or_ordered posterHolds posterWaits
    · exact noValidation poster posterMember validating
    obtain ⟨vehicleWrite, wantsGroup⟩ := ecu rfl
    simp only at wantsGroup
    subst wantsGroup
    obtain ⟨holder, holderMember, holderMode, holderHolds⟩ :=
      deadlocked.holder_of_waits coherent.queued posterMember posterWaits
    obtain ⟨level, wanted, holderWaits⟩ := deadlocked.exists_waits holderMember
    obtain validating | ⟨-, -, group⟩ := Process.validating_or_ordered holderHolds holderWaits
    · exact noValidation holder holderMember validating
    obtain ⟨vehicleRead, wantsEcu⟩ := group rfl
    have distinct : poster ≠ holder := by
      intro same
      subst same
      change (state.processes poster).waits = _ at holderWaits
      rw [posterWaits] at holderWaits
      cases holderWaits
      cases wantsEcu
    exact coherent.exclusive poster holder .vehicle .read distinct vehicleWrite vehicleRead
  have noGroup (pid : Pid) (mem : pid ∈ members) (mode : Mode) :
      (state.processes pid).waits ≠ some (.functionalGroup, mode) := by
    intro waits
    obtain ⟨holder, holderMember, holderMode, holderHolds⟩ :=
      deadlocked.holder_of_waits coherent.queued mem waits
    obtain ⟨level, wanted, holderWaits⟩ := deadlocked.exists_waits holderMember
    obtain validating | ⟨-, -, group⟩ := Process.validating_or_ordered holderHolds holderWaits
    · exact noValidation holder holderMember validating
    obtain ⟨-, wantsEcu⟩ := group rfl
    simp only at wantsEcu
    subst wantsEcu
    exact noEcu holder holderMember wanted holderWaits
  obtain ⟨pid, mem⟩ := deadlocked.1
  obtain ⟨level, mode, waits⟩ := deadlocked.exists_waits mem
  cases level with
  | ecu => exact noEcu pid mem mode waits
  | functionalGroup => exact noGroup pid mem mode waits
  | vehicle =>
    obtain ⟨holder, holderMember, holderMode, holderHolds⟩ :=
      deadlocked.holder_of_waits coherent.queued mem waits
    obtain ⟨level, wanted, holderWaits⟩ := deadlocked.exists_waits holderMember
    cases level with
    | ecu => exact noEcu holder holderMember wanted holderWaits
    | functionalGroup => exact noGroup holder holderMember wanted holderWaits
    | vehicle =>
      obtain validating | ⟨notVehicle, -⟩ :=
        Process.validating_or_ordered holderHolds holderWaits
      · exact noValidation holder holderMember validating
      · exact notVehicle rfl

/-- In every run in which no validation asks for the vehicle guard in the presence of a
writer, no set of requests is deadlocked. -/
theorem not_deadlocked_of_run {ecuNames : List String} {events : List Event} {state : State}
    (run : Run (fun state event next => Step ecuFunctionalGroups state event next ∧
      Unobstructed state event) (State.initial ecuNames) events state) :
    ¬ ∃ members, state.guards.Deadlocked members := by
  have kept := run.keeps (fun _ state => Coherent state ∧ Unhindered state)
    ⟨.initial ecuNames, .initial ecuNames⟩ ?_
  · intro ⟨members, deadlocked⟩
    exact not_deadlocked kept.1 kept.2 members deadlocked
  · intro _ _ _ _ ⟨coherent, unhindered⟩ ⟨stepped, unobstructed⟩
    exact ⟨coherent.step stepped, unhindered.step coherent stepped unobstructed⟩

/-- A vehicle POST that comes after `validate_lock` waits behind it. -/
theorem not_deadlocked_of_run_validation_first : ∃ events state,
      Run (fun state event next => Step (fun _ => .ok []) state event next ∧
        Unobstructed state event) (State.initial ["engine"]) events state ∧
      state.guards.waits 0 = some (.vehicle, .read) ∧
      state.guards.waits 1 = some (.vehicle, .write) ∧
      ¬ ∃ members, state.guards.Deadlocked members := by
  have free : Unobstructed (((State.initial ["engine"]).spawn
      (.validateLock "alice" "engine" .own)).handOver 0 .ecu) (.resume 0 (.atStart "")) := by
    intro _ other
    by_cases same : other = 0
    · subst same
      exact ⟨by decide, by decide⟩
    · have unborn : other ≠ (State.initial ["engine"]).spawned := same
      rw [State.handOver_processes, update_of_ne same, State.spawn_processes, update_of_ne unborn]
      exact ⟨List.not_mem_nil, fun waits => by cases waits⟩
  have run : Run (fun state event next => Step (fun _ => .ok []) state event next ∧
      Unobstructed state event) (State.initial ["engine"])
      ([] ++ [.arrive (.validateLock "alice" "engine")] ++ [.grant 0] ++ [.resume 0 (.atStart "")] ++
        [.arrive (.vehiclePost ⟨"bob", 10⟩)]) _ :=
    .step (.step (.step (.step .start ⟨rfl, trivial⟩) ⟨rfl, trivial⟩) ⟨rfl, free⟩) ⟨rfl, trivial⟩
  exact ⟨_, _, run, rfl, rfl, not_deadlocked_of_run run⟩

/-- `validate_lock` asks for the vehicle guard with the ECU guard in hand, the cleanup of the
vehicle DELETE the other way round. -/
def validationDuringDelete : List Event :=
  [.arrive (.vehiclePost ⟨"alice", 10⟩), .grant 0, .resume 0 (.atStart ""), .grant 0,
    .resume 0 (.atStart ""), .grant 0, .resume 0 (.atStart "v"),
    .arrive (.validateLock "alice" "engine"), .grant 2,
    .arrive (.delete .vehicle "v" "alice"), .grant 3, .resume 3 (.atStart ""),
    .resume 3 (.atStart ""), .resume 2 (.atStart "")]

theorem deadlock_of_validation_and_delete :
    ¬ ∀ (ecuFunctionalGroups : String → Except ApiError (List String))
        (ecuNames : List String) (events : List Event) (state : State),
      Run (Step ecuFunctionalGroups) (State.initial ecuNames) events state →
        ¬ ∃ members, state.guards.Deadlocked members := by
  intro neverDeadlocked
  have run : ∃ state,
      Run (Step fun _ => .ok []) (State.initial ["engine"]) validationDuringDelete state ∧
      state.guards.holds 2 = [(.ecu, .read)] ∧
      state.guards.waits 2 = some (.vehicle, .read) ∧
      state.guards.holds 3 = [(.vehicle, .write)] ∧
      state.guards.waits 3 = some (.ecu, .write) :=
    ⟨_, Run.of_foldlM rfl, rfl, rfl, rfl, rfl⟩
  obtain ⟨state, run, validationHolds, validationWaits, deleteHolds, deleteWaits⟩ := run
  apply neverDeadlocked _ _ _ state run
  refine ⟨{2, 3}, ⟨2, Or.inl rfl⟩, ?_⟩
  intro process mem
  rcases mem with rfl | rfl
  · have holds : (LockType.vehicle, Mode.write) ∈ state.guards.holds 3 := by
      rw [deleteHolds]
      exact List.mem_singleton_self _
    exact ⟨3, Or.inr rfl, by decide, .held validationWaits holds (Or.inr rfl)⟩
  · have holds : (LockType.ecu, Mode.read) ∈ state.guards.holds 2 := by
      rw [validationHolds]
      exact List.mem_singleton_self _
    exact ⟨2, Or.inl rfl, by decide, .held deleteWaits holds (Or.inl rfl)⟩

end DiagnosticAdapter.Sovd
