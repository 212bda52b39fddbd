import DiagnosticAdapter.Detection.EcuState
import DiagnosticAdapter.Effects.Run

/-!
# Detection triggers

`detect_variant_with_trigger` up to and after its detection run, as any number of
callers interleave.  Every loaded ECU has a coordinator handle; a trigger bumps the
generation of its representative's handle, waits for the handle's lock, compares, and
looks at the state of its own ECU.  The order in which waiters get the lock is left
open, and the states of the ECUs change at any time.
-/

namespace DiagnosticAdapter.Detection

open Function

inductive DetectionTrigger where
  | forced
  | ifNeeded
  deriving DecidableEq, Repr

inductive TriggerPhase where
  /-- `begin_detection` has bumped the generation. -/
  | waiting
  /-- The lock is there, the generation is not compared yet. -/
  | acquired
  /-- The trigger was the newest when it compared. -/
  | current
  | running
  | returned (ok : Bool)
  | dropped
  deriving DecidableEq, Repr

structure Trigger where
  ecuName : String
  trigger : DetectionTrigger
  representative : String
  generation : UInt64
  issuedAt : Nat
  startedAt : Option Nat
  phase : TriggerPhase

def Trigger.waitsOrRuns (trigger : Trigger) : Bool :=
  match trigger.phase with
  | .returned _ | .dropped => false
  | _ => true

inductive TriggerEvent where
  | issue (ecuName : String) (trigger : DetectionTrigger)
  | acquire (call : Nat)
  | compare (call : Nat)
  /-- The look at the state, where the trigger takes one. -/
  | check (call : Nat)
  | finish (call : Nat) (ok : Bool)
  /-- The caller goes away while it awaits the lock or its detection. -/
  | drop (call : Nat)
  | write (ecuName : String) (status : EcuState)

structure TriggerState where
  ecuStates : String → EcuState
  generation : String → UInt64
  detectionLock : String → Option Nat
  triggers : Nat → Option Trigger
  issued : Nat
  /-- Counts the triggers issued and the runs begun. -/
  clock : Nat

namespace TriggerState

def initial : TriggerState where
  ecuStates := fun _ => .default
  generation := fun _ => 0
  detectionLock := fun _ => none
  triggers := fun _ => none
  issued := 0
  clock := 0

/-- `fetch_add(1, SeqCst).wrapping_add(1)`. -/
def issue (fleet : Fleet) (ecuName : String) (trigger : DetectionTrigger)
    (state : TriggerState) : TriggerState :=
  let representative := fleet.duplicateGroupRepresentative ecuName
  let generation := state.generation representative + 1
  { state with
    generation := update state.generation representative generation
    triggers := update state.triggers state.issued
      (some ⟨ecuName, trigger, representative, generation, state.clock, none, .waiting⟩)
    issued := state.issued + 1
    clock := state.clock + 1 }

def enter (call : Nat) (trigger : Trigger) (state : TriggerState) : TriggerState :=
  { state with triggers := update state.triggers call (some trigger) }

def lock (call : Nat) (trigger : Trigger) (state : TriggerState) : TriggerState :=
  { state with
    detectionLock := update state.detectionLock trigger.representative (some call) }

def unlock (trigger : Trigger) (state : TriggerState) : TriggerState :=
  { state with
    detectionLock := update state.detectionLock trigger.representative none }

def leave (call : Nat) (trigger : Trigger) (phase : TriggerPhase) (state : TriggerState) :
    TriggerState :=
  (state.unlock trigger).enter call { trigger with phase := phase }

def begin (call : Nat) (trigger : Trigger) (state : TriggerState) : TriggerState :=
  { state with clock := state.clock + 1 }.enter call
    { trigger with phase := .running, startedAt := some state.clock }

/-- `DetectionTrigger::IfNeeded` finds nothing to do. -/
def obsolete (trigger : Trigger) (state : TriggerState) : Bool :=
  trigger.trigger == .ifNeeded && !needsVariantDetection (state.ecuStates trigger.ecuName)

def step (fleet : Fleet) (state : TriggerState) : TriggerEvent → Option TriggerState
  | .issue ecuName trigger =>
    -- another ECU is refused before anything is claimed
    if ecuName ∈ fleet.loaded then some (state.issue fleet ecuName trigger) else none
  | .acquire call =>
    match state.triggers call with
    | some trigger =>
      if trigger.phase = .waiting ∧ state.detectionLock trigger.representative = none then
        some ((state.lock call trigger).enter call { trigger with phase := .acquired })
      else
        none
    | none => none
  | .compare call =>
    match state.triggers call with
    | some trigger =>
      if trigger.phase = .acquired then
        if state.generation trigger.representative = trigger.generation then
          some (state.enter call { trigger with phase := .current })
        else
          some (state.leave call trigger (.returned true))
      else
        none
    | none => none
  | .check call =>
    match state.triggers call with
    | some trigger =>
      if trigger.phase = .current then
        if state.obsolete trigger then
          some (state.leave call trigger (.returned true))
        else
          some (state.begin call trigger)
      else
        none
    | none => none
  | .finish call ok =>
    match state.triggers call with
    | some trigger =>
      if trigger.phase = .running then
        some (state.leave call trigger (.returned ok))
      else
        none
    | none => none
  | .drop call =>
    match state.triggers call with
    | some trigger =>
      match trigger.phase with
      | .waiting => some (state.enter call { trigger with phase := .dropped })
      | .running => some (state.leave call trigger .dropped)
      | _ => none
    | none => none
  | .write ecuName status =>
    some { state with ecuStates := update state.ecuStates ecuName status }

end TriggerState

inductive TriggerStep (fleet : Fleet) (state : TriggerState) :
    TriggerEvent → TriggerState → Prop where
  | issued {ecuName trigger} :
      TriggerStep fleet state (.issue ecuName trigger) (state.issue fleet ecuName trigger)
  | acquired {call trigger} :
      state.triggers call = some trigger → trigger.phase = .waiting →
      state.detectionLock trigger.representative = none →
      TriggerStep fleet state (.acquire call)
        ((state.lock call trigger).enter call { trigger with phase := .acquired })
  | current {call trigger} :
      state.triggers call = some trigger → trigger.phase = .acquired →
      TriggerStep fleet state (.compare call) (state.enter call { trigger with phase := .current })
  | superseded {call trigger} :
      state.triggers call = some trigger → trigger.phase = .acquired →
      state.generation trigger.representative ≠ trigger.generation →
      TriggerStep fleet state (.compare call) (state.leave call trigger (.returned true))
  | obsolete {call trigger} :
      state.triggers call = some trigger → trigger.phase = .current →
      trigger.trigger = .ifNeeded → state.obsolete trigger = true →
      TriggerStep fleet state (.check call) (state.leave call trigger (.returned true))
  | begun {call trigger} :
      state.triggers call = some trigger → trigger.phase = .current →
      TriggerStep fleet state (.check call) (state.begin call trigger)
  | finished {call ok trigger} :
      state.triggers call = some trigger → trigger.phase = .running →
      TriggerStep fleet state (.finish call ok) (state.leave call trigger (.returned ok))
  | droppedWaiting {call trigger} :
      state.triggers call = some trigger → trigger.phase = .waiting →
      TriggerStep fleet state (.drop call) (state.enter call { trigger with phase := .dropped })
  | droppedRunning {call trigger} :
      state.triggers call = some trigger → trigger.phase = .running →
      TriggerStep fleet state (.drop call) (state.leave call trigger .dropped)
  | written {ecuName status} :
      TriggerStep fleet state (.write ecuName status)
        { state with ecuStates := update state.ecuStates ecuName status }

theorem TriggerStep.of_step {fleet : Fleet} {state next : TriggerState} {event : TriggerEvent}
    (taken : state.step fleet event = some next) : TriggerStep fleet state event next := by
  unfold TriggerState.step at taken
  cases event with
  | issue ecuName trigger =>
    simp only at taken
    split at taken
    case isTrue => cases taken; exact .issued
    case isFalse => cases taken
  | acquire call =>
    simp only at taken
    split at taken
    case h_2 => cases taken
    case h_1 trigger present =>
      split at taken
      case isTrue ready => cases taken; exact .acquired present ready.1 ready.2
      case isFalse => cases taken
  | compare call =>
    simp only at taken
    split at taken
    case h_2 => cases taken
    case h_1 trigger present =>
      split at taken
      case isFalse => cases taken
      case isTrue phase =>
        split at taken
        case isTrue => cases taken; exact .current present phase
        case isFalse differs => cases taken; exact .superseded present phase differs
  | check call =>
    simp only at taken
    split at taken
    case h_2 => cases taken
    case h_1 trigger present =>
      split at taken
      case isFalse => cases taken
      case isTrue phase =>
        split at taken
        case isTrue obsolete =>
          cases taken
          have ifNeeded : trigger.trigger = .ifNeeded := by
            simp only [TriggerState.obsolete, Bool.and_eq_true, beq_iff_eq] at obsolete
            exact obsolete.1
          exact .obsolete present phase ifNeeded obsolete
        case isFalse => cases taken; exact .begun present phase
  | finish call ok =>
    simp only at taken
    split at taken
    case h_2 => cases taken
    case h_1 trigger present =>
      split at taken
      case isFalse => cases taken
      case isTrue phase => cases taken; exact .finished present phase
  | drop call =>
    simp only at taken
    split at taken
    case h_2 => cases taken
    case h_1 trigger present =>
      split at taken
      case h_1 phase => cases taken; exact .droppedWaiting present phase
      case h_2 phase => cases taken; exact .droppedRunning present phase
      case h_3 => cases taken
  | write ecuName status =>
    cases taken
    exact .written

end DiagnosticAdapter.Detection
