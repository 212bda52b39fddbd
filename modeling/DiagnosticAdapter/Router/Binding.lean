import DiagnosticAdapter.Effects.Run

/-!
# Binding ECUs to transports

`resolve_transport` of the transport router, with a step for each await point.  Any number
of calls run at the same time and share the bindings; what the gateways answer is left
open.
-/

namespace DiagnosticAdapter.Router

open Effects Function

inductive TransportType where
  | doip
  | can
  deriving DecidableEq, Repr

inductive RouteStatus where
  | notConfigured
  | ready
  | probeRequired
  | unavailable
  deriving DecidableEq, Repr

inductive ResolveError where
  | ecuOffline (ecuName : String)
  deriving DecidableEq, Repr

/-- An entry of `can.transport_overrides` in the configuration. -/
structure TransportOverride where
  ecuName : String
  transport : TransportType
  deriving DecidableEq, Repr

structure DiagnosticTransportRouter where
  toLowercase : String → String
  doipGateway : Bool
  canGateway : Bool
  transportOverrides : String → Option TransportType

inductive ResolvePhase where
  /-- Waiting for the read lock of the bindings. -/
  | readingBinding
  /-- `route_status` of the transport's gateway runs. -/
  | checkingRoute (transport : TransportType)
  | probing (transport : TransportType)
  /-- Waiting for the write lock of the bindings. -/
  | binding (transport : TransportType)
  | returned (result : Except ResolveError TransportType)
  | cancelled
  deriving DecidableEq, Repr

def ResolvePhase.isOpen : ResolvePhase → Bool
  | .returned _ => false
  | .cancelled => false
  | _ => true

structure ResolveCall where
  ecuName : String
  phase : ResolvePhase
  deriving DecidableEq, Repr

/-- A transport was ready, or probed with success, during a call. -/
structure Detected where
  call : Nat
  ecuName : String
  transport : TransportType
  deriving DecidableEq, Repr

/-- The detections are recorded, the code does not keep them. -/
structure RouterState where
  ecuBindings : String → Option TransportType
  calls : Nat → Option ResolveCall
  detections : List Detected

inductive RouterEvent where
  | resolve (call : Nat) (ecuName : String)
  | readBinding (call : Nat)
  | routeStatus (call : Nat) (status : RouteStatus)
  | probed (call : Nat) (success : Bool)
  | bind (call : Nat)
  | cancel (call : Nat)
  deriving DecidableEq, Repr

def RouterState.initial : RouterState := ⟨fun _ => none, fun _ => none, []⟩

def RouterState.setPhase (state : RouterState) (call : Nat) (ecuName : String)
    (phase : ResolvePhase) : RouterState :=
  { state with calls := update state.calls call (some ⟨ecuName, phase⟩) }

def RouterState.detect (state : RouterState) (detected : Detected) : RouterState :=
  { state with detections := detected :: state.detections }

namespace DiagnosticTransportRouter

/-- The map of the configured overrides; a later one replaces an earlier one. -/
def collectOverrides (toLowercase : String → String) (overrides : List TransportOverride) :
    String → Option TransportType :=
  overrides.foldl (fun collected override =>
    update collected (toLowercase override.ecuName) (some override.transport))
    fun _ => none

def new (toLowercase : String → String) (doipGateway canGateway : Bool)
    (overrides : List TransportOverride) : DiagnosticTransportRouter :=
  ⟨toLowercase, doipGateway, canGateway, collectOverrides toLowercase overrides⟩

variable (router : DiagnosticTransportRouter)

/-- The gateways that are there, `DoIP` first. -/
def afterDoip (ecuName : String) : ResolvePhase :=
  if router.canGateway then .checkingRoute .can else .returned (.error (.ecuOffline ecuName))

def firstTransport (ecuName : String) : ResolvePhase :=
  if router.doipGateway then .checkingRoute .doip else router.afterDoip ecuName

/-- `try_bind_transport` has returned `None`. -/
def notBound (ecuName : String) : TransportType → ResolvePhase
  | .doip => router.afterDoip ecuName
  | .can => .returned (.error (.ecuOffline ecuName))

def step (state : RouterState) : RouterEvent → Option RouterState
  | .resolve call ecuName =>
    match state.calls call with
    | some _ => none
    | none =>
      match router.transportOverrides (router.toLowercase ecuName) with
      | some pinned => some (state.setPhase call ecuName (.returned (.ok pinned)))
      | none => some (state.setPhase call ecuName .readingBinding)
  | .readBinding call =>
    match state.calls call with
    | some ⟨ecuName, .readingBinding⟩ =>
      match state.ecuBindings (router.toLowercase ecuName) with
      | some bound => some (state.setPhase call ecuName (.returned (.ok bound)))
      | none => some (state.setPhase call ecuName (router.firstTransport ecuName))
    | _ => none
  | .routeStatus call status =>
    match state.calls call with
    | some ⟨ecuName, .checkingRoute transport⟩ =>
      match status with
      | .ready =>
        some ((state.detect ⟨call, router.toLowercase ecuName, transport⟩).setPhase call
          ecuName (.binding transport))
      | .probeRequired => some (state.setPhase call ecuName (.probing transport))
      | .notConfigured | .unavailable =>
        some (state.setPhase call ecuName (router.notBound ecuName transport))
    | _ => none
  | .probed call success =>
    match state.calls call with
    | some ⟨ecuName, .probing transport⟩ =>
      if success then
        some ((state.detect ⟨call, router.toLowercase ecuName, transport⟩).setPhase call
          ecuName (.binding transport))
      else some (state.setPhase call ecuName (router.notBound ecuName transport))
    | _ => none
  | .bind call =>
    match state.calls call with
    | some ⟨ecuName, .binding transport⟩ =>
      -- `or_insert` under the write lock; nothing is awaited before the call returns
      let bound := (state.ecuBindings (router.toLowercase ecuName)).getD transport
      some { state.setPhase call ecuName (.returned (.ok bound)) with
        ecuBindings :=
          update state.ecuBindings (router.toLowercase ecuName) (some bound) }
    | _ => none
  | .cancel call =>
    match state.calls call with
    | some ⟨ecuName, phase⟩ =>
      if phase.isOpen then some (state.setPhase call ecuName .cancelled) else none
    | none => none

structure Moves (state next : RouterState) (call : Nat) (ecuName : String)
    (phase : ResolvePhase) : Prop where
  calls : next.calls = update state.calls call (some ⟨ecuName, phase⟩)
  before : state.calls call = none ∨
    ∃ old, state.calls call = some ⟨ecuName, old⟩ ∧ old.isOpen = true
  pinned : state.calls call = none → ∀ transport,
    router.transportOverrides (router.toLowercase ecuName) = some transport →
      phase = .returned (.ok transport)
  kept : ∀ ecu transport, state.ecuBindings ecu = some transport →
    next.ecuBindings ecu = some transport
  detections : ∀ detected ∈ state.detections, detected ∈ next.detections
  returned : ∀ transport, phase = .returned (.ok transport) →
    router.transportOverrides (router.toLowercase ecuName) = some transport ∨
      next.ecuBindings (router.toLowercase ecuName) = some transport
  binding : ∀ transport, phase = .binding transport →
    ⟨call, router.toLowercase ecuName, transport⟩ ∈ next.detections
  bound : ∀ ecu transport, next.ecuBindings ecu = some transport →
    state.ecuBindings ecu = some transport ∨
      ecu = router.toLowercase ecuName ∧ state.calls call = some ⟨ecuName, .binding transport⟩ ∧
        phase = .returned (.ok transport)

variable {router} {state next : RouterState} {event : RouterEvent} {call : Nat}
  {ecuName : String} {phase old : ResolvePhase}

theorem Moves.pins (fresh : state.calls call = none) {pinned : TransportType}
    (found : router.transportOverrides (router.toLowercase ecuName) = some pinned) :
    router.Moves state (state.setPhase call ecuName (.returned (.ok pinned))) call ecuName
      (.returned (.ok pinned)) where
  calls := rfl
  before := .inl fresh
  pinned _ transport same := by rw [Option.some.inj (found.symm.trans same)]
  kept _ _ bound := bound
  detections _ mem := mem
  returned _ same := by
    cases same
    exact .inl found
  binding _ same := by cases same
  bound _ _ bound := .inl bound

theorem Moves.starts (fresh : state.calls call = none)
    (unpinned : router.transportOverrides (router.toLowercase ecuName) = none) :
    router.Moves state (state.setPhase call ecuName .readingBinding) call ecuName
      .readingBinding where
  calls := rfl
  before := .inl fresh
  pinned _ _ same := by cases unpinned.symm.trans same
  kept _ _ bound := bound
  detections _ mem := mem
  returned _ same := by cases same
  binding _ same := by cases same
  bound _ _ bound := .inl bound

theorem Moves.reads (found : state.calls call = some ⟨ecuName, .readingBinding⟩)
    {bound : TransportType}
    (known : state.ecuBindings (router.toLowercase ecuName) = some bound) :
    router.Moves state (state.setPhase call ecuName (.returned (.ok bound))) call ecuName
      (.returned (.ok bound)) where
  calls := rfl
  before := .inr ⟨_, found, rfl⟩
  pinned fresh := absurd (fresh.symm.trans found) (by simp)
  kept _ _ bound := bound
  detections _ mem := mem
  returned _ same := by
    cases same
    exact .inr known
  binding _ same := by cases same
  bound _ _ bound := .inl bound

theorem Moves.binds {transport : TransportType}
    (found : state.calls call = some ⟨ecuName, .binding transport⟩) {bound : TransportType}
    (inserted : (state.ecuBindings (router.toLowercase ecuName)).getD transport = bound) :
    router.Moves state { state.setPhase call ecuName (.returned (.ok bound)) with
      ecuBindings := update state.ecuBindings (router.toLowercase ecuName) (some bound) }
      call ecuName (.returned (.ok bound)) where
  calls := rfl
  before := .inr ⟨_, found, rfl⟩
  pinned fresh := absurd (fresh.symm.trans found) (by simp)
  kept ecu earlier known := by
    by_cases same : ecu = router.toLowercase ecuName
    · subst same
      rw [known, Option.getD_some] at inserted
      simp [inserted]
    · simpa [update_of_ne same] using known
  detections _ mem := mem
  returned _ same := by
    cases same
    exact .inr (update_self ..)
  binding _ same := by cases same
  bound ecu later known := by
    by_cases same : ecu = router.toLowercase ecuName
    · subst same
      simp only [update_self, Option.some.injEq] at known
      cases unknown : state.ecuBindings (router.toLowercase ecuName) with
      | some earlier =>
        rw [unknown, Option.getD_some] at inserted
        exact .inl (by rw [inserted, known])
      | none =>
        rw [unknown, Option.getD_none] at inserted
        exact .inr ⟨rfl, by rw [found, inserted, known], by rw [known]⟩
    · simp only [update_of_ne same] at known
      exact .inl known

section

variable (found : state.calls call = some ⟨ecuName, old⟩) (isOpen : old.isOpen = true)

include found isOpen

theorem Moves.goesOn (open' : ∀ transport, phase ≠ .returned (.ok transport))
    (waits : ∀ transport, phase ≠ .binding transport) :
    router.Moves state (state.setPhase call ecuName phase) call ecuName phase where
  calls := rfl
  before := .inr ⟨old, found, isOpen⟩
  pinned fresh := absurd (fresh.symm.trans found) (by simp)
  kept _ _ bound := bound
  detections _ mem := mem
  returned transport same := absurd same (open' transport)
  binding transport same := absurd same (waits transport)
  bound _ _ bound := .inl bound

theorem Moves.detects (transport : TransportType) :
    router.Moves state ((state.detect ⟨call, router.toLowercase ecuName, transport⟩).setPhase call
      ecuName (.binding transport)) call ecuName (.binding transport) where
  calls := rfl
  before := .inr ⟨old, found, isOpen⟩
  pinned fresh := absurd (fresh.symm.trans found) (by simp)
  kept _ _ bound := bound
  detections _ mem := List.mem_cons_of_mem _ mem
  returned _ same := by cases same
  binding _ same := by
    cases same
    exact List.mem_cons_self
  bound _ _ bound := .inl bound

end

theorem afterDoip_goesOn (router : DiagnosticTransportRouter) (ecuName : String)
    (transport : TransportType) :
    router.afterDoip ecuName ≠ .returned (.ok transport) ∧
      router.afterDoip ecuName ≠ .binding transport := by
  unfold afterDoip
  split <;> simp

theorem firstTransport_goesOn (router : DiagnosticTransportRouter) (ecuName : String)
    (transport : TransportType) :
    router.firstTransport ecuName ≠ .returned (.ok transport) ∧
      router.firstTransport ecuName ≠ .binding transport := by
  unfold firstTransport
  split
  · simp
  · exact afterDoip_goesOn router ecuName transport

theorem notBound_goesOn (router : DiagnosticTransportRouter) (ecuName : String)
    (tried transport : TransportType) :
    router.notBound ecuName tried ≠ .returned (.ok transport) ∧
      router.notBound ecuName tried ≠ .binding transport := by
  cases tried with
  | doip => exact afterDoip_goesOn router ecuName transport
  | can => simp [notBound]

theorem moves_of_step (taken : router.step state event = some next) :
    ∃ call ecuName phase, router.Moves state next call ecuName phase := by
  cases event with
  | resolve call ecuName =>
    simp only [step] at taken
    split at taken
    · cases taken
    · rename_i fresh
      split at taken
      case h_1 pinned found =>
        cases taken
        exact ⟨call, ecuName, _, .pins fresh found⟩
      case h_2 unpinned =>
        cases taken
        exact ⟨call, ecuName, _, .starts fresh unpinned⟩
  | readBinding call =>
    simp only [step] at taken
    split at taken
    · rename_i ecuName found
      split at taken
      case h_1 bound known =>
        cases taken
        exact ⟨call, ecuName, _, .reads found known⟩
      case h_2 unknown =>
        cases taken
        exact ⟨call, ecuName, _, .goesOn found rfl
          (fun transport => (firstTransport_goesOn router ecuName transport).1)
          (fun transport => (firstTransport_goesOn router ecuName transport).2)⟩
    · cases taken
  | routeStatus call status =>
    simp only [step] at taken
    split at taken
    · rename_i ecuName transport found
      split at taken
      · cases taken
        exact ⟨call, ecuName, _, .detects found rfl transport⟩
      · cases taken
        exact ⟨call, ecuName, _, .goesOn found rfl (by simp) (by simp)⟩
      all_goals
        cases taken
        exact ⟨call, ecuName, _, .goesOn found rfl
          (fun other => (notBound_goesOn router ecuName transport other).1)
          (fun other => (notBound_goesOn router ecuName transport other).2)⟩
    · cases taken
  | probed call success =>
    simp only [step] at taken
    split at taken
    · rename_i ecuName transport found
      split at taken
      · cases taken
        exact ⟨call, ecuName, _, .detects found rfl transport⟩
      · cases taken
        exact ⟨call, ecuName, _, .goesOn found rfl
          (fun other => (notBound_goesOn router ecuName transport other).1)
          (fun other => (notBound_goesOn router ecuName transport other).2)⟩
    · cases taken
  | bind call =>
    simp only [step] at taken
    split at taken
    · rename_i ecuName transport found
      cases taken
      exact ⟨call, ecuName, _, .binds found rfl⟩
    · cases taken
  | cancel call =>
    simp only [step] at taken
    split at taken
    · rename_i ecuName phase found
      split at taken
      case isTrue isOpen =>
        cases taken
        exact ⟨call, ecuName, _, .goesOn found isOpen (by simp) (by simp)⟩
      case isFalse => cases taken
    · cases taken

/-- A call with this name, in any letter case. -/
def IsFor (router : DiagnosticTransportRouter) (state : RouterState) (call : Nat) (ecu : String)
    (phase : ResolvePhase) : Prop :=
  ∃ ecuName, state.calls call = some ⟨ecuName, phase⟩ ∧ router.toLowercase ecuName = ecu

structure Sticky (router : DiagnosticTransportRouter) (state : RouterState) : Prop where
  pinned : ∀ call ecu phase transport, router.IsFor state call ecu phase →
    router.transportOverrides ecu = some transport → phase = .returned (.ok transport)
  returned : ∀ call ecu transport, router.IsFor state call ecu (.returned (.ok transport)) →
    router.transportOverrides ecu = none → state.ecuBindings ecu = some transport
  binding : ∀ call ecu transport, router.IsFor state call ecu (.binding transport) →
    ⟨call, ecu, transport⟩ ∈ state.detections
  bound : ∀ ecu transport, state.ecuBindings ecu = some transport →
    ∃ call, router.IsFor state call ecu (.returned (.ok transport)) ∧
      ⟨call, ecu, transport⟩ ∈ state.detections

theorem sticky_initial (router : DiagnosticTransportRouter) : router.Sticky .initial := by
  constructor
  · rintro _ _ _ _ ⟨_, found, _⟩
    cases found
  · rintro _ _ _ ⟨_, found, _⟩
    cases found
  · rintro _ _ _ ⟨_, found, _⟩
    cases found
  · intro _ _ found
    cases found

theorem Moves.isFor_iff (moves : router.Moves state next call ecuName phase) {other : Nat}
    {ecu : String} {later : ResolvePhase} :
    router.IsFor next other ecu later ↔
      (other = call ∧ later = phase ∧ router.toLowercase ecuName = ecu) ∨
        (other ≠ call ∧ router.IsFor state other ecu later) := by
  rw [IsFor, moves.calls]
  by_cases same : other = call
  · subst same
    simp only [update_self, Option.some.injEq, ResolveCall.mk.injEq, ne_eq,
      not_true_eq_false, false_and, or_false, true_and]
    constructor
    · rintro ⟨_, ⟨rfl, rfl⟩, rfl⟩
      exact ⟨rfl, rfl⟩
    · rintro ⟨rfl, rfl⟩
      exact ⟨ecuName, ⟨rfl, rfl⟩, rfl⟩
  · simp only [update_of_ne same, same, false_and, false_or, ne_eq, not_false_eq_true,
      true_and]
    rfl

theorem Sticky.moves (sticky : router.Sticky state)
    (moves : router.Moves state next call ecuName phase) : router.Sticky next := by
  constructor
  · intro other ecu later transport isFor pin
    obtain ⟨rfl, rfl, rfl⟩ | ⟨_, before⟩ := moves.isFor_iff.mp isFor
    · obtain fresh | ⟨old, found, isOpen⟩ := moves.before
      · exact moves.pinned fresh transport pin
      · have closed := sticky.pinned other _ old transport ⟨ecuName, found, rfl⟩ pin
        rw [closed] at isOpen
        cases isOpen
    · exact sticky.pinned other ecu later transport before pin
  · intro other ecu transport isFor unpinned
    obtain ⟨rfl, rfl, rfl⟩ | ⟨_, before⟩ := moves.isFor_iff.mp isFor
    · obtain pin | bound := moves.returned transport rfl
      · cases unpinned.symm.trans pin
      · exact bound
    · exact moves.kept ecu transport (sticky.returned other ecu transport before unpinned)
  · intro other ecu transport isFor
    obtain ⟨rfl, rfl, rfl⟩ | ⟨_, before⟩ := moves.isFor_iff.mp isFor
    · exact moves.binding transport rfl
    · exact moves.detections _ (sticky.binding other ecu transport before)
  · intro ecu transport bound
    obtain before | ⟨rfl, found, rfl⟩ := moves.bound ecu transport bound
    · obtain ⟨binder, isFor, detected⟩ := sticky.bound ecu transport before
      refine ⟨binder, moves.isFor_iff.mpr (.inr ⟨?_, isFor⟩), moves.detections _ detected⟩
      -- the call that made the binding has returned and does not move again
      rintro rfl
      obtain ⟨name, answered, _⟩ := isFor
      obtain fresh | ⟨old, found, isOpen⟩ := moves.before
      · cases fresh.symm.trans answered
      · cases found.symm.trans answered
        cases isOpen
    · have detected := sticky.binding call _ transport ⟨ecuName, found, rfl⟩
      exact ⟨call, moves.isFor_iff.mpr (.inl ⟨rfl, rfl, rfl⟩), moves.detections _ detected⟩

theorem sticky_of_run {events : List RouterEvent}
    (run : Run (fun state event next => router.step state event = some next) .initial events
      state) : router.Sticky state := by
  refine run.keeps (fun _ state => router.Sticky state) (sticky_initial router) ?_
  intro _ event state next sticky taken
  obtain ⟨call, ecuName, phase, moves⟩ := moves_of_step taken
  exact sticky.moves moves

theorem collectOverrides_eq (toLowercase : String → String) (overrides : List TransportOverride)
    (ecu : String) :
    collectOverrides toLowercase overrides ecu =
      ((overrides.filter (toLowercase ·.ecuName == ecu)).getLast?).map (·.transport) := by
  induction overrides using List.reverseRecOn with
  | nil => rfl
  | append_singleton overrides override ih =>
    rw [collectOverrides, List.foldl_concat, List.filter_append]
    by_cases same : toLowercase override.ecuName = ecu
    · subst same
      simp
    · rw [update_of_ne (Ne.symm same)]
      exact ih.trans (by simp [same])

def pinOf (toLowercase : String → String) (overrides : List TransportOverride)
    (ecuName : String) : Option TransportType :=
  ((overrides.filter (toLowercase ·.ecuName == toLowercase ecuName)).getLast?).map (·.transport)

/-- A call for a pinned ECU has its pin; the others agree on a transport that one of them has
found. -/
theorem binding_sticky (toLowercase : String → String) (doipGateway canGateway : Bool)
    (overrides : List TransportOverride) {events : List RouterEvent} {state : RouterState}
    (run : Run (fun state event next =>
      (new toLowercase doipGateway canGateway overrides).step state event = some next)
      .initial events state) :
    (∀ call ecuName phase transport, state.calls call = some ⟨ecuName, phase⟩ →
      pinOf toLowercase overrides ecuName = some transport → phase = .returned (.ok transport)) ∧
    (∀ call ecuName transport, state.calls call = some ⟨ecuName, .returned (.ok transport)⟩ →
      pinOf toLowercase overrides ecuName = none → (∀ other otherName otherTransport,
          state.calls other = some ⟨otherName, .returned (.ok otherTransport)⟩ →
          toLowercase otherName = toLowercase ecuName → otherTransport = transport) ∧
        ∃ binder binderName, state.calls binder = some ⟨binderName, .returned (.ok transport)⟩ ∧
          toLowercase binderName = toLowercase ecuName ∧
          ⟨binder, toLowercase ecuName, transport⟩ ∈ state.detections) := by
  have sticky := sticky_of_run run
  have pin : ∀ ecuName, (new toLowercase doipGateway canGateway overrides).transportOverrides
      (toLowercase ecuName) = pinOf toLowercase overrides ecuName :=
    fun ecuName => collectOverrides_eq toLowercase overrides (toLowercase ecuName)
  constructor
  · intro call ecuName phase transport found pinned
    exact sticky.pinned call _ phase transport ⟨ecuName, found, rfl⟩ ((pin ecuName).trans pinned)
  · intro call ecuName transport found unpinned
    have noOverride := (pin ecuName).trans unpinned
    have bound := sticky.returned call _ transport ⟨ecuName, found, rfl⟩ noOverride
    constructor
    · intro other otherName otherTransport answered same
      have agreed := sticky.returned other _ otherTransport ⟨otherName, answered, same⟩ noOverride
      exact Option.some.inj (agreed.symm.trans bound)
    · obtain ⟨binder, ⟨binderName, answered, same⟩, detected⟩ := sticky.bound _ transport bound
      exact ⟨binder, binderName, answered, same, detected⟩

def lowercase (text : String) : String := String.ofList (text.toList.map Char.toLower)

/-- Two calls for one ECU detect it on different transports. -/
def concurrentDetections : List RouterEvent :=
  [.resolve 0 "Engine", .resolve 1 "ENGINE", .resolve 2 "Body", .readBinding 0, .readBinding 1,
    .routeStatus 0 .unavailable, .routeStatus 1 .ready, .routeStatus 0 .probeRequired,
    .probed 0 true, .bind 0, .bind 1]

theorem concurrentDetections_agree : ∃ state, Run (fun state event next =>
        (new lowercase true true [⟨"BODY", .doip⟩]).step state event = some next) .initial
        concurrentDetections state ∧
      state.calls 1 = some ⟨"ENGINE", .returned (.ok .can)⟩ ∧
      state.calls 2 = some ⟨"Body", .returned (.ok .doip)⟩ ∧
      ∃ binder binderName, state.calls binder = some ⟨binderName, .returned (.ok .can)⟩ ∧
        lowercase binderName = lowercase "ENGINE" ∧
        ⟨binder, lowercase "ENGINE", .can⟩ ∈ state.detections := by
  refine ⟨_, Run.of_foldlM rfl, rfl, rfl, ?_⟩
  exact ((@binding_sticky lowercase true true [⟨"BODY", .doip⟩] concurrentDetections _
    (Run.of_foldlM rfl)).2 1 "ENGINE" .can rfl (by decide)).2

end DiagnosticTransportRouter

end DiagnosticAdapter.Router
