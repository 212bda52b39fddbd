import DiagnosticAdapter.Lookup.Spelling
import DiagnosticAdapter.Router.Binding

/-!
# The network address of an ECU

`get_ecu_network_address` of the transport router repeats the decision of
`resolve_transport`, but without a binding it asks which gateway knows an address, not
which one is ready.
-/

namespace DiagnosticAdapter.Router

open Effects Function

/-- What a gateway answers as long as its state does not change. -/
structure EcuGateway where
  routeStatus : String → RouteStatus
  probeEcu : String → Bool
  getEcuNetworkAddress : String → Option String

structure Gateways where
  doipGateway : Option EcuGateway
  canGateway : Option EcuGateway

/-- `try_bind_transport` finds the ECU behind the gateway. -/
def EcuGateway.detects (gateway : EcuGateway) (ecuName : String) : Bool :=
  match gateway.routeStatus ecuName with
  | .ready => true
  | .probeRequired => gateway.probeEcu ecuName
  | .notConfigured | .unavailable => false

namespace Gateways

variable (gateways : Gateways)

def gateway? : TransportType → Option EcuGateway
  | .doip => gateways.doipGateway
  | .can => gateways.canGateway

def detects (transport : TransportType) (ecuName : String) : Bool :=
  (gateways.gateway? transport).any (·.detects ecuName)

def detected (ecuName : String) : Option TransportType :=
  if gateways.detects .doip ecuName then some .doip
  else if gateways.detects .can ecuName then some .can
  else none

/-- Addresses on CAN are behind a scheme. -/
def networkAddressForTransport (ecuName : String) : TransportType → Option String
  | .doip => gateways.doipGateway.bind (·.getEcuNetworkAddress ecuName)
  | .can => (gateways.canGateway.bind (·.getEcuNetworkAddress ecuName)).map ("can://" ++ ·)

end Gateways

namespace DiagnosticTransportRouter

def of (toLowercase : String → String) (gateways : Gateways)
    (transportOverrides : String → Option TransportType) : DiagnosticTransportRouter :=
  ⟨toLowercase, gateways.doipGateway.isSome, gateways.canGateway.isSome, transportOverrides⟩

variable (toLowercase : String → String) (gateways : Gateways)
  (transportOverrides ecuBindings : String → Option TransportType)

def fixed (ecu : String) : Option TransportType := (transportOverrides ecu).or (ecuBindings ecu)

/-- `resolve_transport` where no other call runs. -/
def resolveTransport (ecuName : String) : Except ResolveError TransportType :=
  match fixed transportOverrides ecuBindings (toLowercase ecuName) with
  | some transport => .ok transport
  | none =>
    match gateways.detected (toLowercase ecuName) with
    | some transport => .ok transport
    | none => .error (.ecuOffline ecuName)

/-- The transport over which `send` sends, if it does. -/
def sendTransport (ecuName : String) : Option TransportType :=
  match resolveTransport toLowercase gateways transportOverrides ecuBindings (toLowercase ecuName)
    with
  | .ok transport => if (gateways.gateway? transport).isSome then some transport else none
  | .error _ => none

def getEcuNetworkAddress (ecuName : String) : Option String :=
  match fixed transportOverrides ecuBindings (toLowercase ecuName) with
  | some transport => gateways.networkAddressForTransport (toLowercase ecuName) transport
  | none => (gateways.networkAddressForTransport (toLowercase ecuName) .doip).or
      (gateways.networkAddressForTransport (toLowercase ecuName) .can)

variable {toLowercase gateways transportOverrides ecuBindings} {call : Nat} {ecuName : String}

/-- The event is no answer of a gateway other than the one in `gateways`. -/
def answered (toLowercase : String → String) (gateways : Gateways) (state : RouterState) :
    RouterEvent → Bool
  | .routeStatus call status =>
    match state.calls call with
    | some ⟨ecuName, .checkingRoute transport⟩ =>
      (gateways.gateway? transport).any (·.routeStatus (toLowercase ecuName) == status)
    | _ => true
  | .probed call success =>
    match state.calls call with
    | some ⟨ecuName, .probing transport⟩ =>
      (gateways.gateway? transport).any (·.probeEcu (toLowercase ecuName) == success)
    | _ => true
  | _ => true

/-- No transport before this one finds the ECU. -/
def Missed (gateways : Gateways) (ecu : String) (transport : TransportType) : Prop :=
  transport = .can → gateways.detects .doip ecu = false

/-- The call is on its way to what `resolveTransport` returns without bindings. -/
def Follows (toLowercase : String → String) (gateways : Gateways)
    (transportOverrides : String → Option TransportType) (ecuName : String) : ResolvePhase → Prop
  | .readingBinding => transportOverrides (toLowercase ecuName) = none
  | .checkingRoute transport =>
    transportOverrides (toLowercase ecuName) = none ∧
      Missed gateways (toLowercase ecuName) transport
  | .probing transport =>
    transportOverrides (toLowercase ecuName) = none ∧
      Missed gateways (toLowercase ecuName) transport ∧
      ∃ gateway ∈ gateways.gateway? transport,
        gateway.routeStatus (toLowercase ecuName) = .probeRequired
  | .binding transport =>
    transportOverrides (toLowercase ecuName) = none ∧
      gateways.detected (toLowercase ecuName) = some transport
  | .returned result =>
    result = resolveTransport toLowercase gateways transportOverrides (fun _ => none) ecuName
  | .cancelled => True

structure Faithful (toLowercase : String → String) (gateways : Gateways)
    (transportOverrides : String → Option TransportType) (state : RouterState) : Prop where
  bound : ∀ ecu transport, state.ecuBindings ecu = some transport →
    gateways.detected ecu = some transport
  follows : ∀ call ecuName phase, state.calls call = some ⟨ecuName, phase⟩ →
    Follows toLowercase gateways transportOverrides ecuName phase

variable {state next : RouterState} {phase : ResolvePhase} {transport : TransportType}

theorem Faithful.setPhase (faithful : Faithful toLowercase gateways transportOverrides state)
    (follows : Follows toLowercase gateways transportOverrides ecuName phase) :
    Faithful toLowercase gateways transportOverrides (state.setPhase call ecuName phase) where
  bound := faithful.bound
  follows other otherName later found := by
    obtain ⟨_, same⟩ | ⟨_, before⟩ := cases_of_update found
    · cases same
      exact follows
    · exact faithful.follows other otherName later before

theorem detects_of_gateway {gateway : EcuGateway}
    (there : gateways.gateway? transport = some gateway) (ecu : String) :
    gateways.detects transport ecu = gateway.detects ecu := by
  rw [Gateways.detects, there]
  rfl

theorem detected_of_detects {ecu : String} (missed : Missed gateways ecu transport)
    (finds : gateways.detects transport ecu = true) : gateways.detected ecu = some transport := by
  rw [Gateways.detected]
  cases transport with
  | doip => rw [if_pos finds]
  | can => rw [missed rfl, if_neg Bool.false_ne_true, if_pos finds]

theorem Faithful.detects (faithful : Faithful toLowercase gateways transportOverrides state)
    (free : transportOverrides (toLowercase ecuName) = none)
    (missed : Missed gateways (toLowercase ecuName) transport)
    (finds : gateways.detects transport (toLowercase ecuName) = true) :
    Faithful toLowercase gateways transportOverrides
      ((state.detect ⟨call, toLowercase ecuName, transport⟩).setPhase call ecuName
        (.binding transport)) :=
  setPhase ⟨faithful.bound, faithful.follows⟩ ⟨free, detected_of_detects missed finds⟩

section Free

variable (free : transportOverrides (toLowercase ecuName) = none)

include free

theorem follows_returned (detected : gateways.detected (toLowercase ecuName) = some transport) :
    Follows toLowercase gateways transportOverrides ecuName (.returned (.ok transport)) := by
  rw [Follows, resolveTransport, fixed, free, detected]
  rfl

theorem follows_offline (noDoip : gateways.detects .doip (toLowercase ecuName) = false)
    (noCan : gateways.detects .can (toLowercase ecuName) = false) :
    Follows toLowercase gateways transportOverrides ecuName
      (.returned (.error (.ecuOffline ecuName))) := by
  rw [Follows, resolveTransport, fixed, free, Gateways.detected, noDoip, noCan]
  rfl

theorem follows_afterDoip (noDoip : gateways.detects .doip (toLowercase ecuName) = false) :
    Follows toLowercase gateways transportOverrides ecuName
      ((of toLowercase gateways transportOverrides).afterDoip ecuName) := by
  rw [afterDoip, of]
  cases there : gateways.canGateway with
  | none => exact follows_offline free noDoip (by rw [Gateways.detects, Gateways.gateway?, there]; rfl)
  | some gateway => exact ⟨free, fun _ => noDoip⟩

theorem follows_firstTransport : Follows toLowercase gateways transportOverrides ecuName
    ((of toLowercase gateways transportOverrides).firstTransport ecuName) := by
  rw [firstTransport]
  cases there : gateways.doipGateway with
  | none =>
    rw [of, there]
    have noDoip : gateways.detects .doip (toLowercase ecuName) = false := by
      rw [Gateways.detects, Gateways.gateway?, there]
      rfl
    exact follows_afterDoip free noDoip
  | some gateway =>
    rw [of, there]
    exact ⟨free, nofun⟩

theorem follows_notBound (missed : Missed gateways (toLowercase ecuName) transport)
    (fails : gateways.detects transport (toLowercase ecuName) = false) :
    Follows toLowercase gateways transportOverrides ecuName
      ((of toLowercase gateways transportOverrides).notBound ecuName transport) := by
  cases transport with
  | doip => exact follows_afterDoip free fails
  | can => exact follows_offline free (missed rfl) fails

end Free

theorem Faithful.step {event : RouterEvent}
    (faithful : Faithful toLowercase gateways transportOverrides state)
    (taken : (of toLowercase gateways transportOverrides).step state event = some next)
    (answers : answered toLowercase gateways state event = true) :
    Faithful toLowercase gateways transportOverrides next := by
  cases event with
  | resolve call ecuName =>
    simp only [DiagnosticTransportRouter.step] at taken
    split at taken
    · cases taken
    · split at taken
      case h_1 pinned found =>
        cases taken
        apply faithful.setPhase
        change transportOverrides (toLowercase ecuName) = some pinned at found
        rw [Follows, resolveTransport, fixed, found]
        rfl
      case h_2 free =>
        cases taken
        exact faithful.setPhase free
  | readBinding call =>
    simp only [DiagnosticTransportRouter.step] at taken
    split at taken
    · rename_i ecuName found
      have free := faithful.follows call ecuName _ found
      split at taken
      case h_1 bound known =>
        cases taken
        exact faithful.setPhase (follows_returned free (faithful.bound _ bound known))
      case h_2 =>
        cases taken
        exact faithful.setPhase (follows_firstTransport free)
    · cases taken
  | routeStatus call status =>
    simp only [DiagnosticTransportRouter.step] at taken
    split at taken
    · rename_i ecuName transport found
      obtain ⟨free, missed⟩ := faithful.follows call ecuName _ found
      simp only [answered, found, Option.any_eq_true, beq_iff_eq] at answers
      obtain ⟨gateway, there, same⟩ := answers
      have detects := detects_of_gateway there (toLowercase ecuName)
      rw [EcuGateway.detects, same] at detects
      split at taken
      · cases taken
        exact faithful.detects free missed detects
      · cases taken
        exact faithful.setPhase ⟨free, missed, gateway, there, same⟩
      all_goals
        cases taken
        exact faithful.setPhase (follows_notBound free missed detects)
    · cases taken
  | probed call success =>
    simp only [DiagnosticTransportRouter.step] at taken
    split at taken
    · rename_i ecuName transport found
      obtain ⟨free, missed, gateway, there, probes⟩ := faithful.follows call ecuName _ found
      simp only [answered, found, Option.mem_def.mp there, Option.any_some, beq_iff_eq] at answers
      have detects := detects_of_gateway there (toLowercase ecuName)
      rw [EcuGateway.detects, probes, answers] at detects
      split at taken
      case isTrue isFound =>
        cases taken
        rw [isFound] at detects
        exact faithful.detects free missed detects
      case isFalse notFound =>
        cases taken
        rw [Bool.eq_false_iff.2 notFound] at detects
        exact faithful.setPhase (follows_notBound free missed detects)
    · cases taken
  | bind call =>
    simp only [DiagnosticTransportRouter.step] at taken
    split at taken
    · rename_i ecuName transport found
      cases taken
      obtain ⟨free, detected⟩ := faithful.follows call ecuName _ found
      have detected : gateways.detected (toLowercase ecuName) =
          some ((state.ecuBindings (toLowercase ecuName)).getD transport) := by
        cases known : state.ecuBindings (toLowercase ecuName) with
        | none => exact detected
        | some bound => exact faithful.bound _ bound known
      constructor
      · intro ecu bound known
        obtain ⟨rfl, rfl⟩ | ⟨_, before⟩ := cases_of_update known
        · exact detected
        · exact faithful.bound ecu bound before
      · exact (faithful.setPhase (follows_returned free detected)).follows
    · cases taken
  | cancel call =>
    simp only [DiagnosticTransportRouter.step] at taken
    split at taken
    · split at taken
      · cases taken
        exact faithful.setPhase trivial
      · cases taken
    · cases taken

/-- While the gateways keep to their answers, other calls make no difference: whatever runs
beside it, a call returns what `resolveTransport` does on its own. -/
theorem returns_resolveTransport {events : List RouterEvent}
    (run : Run (fun state event next =>
      (of toLowercase gateways transportOverrides).step state event = some next ∧
        answered toLowercase gateways state event = true) .initial events state)
    {result : Except ResolveError TransportType}
    (found : state.calls call = some ⟨ecuName, .returned result⟩) :
    result = resolveTransport toLowercase gateways transportOverrides (fun _ => none) ecuName := by
  have initially : Faithful toLowercase gateways transportOverrides .initial := by
    constructor
    · intro _ _ known
      cases known
    · intro _ _ _ found
      cases found
  have faithful := run.keeps (fun _ => Faithful toLowercase gateways transportOverrides)
    initially fun _ _ _ _ faithful taken => faithful.step taken.1 taken.2
  exact faithful.follows call ecuName _ found

def canOnly : Gateways :=
  ⟨none, some ⟨fun _ => .ready, fun _ => true, fun _ => some "7E0"⟩⟩

theorem returns_resolveTransport_canOnly :
    (.ok .can : Except ResolveError TransportType) =
      resolveTransport lowercase canOnly (fun _ => none) (fun _ => none) "ENGINE" := by
  let events : List RouterEvent := [.resolve 0 "Engine", .resolve 1 "ENGINE", .readBinding 1,
    .readBinding 0, .routeStatus 0 .ready, .routeStatus 1 .ready, .bind 0, .bind 1]
  have ran : ∃ state, Run (fun state event next =>
        (of lowercase canOnly fun _ => none).step state event = some next ∧
          answered lowercase canOnly state event = true) RouterState.initial events state ∧
      state.calls 1 = some ⟨"ENGINE", .returned (.ok .can)⟩ :=
    ⟨_, Run.of_guarded_foldlM rfl, rfl⟩
  obtain ⟨state, run, found⟩ := ran
  exact returns_resolveTransport run found

/-- The address that is reported now is the one on the transport that a send would use. -/
def AddressAgrees (toLowercase : String → String) (gateways : Gateways)
    (transportOverrides ecuBindings : String → Option TransportType) (ecuName : String) : Prop :=
  ∀ address, getEcuNetworkAddress toLowercase gateways transportOverrides ecuBindings ecuName =
      some address →
    ∀ transport, sendTransport toLowercase gateways transportOverrides ecuBindings ecuName =
        some transport →
      gateways.networkAddressForTransport (toLowercase ecuName) transport = some address

/-- Without a pin and a binding, the gateway that will be found knows the address that is
reported. -/
structure KnownWhereFound (gateways : Gateways) (ecu : String) : Prop where
  onDoip : gateways.detects .doip ecu = true →
    (gateways.networkAddressForTransport ecu .doip).isSome ∨
      gateways.networkAddressForTransport ecu .can = none
  onCan : gateways.detects .doip ecu = false → gateways.detects .can ecu = true →
    gateways.networkAddressForTransport ecu .doip = none ∨
      gateways.networkAddressForTransport ecu .doip = gateways.networkAddressForTransport ecu .can

theorem gateway_of_detects {transport : TransportType} {ecu : String}
    (found : gateways.detects transport ecu = true) : (gateways.gateway? transport).isSome := by
  rw [Gateways.detects] at found
  cases there : gateways.gateway? transport with
  | none =>
    rw [there] at found
    cases found
  | some gateway => rfl

section Decision

variable (idempotent : ∀ name, toLowercase (toLowercase name) = toLowercase name)

include idempotent

theorem sendTransport_of_fixed {transport : TransportType}
    (isFixed : fixed transportOverrides ecuBindings (toLowercase ecuName) = some transport) :
    sendTransport toLowercase gateways transportOverrides ecuBindings ecuName =
      if (gateways.gateway? transport).isSome then some transport else none := by
  rw [sendTransport, resolveTransport, idempotent, isFixed]

theorem sendTransport_of_free
    (free : fixed transportOverrides ecuBindings (toLowercase ecuName) = none) :
    sendTransport toLowercase gateways transportOverrides ecuBindings ecuName =
      gateways.detected (toLowercase ecuName) := by
  rw [sendTransport, resolveTransport, idempotent, free, Gateways.detected]
  by_cases onDoip : gateways.detects .doip (toLowercase ecuName) = true
  · rw [if_pos onDoip]
    exact if_pos (gateway_of_detects onDoip)
  · rw [if_neg onDoip]
    by_cases onCan : gateways.detects .can (toLowercase ecuName) = true
    · rw [if_pos onCan]
      exact if_pos (gateway_of_detects onCan)
    · rw [if_neg onCan]

theorem addressAgrees_of_fixed {transport : TransportType}
    (isFixed : fixed transportOverrides ecuBindings (toLowercase ecuName) = some transport) :
    AddressAgrees toLowercase gateways transportOverrides ecuBindings ecuName := by
  intro address reported used sends
  rw [getEcuNetworkAddress, isFixed] at reported
  rw [sendTransport_of_fixed idempotent isFixed] at sends
  split at sends
  · cases sends
    exact reported
  · cases sends

theorem addressAgrees_iff_of_free
    (free : fixed transportOverrides ecuBindings (toLowercase ecuName) = none) :
    AddressAgrees toLowercase gateways transportOverrides ecuBindings ecuName ↔
      KnownWhereFound gateways (toLowercase ecuName) := by
  rw [AddressAgrees, getEcuNetworkAddress, free, sendTransport_of_free idempotent free,
    Gateways.detected]
  dsimp only
  constructor
  · intro agrees
    constructor
    · intro onDoip
      cases known : gateways.networkAddressForTransport (toLowercase ecuName) .doip with
      | some address => exact .inl rfl
      | none =>
        cases other : gateways.networkAddressForTransport (toLowercase ecuName) .can with
        | none => exact .inr rfl
        | some address =>
          have same := agrees address (by rw [known, other]; rfl) .doip (if_pos onDoip)
          cases known.symm.trans same
    · intro notDoip onCan
      cases known : gateways.networkAddressForTransport (toLowercase ecuName) .doip with
      | none => exact .inl rfl
      | some address =>
        have same := agrees address (by rw [known]; rfl) .can
          (by rw [if_neg (by rw [notDoip]; exact Bool.false_ne_true), if_pos onCan])
        exact .inr same.symm
  · intro foreseen address reported transport sends
    by_cases onDoip : gateways.detects .doip (toLowercase ecuName) = true
    · rw [if_pos onDoip] at sends
      cases sends
      cases known : gateways.networkAddressForTransport (toLowercase ecuName) .doip with
      | some found =>
        rw [known] at reported
        exact reported
      | none =>
        obtain there | absent := foreseen.onDoip onDoip
        · rw [known] at there
          cases there
        · rw [known, absent] at reported
          cases reported
    · rw [if_neg onDoip] at sends
      split at sends
      · rename_i onCan
        cases sends
        obtain absent | same := foreseen.onCan (Bool.eq_false_iff.2 onDoip) onCan
        · rw [absent] at reported
          exact reported
        · rw [same, Option.or_self] at reported
          exact reported
      · cases sends

end Decision

/-- The reported address is that of the transport a send uses exactly where the ECU is pinned
or bound, or the gateway that will be found is the one whose address is reported. -/
theorem addressAgrees_iff (idempotent : ∀ name, toLowercase (toLowercase name) = toLowercase name) :
    AddressAgrees toLowercase gateways transportOverrides ecuBindings ecuName ↔
      (fixed transportOverrides ecuBindings (toLowercase ecuName)).isSome ∨
        KnownWhereFound gateways (toLowercase ecuName) := by
  cases isFixed : fixed transportOverrides ecuBindings (toLowercase ecuName) with
  | some transport => exact iff_of_true (addressAgrees_of_fixed idempotent isFixed) (.inl rfl)
  | none =>
    rw [addressAgrees_iff_of_free idempotent isFixed, Option.isSome_none]
    constructor
    · exact .inr
    · intro foreseen
      obtain absent | foreseen := foreseen
      · cases absent
      · exact foreseen

theorem lowercase_lowercase (name : String) : lowercase (lowercase name) = lowercase name := by
  rw [lowercase, lowercase, String.toList_ofList, List.map_map]
  congr 2
  exact funext Lookup.toLower_toLower

theorem canOnly_addressAgrees :
    AddressAgrees lowercase canOnly (fun _ => none) (fun _ => none) "Engine" := by
  have foreseen : KnownWhereFound canOnly (lowercase "Engine") := by
    constructor
    · intro onDoip
      cases onDoip
    · intro _ _
      exact .inl rfl
  exact (addressAgrees_iff fun name => lowercase_lowercase name).2 (.inr foreseen)

/-- An ECU that `DoIP` has found, and that CAN has a mapping for. -/
def bothKnown : Gateways :=
  ⟨some ⟨fun _ => .ready, fun _ => false, fun _ => none⟩,
    some ⟨fun _ => .unavailable, fun _ => false, fun _ => some "7E0"⟩⟩

theorem bothKnown_not_addressAgrees :
    getEcuNetworkAddress lowercase bothKnown (fun _ => none) (fun _ => none) "engine" =
        some "can://7E0" ∧
      sendTransport lowercase bothKnown (fun _ => none) (fun _ => none) "engine" = some .doip ∧
      ¬AddressAgrees lowercase bothKnown (fun _ => none) (fun _ => none) "engine" := by
  have reported : getEcuNetworkAddress lowercase bothKnown (fun _ => none) (fun _ => none)
      "engine" = some "can://7E0" := by decide
  have sends : sendTransport lowercase bothKnown (fun _ => none) (fun _ => none) "engine" =
      some .doip := by decide
  refine ⟨reported, sends, ?_⟩
  intro agrees
  cases agrees _ reported _ sends

end DiagnosticTransportRouter

end DiagnosticAdapter.Router
