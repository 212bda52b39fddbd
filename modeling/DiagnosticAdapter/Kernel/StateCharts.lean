import DiagnosticAdapter.Uds.ServicePayload

/-!
# State charts

The session and security states of an ECU, the charts of its diagnostic layers, and the
transition that a service takes in the current states.
-/

namespace DiagnosticAdapter.Kernel

open Codec (DiagServiceError)
open Uds

def toAsciiLowercase (name : String) : String :=
  String.ofList (name.toList.map Char.toLower)

def eqIgnoreAsciiCase (name other : String) : Bool :=
  toAsciiLowercase name == toAsciiLowercase other

theorem eqIgnoreAsciiCase_iff {name other : String} :
    eqIgnoreAsciiCase name other = true ↔ toAsciiLowercase name = toAsciiLowercase other := by
  simp [eqIgnoreAsciiCase]

structure State where
  shortName : Option String
  deriving DecidableEq, Repr

structure StateTransition where
  sourceShortNameRef : Option String
  targetShortNameRef : Option String
  deriving DecidableEq, Repr

structure StateChart where
  semantic : Option String
  stateTransitions : Option (List StateTransition)
  startStateShortNameRef : Option String
  states : Option (List State)
  deriving DecidableEq, Repr

structure DiagLayer where
  stateCharts : Option (List StateChart)
  deriving DecidableEq, Repr

/-- What the state functions read of a service; a reference may lead nowhere. -/
structure DiagComm where
  shortName : Option String
  preConditionStateRefs : Option (List (Option State))
  stateTransitionRefs : Option (List (Option StateTransition))
  deriving DecidableEq, Repr

structure ChartSemantics where
  session : String
  security : String
  deriving DecidableEq, Repr

/-- The ECU, with the layers of its variant and of the parents of that. -/
structure EcuManager where
  diagLayers : List DiagLayer
  semantics : ChartSemantics
  serviceStates : UInt8 → Option String

section Lookup

variable (diagComm : DiagComm) (stateChart : StateChart) (currentState : String)

/-- The target of a referenced transition, if the chart has the transition and it starts
in the current state. -/
def transitionTarget (stRef : Option StateTransition) : Option String := do
  let stateTransition ← stRef
  let transitionSource ← stateTransition.sourceShortNameRef
  let transitionTarget ← stateTransition.targetShortNameRef
  let chartTransitions ← stateChart.stateTransitions
  if chartTransitions.any fun chartSt =>
      chartSt.sourceShortNameRef.any (eqIgnoreAsciiCase · transitionSource) &&
      chartSt.targetShortNameRef.any (eqIgnoreAsciiCase · transitionTarget) &&
      eqIgnoreAsciiCase transitionSource currentState then
    some transitionTarget
  else
    none

def lookupStateTransition : Option String :=
  diagComm.stateTransitionRefs.bind fun refs =>
    refs.findSome? (transitionTarget stateChart currentState)

end Lookup

namespace EcuManager

def stateCharts (ecu : EcuManager) : List StateChart :=
  ecu.diagLayers.flatMap fun layer => layer.stateCharts.getD []

def transitionChart (ecu : EcuManager) (semantic : String) : Option StateChart :=
  ecu.diagLayers.findSome? fun layer => layer.stateCharts.bind fun charts =>
    charts.find? fun chart => chart.semantic.any (eqIgnoreAsciiCase · semantic)

/-- `lookup_state_transition_by_diagcomm_for_active`, for one chart. -/
def lookupTransitionForActive (ecu : EcuManager) (semantic : String) (sid : UInt8)
    (diagComm : DiagComm) : Option String := do
  let current ← ecu.serviceStates sid
  let chart ← ecu.transitionChart semantic
  lookupStateTransition diagComm chart current

/-- The new session and the new security state. -/
def lookupStateTransitionByDiagcommForActive (ecu : EcuManager) (diagComm : DiagComm) :
    Option String × Option String :=
  (ecu.lookupTransitionForActive ecu.semantics.session ServiceIds.sessionControl diagComm,
    ecu.lookupTransitionForActive ecu.semantics.security ServiceIds.securityAccess diagComm)

def lookupStateChart (ecu : EcuManager) (semantic : String) : Except DiagServiceError StateChart :=
  match ecu.stateCharts.find? fun chart => chart.semantic == some semantic with
  | some chart => .ok chart
  | none =>
    .error (.notFound s!"State chart with semantic '{semantic}' not found in base variant")

def defaultState (ecu : EcuManager) (semantic : String) : Except DiagServiceError String := do
  match (← ecu.lookupStateChart semantic).startStateShortNameRef with
  | some start => return start
  | none => throw (.invalidDatabase "No start state defined in state chart")

end EcuManager

def StateChart.Leads (chart : StateChart) (source target : String) : Prop :=
  ∃ transitions, chart.stateTransitions = some transitions ∧ ∃ transition ∈ transitions,
    ∃ chartSource, transition.sourceShortNameRef = some chartSource ∧
      toAsciiLowercase chartSource = toAsciiLowercase source ∧
    ∃ chartTarget, transition.targetShortNameRef = some chartTarget ∧
      toAsciiLowercase chartTarget = toAsciiLowercase target

/-- The reference is to a transition of the chart that starts in the state. -/
def Enables (chart : StateChart) (current : String) (stRef : Option StateTransition)
    (target : String) : Prop :=
  ∃ source, stRef = some ⟨some source, some target⟩ ∧ chart.Leads source target ∧
    toAsciiLowercase source = toAsciiLowercase current

/-- The first of the service's references to a transition enabled in the state. -/
def Takes (diagComm : DiagComm) (chart : StateChart) (current target : String) : Prop :=
  ∃ earlier stRef later, diagComm.stateTransitionRefs = some (earlier ++ stRef :: later) ∧
    Enables chart current stRef target ∧
    ∀ other ∈ earlier, ∀ otherTarget, ¬ Enables chart current other otherTarget

section Enabled

variable {diagComm : DiagComm} {chart : StateChart} {current target : String}
  {stRef : Option StateTransition}

theorem StateChart.leads_iff {transitions : List StateTransition} {source target : String}
    (listed : chart.stateTransitions = some transitions) :
    chart.Leads source target ↔ (transitions.any fun chartSt =>
      chartSt.sourceShortNameRef.any (eqIgnoreAsciiCase · source) &&
      chartSt.targetShortNameRef.any (eqIgnoreAsciiCase · target)) = true := by
  simp only [StateChart.Leads, listed, Option.some.injEq, exists_eq_left', List.any_eq_true,
    Bool.and_eq_true, Option.any_eq_true, eqIgnoreAsciiCase_iff]
  apply exists_congr
  intro transition
  apply and_congr_right
  intro _
  constructor
  · rintro ⟨chartSource, named, sameSource, chartTarget, targetNamed, sameTarget⟩
    exact ⟨⟨chartSource, named, sameSource⟩, chartTarget, targetNamed, sameTarget⟩
  · rintro ⟨⟨chartSource, named, sameSource⟩, chartTarget, targetNamed, sameTarget⟩
    exact ⟨chartSource, named, sameSource, chartTarget, targetNamed, sameTarget⟩

theorem transitionTarget_eq_some_iff :
    transitionTarget chart current stRef = some target ↔ Enables chart current stRef target := by
  constructor
  · intro found
    simp only [transitionTarget, Option.bind_eq_bind, Option.bind_eq_some_iff] at found
    obtain ⟨⟨sourceRef, targetRef⟩, rfl, source, sourceNamed, other, targetNamed,
      transitions, listed, found⟩ := found
    cases sourceNamed
    cases targetNamed
    split at found
    · cases found
      rename_i leads
      simp only [List.any_eq_true, Bool.and_eq_true, eqIgnoreAsciiCase_iff] at leads
      obtain ⟨transition, mem, same, current⟩ := leads
      refine ⟨source, rfl, (StateChart.leads_iff listed).2 ?_, current⟩
      exact List.any_eq_true.2 ⟨transition, mem, by simpa [eqIgnoreAsciiCase] using same⟩
    · cases found
  · rintro ⟨source, rfl, leads, current⟩
    have ⟨transitions, listed, _⟩ := leads
    simp only [transitionTarget, Option.bind_eq_bind, Option.bind_some, listed]
    rw [if_pos]
    obtain ⟨transition, mem, same⟩ := List.any_eq_true.1 ((StateChart.leads_iff listed).1 leads)
    exact List.any_eq_true.2 ⟨transition, mem,
      Bool.and_eq_true_iff.2 ⟨same, eqIgnoreAsciiCase_iff.2 current⟩⟩

theorem transitionTarget_eq_none_iff : transitionTarget chart current stRef = none ↔
      ∀ target, ¬ Enables chart current stRef target := by
  simp only [← transitionTarget_eq_some_iff, Option.eq_none_iff_forall_ne_some, ne_eq]

theorem lookupStateTransition_eq_some_iff :
    lookupStateTransition diagComm chart current = some target ↔
      Takes diagComm chart current target := by
  simp only [lookupStateTransition, Option.bind_eq_some_iff, List.findSome?_eq_some_iff,
    transitionTarget_eq_some_iff, transitionTarget_eq_none_iff, Takes]
  constructor
  · rintro ⟨_, refs, earlier, stRef, later, rfl, enabled, first⟩
    exact ⟨earlier, stRef, later, refs, enabled, first⟩
  · rintro ⟨earlier, stRef, later, refs, enabled, first⟩
    exact ⟨_, refs, earlier, stRef, later, rfl, enabled, first⟩

end Enabled

end DiagnosticAdapter.Kernel
