import DiagnosticAdapter.Effects.Stateful
import DiagnosticAdapter.Kernel.StateCharts

/-!
# Preconditions of services

`check_service_preconditions`, and what it makes of the states that a service names in its
preconditions and in the sources of its transitions.
-/

namespace DiagnosticAdapter.Kernel

open Codec (DiagServiceError)
open Effects Uds

/-- The states that a request may come in, lower-cased; an empty set restricts nothing. -/
structure AllowedStates where
  security : Finset String
  session : Finset String
  deriving DecidableEq

namespace AllowedStates

/-- A precondition state goes to its chart; a state of neither is dropped. -/
def addPrecondition (securityStates sessionStates : Finset String) (allowed : AllowedStates)
    (stateName : String) : AllowedStates :=
  if stateName ∈ securityStates then
    { allowed with security := insert stateName allowed.security }
  else if stateName ∈ sessionStates then
    { allowed with session := insert stateName allowed.session }
  else
    allowed

/-- The source of a transition goes to both charts. -/
def addSource (allowed : AllowedStates) (state : String) : AllowedStates where
  security := insert state allowed.security
  session := insert state allowed.session

end AllowedStates

namespace StateChart

/-- The short names of the chart's states, lower-cased. -/
def stateNames (chart : StateChart) : Finset String :=
  (((chart.states.getD []).filterMap (·.shortName)).map toAsciiLowercase).toFinset

end StateChart

namespace DiagComm

def preconditionNames (refs : List (Option State)) : List String :=
  ((refs.filterMap id).filterMap (·.shortName)).map toAsciiLowercase

def transitionSources (diagComm : DiagComm) : List String :=
  (((diagComm.stateTransitionRefs.filter (!·.isEmpty)).getD []).filterMap fun stRef =>
    stRef.bind (·.sourceShortNameRef)).map toAsciiLowercase

/-- The precondition states of each chart, and the sources of the transitions. -/
def allowedStates (diagComm : DiagComm) (refs : List (Option State))
    (securityStates sessionStates : Finset String) : AllowedStates :=
  diagComm.transitionSources.foldl AllowedStates.addSource ((preconditionNames refs).foldl
      (AllowedStates.addPrecondition securityStates sessionStates) ⟨∅, ∅⟩)

end DiagComm

section Check

-- how a set of names is printed
variable (setDebug : Finset String → String)

def validateState (diagComm : DiagComm) (required : Finset String)
    (current default stateType : String) : Except DiagServiceError Unit :=
  let shortName := diagComm.shortName.getD "None"
  if required = ∅ ∨ current ∈ required ∨ default ∈ required then
    .ok ()
  else
    .error (.invalidState (s!"{shortName} - {stateType} mismatch. " ++
      s!"Required one of: {setDebug required}, Current: {current}"))

namespace EcuManager

variable (ecu : EcuManager)

def currentState (sid : UInt8) (missing : String) : Except DiagServiceError String :=
  match ecu.serviceStates sid with
  | some state => .ok (toAsciiLowercase state)
  | none => .error (.invalidState missing)

def getStateNames (semantic : String) : Except DiagServiceError (Finset String) := do
  return (← ecu.lookupStateChart semantic).stateNames

def checkServicePreconditions (diagComm : DiagComm) : Except DiagServiceError Unit :=
  match diagComm.preConditionStateRefs.filter (!·.isEmpty) with
  | none => .ok ()
  | some preConditionStateRef => do
    let ecuSession ← ecu.currentState ServiceIds.sessionControl "ECU session is none"
    let ecuSecurityLevel ← ecu.currentState ServiceIds.securityAccess
      "ECU security level is none"
    let sessionStates ← ecu.getStateNames ecu.semantics.session
    let securityStates ← ecu.getStateNames ecu.semantics.security
    let allowed := diagComm.allowedStates preConditionStateRef securityStates sessionStates
    let defaultSession ← toAsciiLowercase <$> ecu.defaultState ecu.semantics.session
    let defaultSecurity ← toAsciiLowercase <$> ecu.defaultState ecu.semantics.security
    validateState setDebug diagComm allowed.security ecuSecurityLevel defaultSecurity
      "Security level"
    validateState setDebug diagComm allowed.session ecuSession defaultSession "Session"

end EcuManager

end Check

section Allowed

variable {securityStates sessionStates : Finset String} {allowed : AllowedStates}

theorem mem_sorted_security (names : List String) (name : String) :
    name ∈ (names.foldl (AllowedStates.addPrecondition securityStates sessionStates)
        allowed).security ↔
      name ∈ allowed.security ∨ name ∈ names ∧ name ∈ securityStates := by
  induction names generalizing allowed with
  | nil => simp
  | cons first names ih =>
    rw [List.foldl_cons, ih, AllowedStates.addPrecondition]
    split
    · simp only [Finset.mem_insert, List.mem_cons]
      grind
    · split <;> simp only [List.mem_cons] <;> grind

theorem mem_sorted_session (names : List String) (name : String) :
    name ∈ (names.foldl (AllowedStates.addPrecondition securityStates sessionStates)
        allowed).session ↔
      name ∈ allowed.session ∨ name ∈ names ∧ name ∈ sessionStates ∧ name ∉ securityStates := by
  induction names generalizing allowed with
  | nil => simp
  | cons first names ih =>
    rw [List.foldl_cons, ih, AllowedStates.addPrecondition]
    split
    · simp only [List.mem_cons]
      grind
    · split <;> simp only [Finset.mem_insert, List.mem_cons] <;> grind

theorem mem_addSources (sources : List String) (name : String) :
    (name ∈ (sources.foldl AllowedStates.addSource allowed).security ↔
      name ∈ allowed.security ∨ name ∈ sources) ∧
    (name ∈ (sources.foldl AllowedStates.addSource allowed).session ↔
      name ∈ allowed.session ∨ name ∈ sources) := by
  induction sources generalizing allowed with
  | nil => simp
  | cons source sources ih =>
    rw [List.foldl_cons]
    simp only [ih, AllowedStates.addSource, Finset.mem_insert, List.mem_cons]
    grind

end Allowed

/-- The service's preconditions or the sources of its transitions name the state. -/
def DiagComm.Names (diagComm : DiagComm) (refs : List (Option State)) (name : String) : Prop :=
  name ∈ DiagComm.preconditionNames refs ∨ name ∈ diagComm.transitionSources

/-- A chart of the ECU with its current and its default state. -/
structure ActiveChart (ecu : EcuManager) (semantic : String) (sid : UInt8) where
  chart : StateChart
  current : String
  default : String
  found : ecu.lookupStateChart semantic = .ok chart
  starts : chart.startStateShortNameRef = some default
  present : ecu.serviceStates sid = some current

namespace ActiveChart

variable {ecu : EcuManager} {semantic : String} {sid : UInt8}

def Holds (active : ActiveChart ecu semantic sid) (name : String) : Prop :=
  name = toAsciiLowercase active.current ∨ name = toAsciiLowercase active.default

def Required (active : ActiveChart ecu semantic sid) (diagComm : DiagComm)
    (refs : List (Option State)) (name : String) : Prop :=
  diagComm.Names refs name ∧ name ∈ active.chart.stateNames

/-- The sources of the service's transitions that are not states of the chart. -/
def Foreign (active : ActiveChart ecu semantic sid) (diagComm : DiagComm) (name : String) :
    Prop :=
  name ∈ diagComm.transitionSources ∧ name ∉ active.chart.stateNames

end ActiveChart

/-- A set of required states is empty or has one of the states held. -/
def Satisfied (required holds : String → Prop) : Prop :=
  (∀ name, ¬ required name) ∨ ∃ name, required name ∧ holds name

theorem Satisfied.congr {required other holds : String → Prop}
    (same : ∀ name, required name ↔ other name) :
    Satisfied required holds ↔ Satisfied other holds := by
  rw [show required = other from funext fun name => propext (same name)]

theorem validateState_eq_ok_iff {setDebug : Finset String → String} {diagComm : DiagComm}
    {required : Finset String} {current default stateType : String} :
    validateState setDebug diagComm required current default stateType = .ok () ↔
      Satisfied (· ∈ required) fun name => name = current ∨ name = default := by
  rw [validateState, Satisfied]
  simp only [Finset.eq_empty_iff_forall_notMem]
  constructor
  · intro valid
    split at valid
    · rename_i held
      obtain empty | current | default := held
      · exact .inl empty
      · exact .inr ⟨_, current, .inl rfl⟩
      · exact .inr ⟨_, default, .inr rfl⟩
    · cases valid
  · intro satisfied
    rw [if_pos]
    obtain empty | ⟨name, required, rfl | rfl⟩ := satisfied
    · exact .inl empty
    · exact .inr (.inl required)
    · exact .inr (.inr required)

section Demands

variable {setDebug : Finset String → String} {ecu : EcuManager} {diagComm : DiagComm}
  {refs : List (Option State)}
  (session : ActiveChart ecu ecu.semantics.session ServiceIds.sessionControl)
  (security : ActiveChart ecu ecu.semantics.security ServiceIds.securityAccess)

theorem ActiveChart.currentState_eq {semantic : String} {sid : UInt8} (missing : String)
    (active : ActiveChart ecu semantic sid) :
    ecu.currentState sid missing = .ok (toAsciiLowercase active.current) := by
  rw [EcuManager.currentState, active.present]

theorem ActiveChart.getStateNames_eq {semantic : String} {sid : UInt8}
    (active : ActiveChart ecu semantic sid) :
    ecu.getStateNames semantic = .ok active.chart.stateNames := by
  rw [EcuManager.getStateNames, active.found]
  rfl

theorem ActiveChart.defaultState_eq {semantic : String} {sid : UInt8}
    (active : ActiveChart ecu semantic sid) :
    ecu.defaultState semantic = .ok active.default := by
  rw [EcuManager.defaultState, active.found]
  show (match active.chart.startStateShortNameRef with
    | some start => Except.ok start
    | none => _) = _
  rw [active.starts]

theorem mem_allowedStates_security (name : String) :
    name ∈ (diagComm.allowedStates refs security.chart.stateNames
        session.chart.stateNames).security ↔
      security.Required diagComm refs name ∨ security.Foreign diagComm name := by
  rw [DiagComm.allowedStates, (mem_addSources _ _).1, mem_sorted_security]
  simp only [Finset.notMem_empty, false_or, ActiveChart.Required, ActiveChart.Foreign,
    DiagComm.Names]
  tauto

section

variable (apart : Disjoint session.chart.stateNames security.chart.stateNames)

include apart

theorem mem_allowedStates_session (name : String) :
    name ∈ (diagComm.allowedStates refs security.chart.stateNames
        session.chart.stateNames).session ↔
      session.Required diagComm refs name ∨ session.Foreign diagComm name := by
  have only : name ∈ session.chart.stateNames → name ∉ security.chart.stateNames :=
    fun mem => Finset.disjoint_left.1 apart mem
  rw [DiagComm.allowedStates, (mem_addSources _ _).2, mem_sorted_session]
  simp only [Finset.notMem_empty, false_or, ActiveChart.Required, ActiveChart.Foreign,
    DiagComm.Names]
  tauto

/-- The service's own states of a chart and the sources foreign to it are what the check
allows in the chart. -/
theorem checkServicePreconditions_eq_ok_iff (given : diagComm.preConditionStateRefs = some refs)
    (nonempty : refs ≠ []) :
    ecu.checkServicePreconditions setDebug diagComm = .ok () ↔
      Satisfied (fun name => session.Required diagComm refs name ∨
        session.Foreign diagComm name) session.Holds ∧
      Satisfied (fun name => security.Required diagComm refs name ∨
        security.Foreign diagComm name) security.Holds := by
  have present : diagComm.preConditionStateRefs.filter (!·.isEmpty) = some refs := by
    rw [given]
    simp [nonempty]
  have checked : ecu.checkServicePreconditions setDebug diagComm = (do
      let allowed := diagComm.allowedStates refs security.chart.stateNames
        session.chart.stateNames
      validateState setDebug diagComm allowed.security (toAsciiLowercase security.current)
        (toAsciiLowercase security.default) "Security level"
      validateState setDebug diagComm allowed.session (toAsciiLowercase session.current)
        (toAsciiLowercase session.default) "Session") := by
    simp only [EcuManager.checkServicePreconditions, present, session.currentState_eq,
      security.currentState_eq, session.getStateNames_eq, security.getStateNames_eq,
      session.defaultState_eq, security.defaultState_eq]
    rfl
  rw [checked, except_bind_eq_ok_iff]
  simp only [validateState_eq_ok_iff, Unique.exists_iff, PUnit.default_eq_unit]
  rw [and_comm, Satisfied.congr (mem_allowedStates_session session security apart),
    Satisfied.congr (mem_allowedStates_security session security)]
  rfl

end

end Demands

section ForeignSources

variable {required foreign holds : String → Prop}

/-- Nothing is required, but there are foreign names and none of them is held. -/
def Shut (required foreign holds : String → Prop) : Prop :=
  (∀ name, ¬ required name) ∧ (∃ name, foreign name) ∧ ∀ name, foreign name → ¬ holds name

/-- Something is required and not held, but a foreign name is held. -/
def Opened (required foreign holds : String → Prop) : Prop :=
  (∃ name, required name) ∧ (∀ name, required name → ¬ holds name) ∧
    ∃ name, foreign name ∧ holds name

theorem shut_iff : Shut required foreign holds ↔
      Satisfied required holds ∧ ¬ Satisfied (fun name => required name ∨ foreign name) holds := by
  constructor
  · rintro ⟨empty, ⟨name, isForeign⟩, missed⟩
    refine ⟨.inl empty, ?_⟩
    rintro (none | ⟨other, isRequired | otherForeign, held⟩)
    · exact none name (.inr isForeign)
    · exact empty other isRequired
    · exact missed other otherForeign held
  · rintro ⟨own, refused⟩
    simp only [Satisfied, not_or, not_forall, not_exists, not_and, not_not] at refused
    obtain ⟨⟨name, some⟩, missed⟩ := refused
    have empty : ∀ name, ¬ required name := by
      obtain empty | ⟨other, isRequired, held⟩ := own
      · exact empty
      · exact absurd held (missed other (.inl isRequired))
    exact ⟨empty, ⟨name, some (empty name)⟩,
      fun other isForeign => missed other (.inr isForeign)⟩

theorem opened_iff : Opened required foreign holds ↔
      ¬ Satisfied required holds ∧ Satisfied (fun name => required name ∨ foreign name) holds := by
  constructor
  · rintro ⟨⟨name, isRequired⟩, missed, other, isForeign, held⟩
    refine ⟨?_, .inr ⟨other, .inr isForeign, held⟩⟩
    rintro (empty | ⟨third, thirdRequired, thirdHeld⟩)
    · exact empty name isRequired
    · exact missed third thirdRequired thirdHeld
  · rintro ⟨refused, all⟩
    simp only [Satisfied, not_or, not_forall, not_exists, not_and, not_not] at refused
    obtain ⟨⟨name, isRequired⟩, missed⟩ := refused
    refine ⟨⟨name, isRequired⟩, missed, ?_⟩
    obtain empty | ⟨other, named, held⟩ := all
    · exact absurd (.inl isRequired) (empty name)
    · exact ⟨other, named.resolve_left fun isRequired => missed other isRequired held, held⟩

end ForeignSources

/-- The service names no state of the chart, and transitions that start in other states,
none of which the chart is in. -/
def ActiveChart.Shut {ecu : EcuManager} {semantic : String} {sid : UInt8}
    (active : ActiveChart ecu semantic sid) (diagComm : DiagComm)
    (refs : List (Option State)) : Prop :=
  Kernel.Shut (active.Required diagComm refs) (active.Foreign diagComm) active.Holds

/-- The chart is in none of its states that the service names, but in one that the chart
lacks and that a transition of the service starts in. -/
def ActiveChart.Opened {ecu : EcuManager} {semantic : String} {sid : UInt8}
    (active : ActiveChart ecu semantic sid) (diagComm : DiagComm)
    (refs : List (Option State)) : Prop :=
  Kernel.Opened (active.Required diagComm refs) (active.Foreign diagComm) active.Holds

/-- The chart is in one of its own states that the service names, if it names any. -/
def ActiveChart.Admits {ecu : EcuManager} {semantic : String} {sid : UInt8}
    (active : ActiveChart ecu semantic sid) (diagComm : DiagComm)
    (refs : List (Option State)) : Prop :=
  Satisfied (active.Required diagComm refs) active.Holds

/-- The same with the foreign sources counted among the chart's states. -/
def ActiveChart.AdmitsForeign {ecu : EcuManager} {semantic : String} {sid : UInt8}
    (active : ActiveChart ecu semantic sid) (diagComm : DiagComm)
    (refs : List (Option State)) : Prop :=
  Satisfied (fun name => active.Required diagComm refs name ∨ active.Foreign diagComm name)
    active.Holds

/-- Each chart is judged by its own states unless a source foreign to it turns its
verdict and the other chart leaves it at that. -/
theorem preconditions_judged_by_charts_iff (setDebug : Finset String → String)
    (ecu : EcuManager) (diagComm : DiagComm) (refs : List (Option State))
    (session : ActiveChart ecu ecu.semantics.session ServiceIds.sessionControl)
    (security : ActiveChart ecu ecu.semantics.security ServiceIds.securityAccess)
    (apart : Disjoint session.chart.stateNames security.chart.stateNames)
    (given : diagComm.preConditionStateRefs = some refs) (nonempty : refs ≠ []) :
    (ecu.checkServicePreconditions setDebug diagComm = .ok () ↔
      session.Admits diagComm refs ∧ security.Admits diagComm refs) ↔
    (session.Shut diagComm refs → ¬ security.Admits diagComm refs) ∧
    (security.Shut diagComm refs → ¬ session.Admits diagComm refs) ∧
    (session.Opened diagComm refs → ¬ security.AdmitsForeign diagComm refs) ∧
    (security.Opened diagComm refs → ¬ session.AdmitsForeign diagComm refs) := by
  rw [checkServicePreconditions_eq_ok_iff session security apart given nonempty]
  simp only [ActiveChart.Shut, ActiveChart.Opened, shut_iff, opened_iff]
  change (session.AdmitsForeign diagComm refs ∧ security.AdmitsForeign diagComm refs ↔
      session.Admits diagComm refs ∧ security.Admits diagComm refs) ↔
    (session.Admits diagComm refs ∧ ¬ session.AdmitsForeign diagComm refs →
      ¬ security.Admits diagComm refs) ∧
    (security.Admits diagComm refs ∧ ¬ security.AdmitsForeign diagComm refs →
      ¬ session.Admits diagComm refs) ∧
    (¬ session.Admits diagComm refs ∧ session.AdmitsForeign diagComm refs →
      ¬ security.AdmitsForeign diagComm refs) ∧
    (¬ security.Admits diagComm refs ∧ security.AdmitsForeign diagComm refs →
      ¬ session.AdmitsForeign diagComm refs)
  grind

section Unlocking

def sessionChart : StateChart where
  semantic := some "SESSION"
  stateTransitions := some [⟨some "Default", some "Extended"⟩]
  startStateShortNameRef := some "Default"
  states := some [⟨some "Default"⟩, ⟨some "Extended"⟩]

def securityChart : StateChart where
  semantic := some "SECURITY"
  stateTransitions := some [⟨some "Locked", some "Unlocked"⟩]
  startStateShortNameRef := some "Locked"
  states := some [⟨some "Locked"⟩, ⟨some "Unlocked"⟩]

def extendedEcu : EcuManager where
  diagLayers := [⟨some [sessionChart, securityChart]⟩]
  semantics := ⟨"SESSION", "SECURITY"⟩
  serviceStates := fun sid => if sid = ServiceIds.sessionControl then some "Extended"
    else if sid = ServiceIds.securityAccess then some "Locked" else none

def extendedSession : ActiveChart extendedEcu extendedEcu.semantics.session
    ServiceIds.sessionControl :=
  ⟨sessionChart, "Extended", "Default", by decide, rfl, rfl⟩

def lockedSecurity : ActiveChart extendedEcu extendedEcu.semantics.security
    ServiceIds.securityAccess :=
  ⟨securityChart, "Locked", "Locked", by decide, rfl, rfl⟩

/-- It has a security state as its precondition and leads from it to another. -/
def unlock : DiagComm where
  shortName := some "Unlock"
  preConditionStateRefs := some [some ⟨some "Locked"⟩]
  stateTransitionRefs := some [some ⟨some "Locked", some "Unlocked"⟩]

def readIdentification : DiagComm where
  shortName := some "Read_Identification"
  preConditionStateRefs := some [some ⟨some "Locked"⟩]
  stateTransitionRefs := none

theorem readIdentification_judged_by_charts :
    extendedEcu.checkServicePreconditions (fun _ => "") readIdentification = .ok () ↔
      extendedSession.Admits readIdentification [some ⟨some "Locked"⟩] ∧
      lockedSecurity.Admits readIdentification [some ⟨some "Locked"⟩] := by
  have unreferenced : ∀ name, name ∉ readIdentification.transitionSources := by
    intro name mem
    cases mem
  have noneForeign : ∀ {semantic sid} (active : ActiveChart extendedEcu semantic sid) name,
      ¬ active.Foreign readIdentification name :=
    fun active name isForeign => unreferenced name isForeign.1
  apply (preconditions_judged_by_charts_iff (fun _ => "") extendedEcu readIdentification
    [some ⟨some "Locked"⟩] extendedSession lockedSecurity (by decide) rfl (by decide)).2
  refine ⟨?_, ?_, ?_, ?_⟩
  · rintro ⟨_, ⟨name, isForeign⟩, _⟩
    exact absurd isForeign (noneForeign _ name)
  · rintro ⟨_, ⟨name, isForeign⟩, _⟩
    exact absurd isForeign (noneForeign _ name)
  · rintro ⟨_, _, name, isForeign, _⟩
    exact absurd isForeign (noneForeign _ name)
  · rintro ⟨_, _, name, isForeign, _⟩
    exact absurd isForeign (noneForeign _ name)

/-- The source of the security transition shuts the session chart. -/
theorem unlock_refused_in_extended_session :
    ¬ ∀ (setDebug : Finset String → String) (ecu : EcuManager) (diagComm : DiagComm)
      (refs : List (Option State))
      (session : ActiveChart ecu ecu.semantics.session ServiceIds.sessionControl)
      (security : ActiveChart ecu ecu.semantics.security ServiceIds.securityAccess),
      Disjoint session.chart.stateNames security.chart.stateNames →
      diagComm.preConditionStateRefs = some refs → refs ≠ [] →
      (ecu.checkServicePreconditions setDebug diagComm = .ok () ↔
        session.Admits diagComm refs ∧ security.Admits diagComm refs) := by
  intro checksBoth
  have same := checksBoth (fun _ => "") extendedEcu unlock [some ⟨some "Locked"⟩] extendedSession
    lockedSecurity (by decide) rfl (by decide)
  have refused : extendedEcu.checkServicePreconditions (fun _ => "") unlock ≠ .ok () := by
    decide +kernel
  apply refused
  rw [same]
  constructor
  · apply Or.inl
    rintro name ⟨precondition | source, own⟩
    · have outside : ∀ name ∈ DiagComm.preconditionNames [some ⟨some "Locked"⟩],
          name ∉ sessionChart.stateNames := by decide
      exact outside name precondition own
    · have outside : ∀ name ∈ unlock.transitionSources, name ∉ sessionChart.stateNames := by
        decide
      exact outside name source own
  · exact .inr ⟨"locked", ⟨.inl (by decide), by decide⟩, .inl (by decide)⟩

end Unlocking

end DiagnosticAdapter.Kernel
