import DiagnosticAdapter.Kernel.ResponseConversion
import DiagnosticAdapter.Uds.Attribution

/-!
# State updates of a response

A positive response moves the session and the security chart twice: the transport sets the
states found when the payload was built, and `convert_from_uds` looks the transitions up
again.
-/

namespace DiagnosticAdapter.Uds

open Codec Kernel

variable {conv : Conversions} {ecu : EcuManager} {diagComm : DiagComm} {semantic : String}
  {sid : UInt8}

/-- `create_uds_payload`, from the bytes that it encodes. -/
def servicePayload (ecu : EcuManager) (diagComm : DiagComm) (data : List UInt8)
    (sourceAddress targetAddress : UInt16) : ServicePayload where
  data := data
  sourceAddress := sourceAddress
  targetAddress := targetAddress
  newSession := (ecu.lookupStateTransitionByDiagcommForActive diagComm).1
  newSecurity := (ecu.lookupStateTransitionByDiagcommForActive diagComm).2

/-- The transition that the service takes in the chart from its present state. -/
def Step (ecu : EcuManager) (semantic : String) (sid : UInt8) (diagComm : DiagComm)
    (target : String) : Prop :=
  ∃ chart current, ecu.transitionChart semantic = some chart ∧
    ecu.serviceStates sid = some current ∧ Takes diagComm chart current target

theorem lookupTransitionForActive_eq_some_iff {target : String} :
    ecu.lookupTransitionForActive semantic sid diagComm = some target ↔
      Step ecu semantic sid diagComm target := by
  simp only [EcuManager.lookupTransitionForActive, Option.bind_eq_bind, Option.bind_eq_some_iff,
    lookupStateTransition_eq_some_iff, Step]
  constructor
  · rintro ⟨current, present, chart, found, takes⟩
    exact ⟨chart, current, found, present, takes⟩
  · rintro ⟨chart, current, found, present, takes⟩
    exact ⟨current, present, chart, found, takes⟩

/-- The chart is in the target of the transition taken, up to case, or where it was. -/
structure Moved (ecu after : EcuManager) (semantic : String) (sid : UInt8)
    (diagComm : DiagComm) : Prop where
  target : ∀ target, Step ecu semantic sid diagComm target →
    ∃ final, after.serviceStates sid = some final ∧ toAsciiLowercase final = toAsciiLowercase target
  unchanged : (∀ target, ¬ Step ecu semantic sid diagComm target) →
    after.serviceStates sid = ecu.serviceStates sid

/-- From the target of its transition the service takes none, but to the target itself. -/
def Rests (ecu : EcuManager) (semantic : String) (sid : UInt8) (diagComm : DiagComm) : Prop :=
  ∀ target, Step ecu semantic sid diagComm target →
    ∀ chart, ecu.transitionChart semantic = some chart → ∀ next, Takes diagComm chart target next →
        toAsciiLowercase next = toAsciiLowercase target

def stepped (ecu : EcuManager) (semantic : String) (sid : UInt8) (diagComm : DiagComm) :
    Option String :=
  (ecu.lookupTransitionForActive semantic sid diagComm).or (ecu.serviceStates sid)

section OneChart

variable {after : EcuManager}

theorem moved_of_once (once : after.serviceStates sid = stepped ecu semantic sid diagComm) :
    Moved ecu after semantic sid diagComm := by
  constructor
  · intro target step
    have found := lookupTransitionForActive_eq_some_iff.2 step
    exact ⟨target, by rw [once, stepped, found, Option.some_or], rfl⟩
  · intro none
    have found : ecu.lookupTransitionForActive semantic sid diagComm = .none := by
      rw [Option.eq_none_iff_forall_ne_some]
      intro target found
      exact none target (lookupTransitionForActive_eq_some_iff.1 found)
    rw [once, stepped, found, Option.none_or]

theorem moved_of_twice_iff (middle : EcuManager) (same : middle.diagLayers = ecu.diagLayers)
    (first : middle.serviceStates sid = stepped ecu semantic sid diagComm)
    (second : after.serviceStates sid = stepped middle semantic sid diagComm) :
    Moved ecu after semantic sid diagComm ↔ Rests ecu semantic sid diagComm := by
  have charts : middle.transitionChart semantic = ecu.transitionChart semantic := by
    rw [EcuManager.transitionChart, EcuManager.transitionChart, same]
  constructor
  · intro moved target step chart isChart next takes
    have reached : middle.serviceStates sid = some target := by
      rw [first, stepped, lookupTransitionForActive_eq_some_iff.2 step, Option.some_or]
    have found := lookupTransitionForActive_eq_some_iff.2
      (⟨chart, target, charts.trans isChart, reached, takes⟩ :
        Step middle semantic sid diagComm next)
    obtain ⟨final, isFinal, atTarget⟩ := moved.target target step
    rw [second, stepped, found, Option.some_or] at isFinal
    cases isFinal
    exact atTarget
  · intro rests
    constructor
    · intro target step
      have reached : middle.serviceStates sid = some target := by
        rw [first, stepped, lookupTransitionForActive_eq_some_iff.2 step, Option.some_or]
      cases found : middle.lookupTransitionForActive semantic sid diagComm with
      | none => exact ⟨target, by rw [second, stepped, found, Option.none_or, reached], rfl⟩
      | some next =>
        obtain ⟨chart, current, isChart, present, takes⟩ :=
          lookupTransitionForActive_eq_some_iff.1 found
        cases reached.symm.trans present
        exact ⟨next, by rw [second, stepped, found, Option.some_or],
          rests target step chart (charts.symm.trans isChart) next takes⟩
    · intro none
      have unmoved := (moved_of_once first).unchanged none
      have found : middle.lookupTransitionForActive semantic sid diagComm = .none := by
        rw [Option.eq_none_iff_forall_ne_some]
        intro target found
        obtain ⟨chart, current, isChart, present, takes⟩ :=
          lookupTransitionForActive_eq_some_iff.1 found
        exact none target ⟨chart, current, charts.symm.trans isChart,
          unmoved.symm.trans present, takes⟩
      rw [second, stepped, found, Option.none_or, unmoved]

end OneChart

/-- Each of the two charts makes the step of the service, and no further one. -/
def OneTransition (ecu after : EcuManager) (diagComm : DiagComm) : Prop :=
  Moved ecu after ecu.semantics.session ServiceIds.sessionControl diagComm ∧
    Moved ecu after ecu.semantics.security ServiceIds.securityAccess diagComm

/-- The definition applied to the payload is one of a positive response. -/
def AppliesPositive (mappedService : MappedService conv) (payload : List UInt8) : Prop :=
  ∃ response params, Applies mappedService payload response params ∧
    response.responseType = .ok .positive

theorem setServiceState?_apply (value : Option String) (other : UInt8) :
    (ecu.setServiceState? sid value).serviceStates other =
      if other = sid then value.or (ecu.serviceStates sid) else ecu.serviceStates other := by
  cases value with
  | none =>
    rw [EcuManager.setServiceState?, Option.none_or]
    split
    · rename_i same
      rw [same]
    · rfl
  | some value => rfl

theorem followTransitions_serviceStates (ecu : EcuManager) (diagComm : DiagComm) :
    (ecu.followTransitions diagComm).serviceStates ServiceIds.sessionControl =
      stepped ecu ecu.semantics.session ServiceIds.sessionControl diagComm ∧
    (ecu.followTransitions diagComm).serviceStates ServiceIds.securityAccess =
      stepped ecu ecu.semantics.security ServiceIds.securityAccess diagComm := by
  have distinct : ServiceIds.securityAccess ≠ ServiceIds.sessionControl := by decide
  simp only [EcuManager.followTransitions, setServiceState?_apply,
    EcuManager.lookupStateTransitionByDiagcommForActive, if_neg distinct, if_neg distinct.symm,
    if_true, stepped, and_self]

variable (semantics : Semantics) (depth : Nat) (mappedService : MappedService conv)

section

variable (service : mappedService.diagComm = some diagComm) (payload : List UInt8)
  (mapToJson : Bool)

include service payload mapToJson

theorem convertFromUds_of_positive (positive : AppliesPositive mappedService payload) :
    (ecu.convertFromUds semantics depth mappedService payload mapToJson).1 =
      ecu.followTransitions diagComm := by
  obtain ⟨response, params, applies, type⟩ := positive
  simp only [convertFromUds_of_applies service applies, type, if_true]

theorem convertFromUds_of_not_positive (other : ¬ AppliesPositive mappedService payload) :
    (ecu.convertFromUds semantics depth mappedService payload mapToJson).1 = ecu := by
  by_cases applied : ∃ response params, Applies mappedService payload response params
  · obtain ⟨response, params, applies⟩ := applied
    rw [convertFromUds_of_applies service applies]
    cases type : response.responseType with
    | error e => rfl
    | ok responseType =>
      apply if_neg
      rintro rfl
      exact other ⟨response, params, applies, type⟩
  · have none : ∀ response params, ¬ Applies mappedService payload response params :=
      fun response params applies => applied ⟨response, params, applies⟩
    obtain ⟨e, _, failed⟩ | ⟨firstByte, _, fallback⟩ :=
      convertFromUds_of_not_applies service none
    · rw [failed]
    · rw [fallback]

end

/-- The states of the ECU when the call of the transport has returned. -/
def transported (ecu : EcuManager) (final : Exchange) : EcuManager :=
  { ecu with serviceStates := final.serviceStates }

theorem concluded_serviceStates {call : Call} {exchange final : Exchange}
    {message : ServicePayload} {data : List UInt8} {source target : UInt16}
    (request : call.payload = servicePayload ecu diagComm data source target)
    (present : exchange.serviceStates = ecu.serviceStates)
    (settled : exchange.phase = .settled (.ok message))
    (positive : message.isPositiveResponseForSid exchange.sentSid = true)
    (concluded : exchange.step call .conclude = some final) :
    final.serviceStates ServiceIds.sessionControl =
      stepped ecu ecu.semantics.session ServiceIds.sessionControl diagComm ∧
    final.serviceStates ServiceIds.securityAccess =
      stepped ecu ecu.semantics.security ServiceIds.securityAccess diagComm := by
  have distinct : ServiceIds.sessionControl ≠ ServiceIds.securityAccess := by decide
  simp only [Exchange.step, settled, Option.some.injEq] at concluded
  subst concluded
  simp only [Exchange.conclude, positive, if_true, updateStates_eq, present, request,
    servicePayload, if_neg distinct, EcuManager.lookupStateTransitionByDiagcommForActive,
    stepped, and_self]

/-- A positive response moves each chart by one transition unless the decoder applies a
definition of a positive response and a chart does not rest where the transport put it. -/
theorem one_transition_iff (ecu : EcuManager) (diagComm : DiagComm) (call : Call)
    (exchange final : Exchange) (message : ServicePayload) (data : List UInt8)
    (source target : UInt16) (mapToJson : Bool)
    (service : mappedService.diagComm = some diagComm)
    (request : call.payload = servicePayload ecu diagComm data source target)
    (present : exchange.serviceStates = ecu.serviceStates)
    (settled : exchange.phase = .settled (.ok message))
    (positive : message.isPositiveResponseForSid exchange.sentSid = true)
    (concluded : exchange.step call .conclude = some final) :
    OneTransition ecu ((transported ecu final).convertFromUds semantics depth mappedService
        message.data mapToJson).1 diagComm ↔
      (AppliesPositive mappedService message.data →
        Rests ecu ecu.semantics.session ServiceIds.sessionControl diagComm ∧
        Rests ecu ecu.semantics.security ServiceIds.securityAccess diagComm) := by
  obtain ⟨session, security⟩ :=
    concluded_serviceStates request present settled positive concluded
  by_cases applied : AppliesPositive mappedService message.data
  · rw [convertFromUds_of_positive semantics depth mappedService service _ _ applied]
    obtain ⟨sessionAgain, securityAgain⟩ :=
      followTransitions_serviceStates (transported ecu final) diagComm
    simp only [applied, forall_const]
    exact and_congr (moved_of_twice_iff (transported ecu final) rfl session sessionAgain)
      (moved_of_twice_iff (transported ecu final) rfl security securityAgain)
  · rw [convertFromUds_of_not_positive semantics depth mappedService service _ _ applied]
    simp only [applied, false_imp_iff, iff_true]
    exact ⟨moved_of_once session, moved_of_once security⟩

def ChartLeads (ecu : EcuManager) (semantic current target : String) : Prop :=
  ∃ chart, ecu.transitionChart semantic = some chart ∧ chart.Leads current target

/-- A state moves along transitions of its chart only. -/
def FollowsChart (ecu after : EcuManager) (semantic : String) (sid : UInt8) : Prop :=
  ∀ before, ecu.serviceStates sid = some before →
    ∃ state, after.serviceStates sid = some state ∧
      Relation.ReflTransGen (ChartLeads ecu semantic) before state

structure FollowsCharts (ecu after : EcuManager) : Prop where
  unchanged : ∃ states, after = { ecu with serviceStates := states }
  session : FollowsChart ecu after ecu.semantics.session ServiceIds.sessionControl
  security : FollowsChart ecu after ecu.semantics.security ServiceIds.securityAccess

theorem exists_stepped {before : String} (present : ecu.serviceStates sid = some before) :
    ∃ state, stepped ecu semantic sid diagComm = some state ∧
      Relation.ReflTransGen (ChartLeads ecu semantic) before state := by
  rw [stepped]
  cases found : ecu.lookupTransitionForActive semantic sid diagComm with
  | none => exact ⟨before, present, .refl⟩
  | some state =>
    obtain ⟨chart, current, isChart, same, takes⟩ := lookupTransitionForActive_eq_some_iff.1 found
    cases present.symm.trans same
    obtain ⟨_, _, _, _, ⟨source, _, leads, sameState⟩, _⟩ := takes
    obtain ⟨transitions, listed, transition, mem, chartSource, named, sameSource, target⟩ := leads
    exact ⟨state, rfl, .single ⟨chart, isChart, transitions, listed, transition, mem, chartSource,
      named, sameSource.trans sameState, target⟩⟩

theorem FollowsChart.moves {states : UInt8 → Option String} {after : EcuManager}
    (follows : FollowsChart ecu { ecu with serviceStates := states } semantic sid)
    (moved : after.serviceStates sid =
      stepped { ecu with serviceStates := states } semantic sid diagComm) :
    FollowsChart ecu after semantic sid := by
  intro before present
  obtain ⟨state, reached, path⟩ := follows before present
  obtain ⟨next, isNext, step⟩ := exists_stepped reached
  exact ⟨next, moved.trans isNext, path.trans step⟩

theorem FollowsCharts.followTransitions {middle : EcuManager} (follows : FollowsCharts ecu middle)
    (diagComm : DiagComm) : FollowsCharts ecu (middle.followTransitions diagComm) := by
  obtain ⟨newSession, newSecurity⟩ := followTransitions_serviceStates middle diagComm
  obtain ⟨⟨states, rfl⟩, session, security⟩ := follows
  constructor
  · rw [EcuManager.followTransitions]
    obtain ⟨_ | _, _ | _⟩ := EcuManager.lookupStateTransitionByDiagcommForActive _ diagComm <;>
      exact ⟨_, rfl⟩
  · exact session.moves newSession
  · exact security.moves newSecurity

section Chain

def chainChart : StateChart where
  semantic := some "SESSION"
  stateTransitions := some [⟨some "Default", some "Extended"⟩,
    ⟨some "Extended", some "Programming"⟩]
  startStateShortNameRef := some "Default"
  states := some [⟨some "Default"⟩, ⟨some "Extended"⟩, ⟨some "Programming"⟩]

def defaultEcu : EcuManager where
  diagLayers := [⟨some [chainChart]⟩]
  semantics := ⟨"SESSION", "SECURITY"⟩
  serviceStates := fun sid => if sid = ServiceIds.sessionControl then some "Default" else none

/-- Every session change of the chart is by this service. -/
def nextSession : DiagComm where
  shortName := some "Next_Session"
  preConditionStateRefs := none
  stateTransitionRefs := some [some ⟨some "Default", some "Extended"⟩,
    some ⟨some "Extended", some "Programming"⟩]

def extendedSession : DiagComm :=
  { nextSession with stateTransitionRefs := some [some ⟨some "Default", some "Extended"⟩] }

def serviceIdOfResponse : Parameter integerConversions where
  paramType := .ok .codedConst
  shortName := some "SID".toList
  semantic := some "SERVICE-ID".toList
  bytePos := some 0
  bitPos := none
  specificData := .codedConst
    ⟨some (.ok ⟨.uint32, .standardLength ⟨8, none, false⟩, true⟩), some "80".toList⟩

def sessionService (diagComm : DiagComm) : MappedService integerConversions where
  service := ⟨none⟩
  diagComm := some diagComm
  posResponses := some [⟨.ok .positive, some [serviceIdOfResponse]⟩]
  negResponses := none

def sessionParameters : UdsParameters := ⟨0, .disabled, 0, .disabled, 0, 0, .disabled, 0, 0⟩

def sessionCall (diagComm : DiagComm) : Call where
  ecu := .ok sessionParameters
  payload := servicePayload defaultEcu diagComm [0x10, 0x03] 0x0E00 0x1000
  timeout := none
  expectResponse := true

def sessionAnswer : ServicePayload := ⟨[0x50, 0x03], 0x1000, 0x0E00, none, none⟩

def settledExchange : Exchange where
  phase := .settled (.ok sessionAnswer)
  parameters := sessionParameters
  sentSid := ServiceIds.sessionControl
  attempt := 0
  appRetryCount := 0
  rxTimeoutNext := none
  channels := fun _ => []
  closed := fun _ => true
  serviceStates := defaultEcu.serviceStates
  disconnected := false

def responseSemantics : Semantics := ⟨"DATA".toList, "SERVICE-ID".toList⟩

def afterAnswer (diagComm : DiagComm) : EcuManager :=
  ((transported defaultEcu (settledExchange.conclude (sessionCall diagComm) (.ok sessionAnswer))
    ).convertFromUds responseSemantics 1 (sessionService diagComm) sessionAnswer.data true).1

theorem extendedSession_moves_once : OneTransition defaultEcu (afterAnswer extendedSession)
    extendedSession := by
  apply (one_transition_iff responseSemantics 1 (sessionService extendedSession) defaultEcu
    extendedSession (sessionCall extendedSession) settledExchange
    (settledExchange.conclude (sessionCall extendedSession) (.ok sessionAnswer)) sessionAnswer
    [0x10, 0x03] 0x0E00 0x1000 true rfl rfl rfl rfl (by decide) rfl).2
  intro _
  constructor
  · intro target step chart isChart next takes
    have extended : some "Extended" = some target :=
      lookupTransitionForActive_eq_some_iff.2 step
    cases extended
    have isChain : some chainChart = some chart := isChart
    cases isChain
    have noNext : lookupStateTransition extendedSession chainChart "Extended" = none := by decide
    rw [lookupStateTransition_eq_some_iff.2 takes] at noNext
    cases noNext
  · rintro target ⟨chart, current, _, present, _⟩
    cases present

/-- From the default session one positive response leads past the extended session. -/
theorem nextSession_moves_twice :
    ¬ ∀ (semantics : Semantics) (depth : Nat) (mappedService : MappedService integerConversions)
      (ecu : EcuManager) (diagComm : DiagComm) (call : Call) (exchange final : Exchange)
      (message : ServicePayload) (data : List UInt8) (source target : UInt16) (mapToJson : Bool),
      mappedService.diagComm = some diagComm →
      call.payload = servicePayload ecu diagComm data source target →
      exchange.serviceStates = ecu.serviceStates →
      exchange.phase = .settled (.ok message) →
      message.isPositiveResponseForSid exchange.sentSid = true →
      exchange.step call .conclude = some final →
      OneTransition ecu ((transported ecu final).convertFromUds semantics depth mappedService
        message.data mapToJson).1 diagComm := by
  intro movesOnce
  have moved : OneTransition defaultEcu (afterAnswer nextSession) nextSession :=
    movesOnce responseSemantics 1 (sessionService nextSession) defaultEcu nextSession
      (sessionCall nextSession) settledExchange
      (settledExchange.conclude (sessionCall nextSession) (.ok sessionAnswer)) sessionAnswer
      [0x10, 0x03] 0x0E00 0x1000 true rfl rfl rfl rfl (by decide) rfl
  have step : Step defaultEcu "SESSION" ServiceIds.sessionControl nextSession "Extended" :=
    lookupTransitionForActive_eq_some_iff.1 (by decide)
  obtain ⟨final, reached, atTarget⟩ := moved.1.target "Extended" step
  have programming : (afterAnswer nextSession).serviceStates ServiceIds.sessionControl =
    some "Programming" := by decide
  cases programming.symm.trans reached
  exact absurd atTarget (by decide)

end Chain

end DiagnosticAdapter.Uds
