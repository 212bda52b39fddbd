import DiagnosticAdapter.Detection.GroupVerdict
import DiagnosticAdapter.Effects.Run

/-!
# Connectivity of one ECU

The coordinator actor of an ECU works off its mailbox; variant detections send it the
two suppression messages and write the ECU's state beside it.  A detection may be
dropped at any of its await points.
-/

namespace DiagnosticAdapter.Detection

open Effects

/-- The messages of `EcuCoordinator` that touch what is modelled here; those of a
detection carry its number. -/
inductive Message where
  | ecuConnected
  | ecuDisconnected
  | suppressDisconnectHandling (detection : Nat)
  | restoreDisconnectHandling (detection : Nat)
  | markAsDuplicate
  | markAsNoVariantDetected
  deriving DecidableEq, Repr

structure EcuCoordinator where
  ecuState : EcuState
  suppressDisconnect : Bool
  deriving DecidableEq, Repr

def EcuCoordinator.handle (coordinator : EcuCoordinator) : Message → EcuCoordinator
  | .ecuConnected =>
    if coordinator.ecuState.connectivity = .offline then
      { coordinator with
        ecuState := { connectivity := .online, variantState := .notTested, variantIndex := none } }
    else
      coordinator
  | .ecuDisconnected =>
    if coordinator.suppressDisconnect then
      coordinator
    else if coordinator.ecuState.connectivity = .online then
      { coordinator with ecuState := { coordinator.ecuState with connectivity := .offline } }
    else
      coordinator
  | .suppressDisconnectHandling _ => { coordinator with suppressDisconnect := true }
  | .restoreDisconnectHandling _ => { coordinator with suppressDisconnect := false }
  | .markAsDuplicate =>
    { coordinator with
      ecuState := { coordinator.ecuState with variantState := .duplicate, variantIndex := none } }
  | .markAsNoVariantDetected =>
    { coordinator with
      ecuState := { coordinator.ecuState with variantState := .notDetected, variantIndex := none } }

/-- What an `EcuManager` does to its ECU's state under one write lock. -/
inductive StateWrite where
  | setVariant (variant : Variant) (isFallback : Bool) (variantIndex : Option Nat)
  | clearVariant (variantState : VariantState) (connectivity : Option Connectivity)
  | unreachable

def StateWrite.apply (status : EcuState) : StateWrite → EcuState
  | .setVariant variant isFallback variantIndex =>
    if variantIndex.isSome then
      { connectivity := .online
        variantState := .detected variant.name variant.isBaseVariant isFallback
        variantIndex := variantIndex }
    else
      { status with variantState := .notDetected, variantIndex := variantIndex }
  | .clearVariant variantState connectivity =>
    { connectivity := connectivity.getD status.connectivity
      variantState := variantState
      variantIndex := none }
  | .unreachable => { status with connectivity := .offline }

inductive DetectionPhase where
  | absent
  /-- Up to `suppress_disconnect_handling`. -/
  | preparing
  /-- Awaits the coordinator's reply to the first message. -/
  | suppressing
  | sending
  /-- Awaits the coordinator's reply to the second message. -/
  | restoring
  | evaluating
  | ended
  deriving DecidableEq, Repr

def DetectionPhase.isBetween : DetectionPhase → Bool
  | .sending | .restoring => true
  | _ => false

inductive ConnectivityEvent where
  | begin
  | suppress (detection : Nat)
  | restore (detection : Nat)
  | finish (detection : Nat)
  | drop (detection : Nat)
  | tell (message : Message)
  | handle
  | write (write : StateWrite)

structure ConnectivityState where
  coordinator : EcuCoordinator
  mailbox : List Message
  begun : Nat
  detections : Nat → DetectionPhase

namespace ConnectivityState

def initial : ConnectivityState where
  coordinator := ⟨.default, false⟩
  mailbox := []
  begun := 0
  detections := fun _ => .absent

def enter (detection : Nat) (phase : DetectionPhase) (state : ConnectivityState) :
    ConnectivityState :=
  { state with detections := Function.update state.detections detection phase }

def post (message : Message) (state : ConnectivityState) : ConnectivityState :=
  { state with mailbox := state.mailbox ++ [message] }

/-- A reply resumes the detection, if it still waits for it. -/
def reply (message : Message) (state : ConnectivityState) : ConnectivityState :=
  match message with
  | .suppressDisconnectHandling detection =>
    if state.detections detection = .suppressing then state.enter detection .sending else state
  | .restoreDisconnectHandling detection =>
    if state.detections detection = .restoring then state.enter detection .evaluating else state
  | _ => state

def step (state : ConnectivityState) : ConnectivityEvent → Option ConnectivityState
  | .begin => some ({ state with begun := state.begun + 1 }.enter state.begun .preparing)
  | .suppress detection =>
    if state.detections detection = .preparing then
      some ((state.post (.suppressDisconnectHandling detection)).enter detection .suppressing)
    else
      none
  | .restore detection =>
    if state.detections detection = .sending then
      some ((state.post (.restoreDisconnectHandling detection)).enter detection .restoring)
    else
      none
  | .finish detection =>
    match state.detections detection with
    | .preparing | .evaluating => some (state.enter detection .ended)
    | _ => none
  | .drop detection =>
    match state.detections detection with
    | .absent | .ended => none
    | _ => some (state.enter detection .ended)
  | .tell message =>
    match message with
    | .suppressDisconnectHandling _ | .restoreDisconnectHandling _ => none
    | _ => some (state.post message)
  | .handle =>
    match state.mailbox with
    | [] => none
    | message :: rest =>
      some ({ state with
        coordinator := state.coordinator.handle message
        mailbox := rest }.reply message)
  | .write write =>
    some { state with
      coordinator :=
        { state.coordinator with ecuState := write.apply state.coordinator.ecuState } }

/-- A detection is not dropped while its suppression is asked for or in force. -/
def undropped (state : ConnectivityState) : ConnectivityEvent → Bool
  | .drop detection =>
    match state.detections detection with
    | .suppressing | .sending | .restoring => false
    | _ => true
  | _ => true

end ConnectivityState

def EcuState.Indexed (status : EcuState) : Prop :=
  status.variantIndex.isSome = true → status.variantState.isDetected = true

theorem StateWrite.indexed {status : EcuState} (indexed : status.Indexed) (write : StateWrite) :
    (write.apply status).Indexed := by
  cases write with
  | setVariant variant isFallback variantIndex =>
    simp only [StateWrite.apply]
    split
    · intro _
      rfl
    · rename_i absent
      intro isSome
      exact absurd isSome absent
  | clearVariant variantState connectivity =>
    intro isSome
    cases isSome
  | unreachable => exact indexed

theorem EcuCoordinator.handle_indexed {coordinator : EcuCoordinator}
    (indexed : coordinator.ecuState.Indexed) (message : Message) :
    (coordinator.handle message).ecuState.Indexed := by
  cases message with
  | ecuConnected =>
    simp only [handle]
    split
    · intro isSome
      cases isSome
    · exact indexed
  | ecuDisconnected =>
    simp only [handle]
    split
    · exact indexed
    · split <;> exact indexed
  | suppressDisconnectHandling detection | restoreDisconnectHandling detection => exact indexed
  | markAsDuplicate | markAsNoVariantDetected =>
    intro isSome
    cases isSome

/-- What the coordinator's state says is true. -/
structure Truthful (state : ConnectivityState) : Prop where
  suppression : state.coordinator.suppressDisconnect = true →
    ∃ detection, (state.detections detection).isBetween = true
  indexed : state.coordinator.ecuState.Indexed

/-- With the mailbox: a suppression message is that of a detection waiting for it. -/
structure Coordinated (state : ConnectivityState) : Prop where
  truthful : Truthful state
  waiting : ∀ detection, .suppressDisconnectHandling detection ∈ state.mailbox →
    state.detections detection = .suppressing
  once : ∀ detection, state.mailbox.count (.suppressDisconnectHandling detection) ≤ 1
  unbegun : ∀ detection, state.begun ≤ detection → state.detections detection = .absent

theorem coordinated_initial : Coordinated .initial := by
  refine ⟨⟨?_, ?_⟩, ?_, ?_, ?_⟩
  · intro suppressed
    cases suppressed
  · intro isSome
    cases isSome
  · intro detection member
    cases member
  · intro detection
    exact Nat.zero_le _
  · intro detection _
    rfl

section

variable {state next : ConnectivityState}

section

variable (coordinated : Coordinated state)

include coordinated

/-- A detection goes on from a phase in which nothing of it is in the mailbox, and from
which it does not leave the suppression behind. -/
theorem Coordinated.enter {detection : Nat} {phase : DetectionPhase}
    (notWaiting : state.detections detection ≠ .suppressing) (begun : detection < state.begun)
    (stays : (state.detections detection).isBetween = true → phase.isBetween = true) :
    Coordinated (state.enter detection phase) := by
  refine ⟨⟨?_, coordinated.truthful.indexed⟩, ?_, coordinated.once, ?_⟩
  · intro suppressed
    obtain ⟨other, between⟩ := coordinated.truthful.suppression suppressed
    refine ⟨other, ?_⟩
    by_cases same : other = detection
    · subst same
      simpa [ConnectivityState.enter] using stays between
    · simpa [ConnectivityState.enter, same] using between
  · intro other member
    have waits := coordinated.waiting other member
    have ne : other ≠ detection := by
      intro same
      exact notWaiting (same ▸ waits)
    simpa [ConnectivityState.enter, ne] using waits
  · intro other unbegun
    have ne : other ≠ detection := by
      have : state.begun ≤ other := unbegun
      omega
    simpa [ConnectivityState.enter, ne] using coordinated.unbegun other unbegun

theorem Coordinated.begun_of_phase {detection : Nat} (active : state.detections detection ≠ .absent) :
    detection < state.begun := by
  by_contra unbegun
  exact active (coordinated.unbegun detection (Nat.not_lt.mp unbegun))

theorem Coordinated.post {message : Message}
    (other : ∀ detection, message ≠ .suppressDisconnectHandling detection) :
    Coordinated (state.post message) := by
  refine ⟨⟨coordinated.truthful.suppression, coordinated.truthful.indexed⟩, ?_, ?_,
    coordinated.unbegun⟩
  · intro detection member
    rcases List.mem_append.mp member with before | new
    · exact coordinated.waiting detection before
    · exact absurd (List.mem_singleton.mp new).symm (other detection)
  · intro detection
    have absent : .suppressDisconnectHandling detection ∉ [message] := by
      simpa using (other detection).symm
    simp only [ConnectivityState.post, List.count_append]
    rw [List.count_eq_zero.mpr absent]
    exact coordinated.once detection

theorem Coordinated.suppress {detection : Nat} (preparing : state.detections detection = .preparing) :
    Coordinated ((state.post (.suppressDisconnectHandling detection)).enter detection
      .suppressing) := by
  have begun := coordinated.begun_of_phase (by rw [preparing]; simp)
  have fresh : .suppressDisconnectHandling detection ∉ state.mailbox := by
    intro member
    have waits := coordinated.waiting detection member
    rw [preparing] at waits
    cases waits
  refine ⟨⟨?_, coordinated.truthful.indexed⟩, ?_, ?_, ?_⟩
  · intro suppressed
    obtain ⟨other, between⟩ := coordinated.truthful.suppression suppressed
    refine ⟨other, ?_⟩
    have ne : other ≠ detection := by
      intro same
      rw [same, preparing] at between
      cases between
    simpa [ConnectivityState.enter, ConnectivityState.post, ne] using between
  · intro other member
    by_cases same : other = detection
    · simp [ConnectivityState.enter, same]
    · have before : .suppressDisconnectHandling other ∈ state.mailbox := by
        simpa [ConnectivityState.enter, ConnectivityState.post, same] using member
      simpa [ConnectivityState.enter, ConnectivityState.post, same] using
        coordinated.waiting other before
  · intro other
    simp only [ConnectivityState.enter, ConnectivityState.post, List.count_append]
    by_cases same : other = detection
    · rw [same, List.count_eq_zero.mpr fresh]
      simp
    · rw [List.count_eq_zero.mpr (by simpa using same :
        .suppressDisconnectHandling other ∉ [Message.suppressDisconnectHandling detection])]
      exact coordinated.once other
  · intro other unbegun
    have ne : other ≠ detection := by
      have : state.begun ≤ other := unbegun
      omega
    simpa [ConnectivityState.enter, ConnectivityState.post, ne] using
      coordinated.unbegun other unbegun

theorem Coordinated.handle {message : Message} {rest : List Message}
    (mailbox : state.mailbox = message :: rest) :
    Coordinated (ConnectivityState.reply message
      { state with coordinator := state.coordinator.handle message, mailbox := rest }) := by
  have indexed := EcuCoordinator.handle_indexed coordinated.truthful.indexed message
  have waiting : ∀ detection, .suppressDisconnectHandling detection ∈ rest →
      state.detections detection = .suppressing := by
    intro detection member
    exact coordinated.waiting detection (by rw [mailbox]; exact List.mem_cons_of_mem _ member)
  have once : ∀ detection, rest.count (.suppressDisconnectHandling detection) ≤ 1 := by
    intro detection
    have counted := coordinated.once detection
    rw [mailbox] at counted
    exact (List.count_le_count_cons).trans counted
  have unchanged (same : (state.coordinator.handle message).suppressDisconnect =
      state.coordinator.suppressDisconnect) :
      Coordinated { state with
        coordinator := state.coordinator.handle message, mailbox := rest } := by
    refine ⟨⟨?_, indexed⟩, waiting, once, coordinated.unbegun⟩
    intro suppressed
    exact coordinated.truthful.suppression (same ▸ suppressed)
  cases message with
  | suppressDisconnectHandling detection =>
    have waits := coordinated.waiting detection (by rw [mailbox]; exact List.mem_cons_self)
    have last : .suppressDisconnectHandling detection ∉ rest := by
      have counted := coordinated.once detection
      rw [mailbox, List.count_cons_self] at counted
      exact List.count_eq_zero.mp (by omega)
    simp only [ConnectivityState.reply, waits, if_true]
    refine ⟨⟨?_, indexed⟩, ?_, once, ?_⟩
    · intro _
      exact ⟨detection, by simp [ConnectivityState.enter, DetectionPhase.isBetween]⟩
    · intro other member
      have ne : other ≠ detection := by
        intro same
        exact last (same ▸ member)
      simpa [ConnectivityState.enter, ne] using waiting other member
    · intro other unbegun
      have ne : other ≠ detection := by
        intro same
        have absent := coordinated.unbegun other unbegun
        rw [same, waits] at absent
        cases absent
      simpa [ConnectivityState.enter, ne] using coordinated.unbegun other unbegun
  | restoreDisconnectHandling detection =>
    have cleared : Coordinated { state with
        coordinator := state.coordinator.handle (.restoreDisconnectHandling detection)
        mailbox := rest } := by
      refine ⟨⟨?_, indexed⟩, waiting, once, coordinated.unbegun⟩
      intro suppressed
      cases suppressed
    simp only [ConnectivityState.reply]
    split
    case isFalse => exact cleared
    case isTrue restoring =>
      have isRestoring : state.detections detection = .restoring := restoring
      have notWaiting : state.detections detection ≠ .suppressing := by simp [isRestoring]
      refine ⟨⟨?_, indexed⟩, ?_, once, ?_⟩
      · intro suppressed
        cases suppressed
      · intro other member
        have waits := waiting other member
        have ne : other ≠ detection := by
          intro same
          exact notWaiting (same ▸ waits)
        simpa [ConnectivityState.enter, ne] using waits
      · intro other unbegun
        have ne : other ≠ detection := by
          intro same
          have absent := coordinated.unbegun other unbegun
          rw [same, isRestoring] at absent
          cases absent
        simpa [ConnectivityState.enter, ne] using coordinated.unbegun other unbegun
  | ecuConnected =>
    apply unchanged
    simp only [EcuCoordinator.handle]
    split <;> rfl
  | ecuDisconnected =>
    apply unchanged
    simp only [EcuCoordinator.handle]
    split
    · rfl
    · split <;> rfl
  | markAsDuplicate | markAsNoVariantDetected => exact unchanged rfl

theorem Coordinated.step {event : ConnectivityEvent} (undropped : state.undropped event = true)
    (taken : state.step event = some next) : Coordinated next := by
  cases event with
  | begin =>
    cases taken
    have counted : Coordinated { state with begun := state.begun + 1 } :=
      ⟨⟨coordinated.truthful.suppression, coordinated.truthful.indexed⟩, coordinated.waiting,
        coordinated.once, fun detection unbegun =>
        coordinated.unbegun detection (by
          have : state.begun + 1 ≤ detection := unbegun
          omega)⟩
    have absent := coordinated.unbegun state.begun (Nat.le_refl _)
    apply counted.enter
    · simp [absent]
    · exact Nat.lt_succ_self _
    · intro between
      change (state.detections state.begun).isBetween = true at between
      rw [absent] at between
      cases between
  | suppress detection =>
    simp only [ConnectivityState.step] at taken
    split at taken
    case isFalse => cases taken
    case isTrue preparing =>
      cases taken
      exact coordinated.suppress preparing
  | restore detection =>
    simp only [ConnectivityState.step] at taken
    split at taken
    case isFalse => cases taken
    case isTrue sending =>
      cases taken
      have posted := coordinated.post
        (show ∀ other, Message.restoreDisconnectHandling detection ≠
          .suppressDisconnectHandling other by simp)
      apply posted.enter
      · simp [ConnectivityState.post, sending]
      · exact coordinated.begun_of_phase (by simp [sending])
      · intro _
        rfl
  | finish detection =>
    simp only [ConnectivityState.step] at taken
    split at taken
    case h_1 preparing =>
      cases taken
      apply coordinated.enter (by simp [preparing])
        (coordinated.begun_of_phase (by simp [preparing]))
      intro between
      rw [preparing] at between
      cases between
    case h_2 evaluating =>
      cases taken
      apply coordinated.enter (by simp [evaluating])
        (coordinated.begun_of_phase (by simp [evaluating]))
      intro between
      rw [evaluating] at between
      cases between
    case h_3 => cases taken
  | drop detection =>
    simp only [ConnectivityState.step] at taken
    have outside : state.detections detection ≠ .suppressing ∧
        (state.detections detection).isBetween = false := by
      cases phase : state.detections detection <;>
        simp_all [ConnectivityState.undropped, DetectionPhase.isBetween]
    split at taken
    case h_1 => cases taken
    case h_2 => cases taken
    case h_3 notAbsent _ =>
      cases taken
      apply coordinated.enter outside.1 (coordinated.begun_of_phase notAbsent)
      intro between
      rw [outside.2] at between
      cases between
  | tell message =>
    cases message with
    | suppressDisconnectHandling detection => cases taken
    | restoreDisconnectHandling detection => cases taken
    | _ =>
      cases taken
      exact coordinated.post (by simp)
  | handle =>
    simp only [ConnectivityState.step] at taken
    split at taken
    case h_1 => cases taken
    case h_2 message rest mailbox =>
      cases taken
      exact coordinated.handle mailbox
  | write write =>
    cases taken
    exact ⟨⟨coordinated.truthful.suppression, write.indexed coordinated.truthful.indexed⟩,
      coordinated.waiting, coordinated.once, coordinated.unbegun⟩

end

def UndroppedStep (state : ConnectivityState) (event : ConnectivityEvent)
    (next : ConnectivityState) : Prop :=
  state.step event = some next ∧ state.undropped event = true

theorem truthful_of_run {events : List ConnectivityEvent}
    (run : Run UndroppedStep .initial events state) : Truthful state := by
  have coordinated : Coordinated state := by
    apply run.keeps (fun _ state => Coordinated state) coordinated_initial
    intro events event state next coordinated ⟨taken, undropped⟩
    exact coordinated.step undropped taken
  exact coordinated.truthful

end

/-- The ECU disconnects and connects while its detection sends; another detection is
dropped before it has asked for anything. -/
def detectionOfOneEcu : List ConnectivityEvent :=
  [.tell .ecuConnected, .handle, .begin, .suppress 0, .begin, .handle, .drop 1,
    .tell .ecuDisconnected, .handle, .restore 0, .handle,
    .write (.setVariant ⟨"MyVariant", false⟩ false (some 0)), .finish 0, .begin, .suppress 2,
    .handle]

theorem truthful_of_detectionOfOneEcu :
    ∃ state, Run UndroppedStep .initial detectionOfOneEcu state ∧
      state.coordinator = ⟨⟨.online, .detected "MyVariant" false false, some 0⟩, true⟩ ∧
      Truthful state := by
  have run : ∃ state, Run UndroppedStep .initial detectionOfOneEcu state ∧
      state.coordinator = ⟨⟨.online, .detected "MyVariant" false false, some 0⟩, true⟩ :=
    ⟨_, Run.of_guarded_foldlM rfl, rfl⟩
  obtain ⟨state, undropped, final⟩ := run
  exact ⟨state, undropped, final, truthful_of_run undropped⟩

/-- The caller goes away while the detection requests are in flight; from then on no
disconnect is noticed. -/
def droppedDetection : List ConnectivityEvent :=
  [.tell .ecuConnected, .handle, .begin, .suppress 0, .handle, .drop 0,
    .tell .ecuDisconnected, .handle]

theorem suppression_outlives_detection :
    ¬ ∀ events state, Run (fun state event next => ConnectivityState.step state event = some next)
      .initial events state → Truthful state := by
  intro everyStateTruthful
  have run : ∃ state : ConnectivityState,
      Run (fun state event next => ConnectivityState.step state event = some next) .initial
        droppedDetection state ∧
      state.coordinator = ⟨⟨.online, .notTested, none⟩, true⟩ ∧
      (state.detections 0).isBetween = false ∧
      ∀ detection, (state.detections (detection + 1)).isBetween = false := by
    refine ⟨_, Run.of_foldlM rfl, rfl, rfl, ?_⟩
    intro detection
    rfl
  obtain ⟨state, run, suppressed, first, others⟩ := run
  obtain ⟨detection, between⟩ := (everyStateTruthful _ _ run).suppression (by rw [suppressed])
  cases detection with
  | zero =>
    rw [first] at between
    cases between
  | succ detection =>
    rw [others detection] at between
    cases between

end DiagnosticAdapter.Detection
