import DiagnosticAdapter.Doip.ConnectionReset

/-!
# What the notifications of a gateway say

The reset task notifies in the order of what happens to the connection; the set-up path
notifies for the first connection, whatever has become of it.
-/

namespace DiagnosticAdapter.Doip

open Effects

/-- No other gateway has an ECU with the address of one behind this gateway. -/
def Unshared (ecus : Ecus) (gateway : UInt16) : Prop :=
  ∀ ecu ∈ ecus, ∀ other ∈ ecus, other.logicalGatewayAddress = gateway →
    ecu.logicalAddress = other.logicalAddress → ecu.logicalGatewayAddress = gateway

instance (ecus : Ecus) (gateway : UInt16) : Decidable (Unshared ecus gateway) :=
  inferInstanceAs (Decidable (∀ ecu ∈ ecus, ∀ other ∈ ecus, _ → _ → _))

def ecuNamesOf (ecus : Ecus) (gateway : UInt16) : List String :=
  (ecus.filter (·.logicalGatewayAddress == gateway)).map (·.name)

section Names

variable {ecus : Ecus} {gateway : UInt16} {ecuIds : List UInt16}

section

variable (behind : ecusBehind ecus gateway = some ecuIds)

include behind

theorem contains_ecusBehind_iff (address : UInt16) : ecuIds.contains address = true ↔
      ∃ other ∈ ecus, other.logicalGatewayAddress = gateway ∧ address = other.logicalAddress := by
  unfold ecusBehind at behind
  split at behind
  case h_1 => cases behind
  case h_2 =>
    cases behind
    simp only [List.contains_iff_mem, List.mem_map, List.mem_filter, beq_iff_eq, and_assoc]
    constructor
    · rintro ⟨other, mem, isBehind, same⟩
      exact ⟨other, mem, isBehind, same.symm⟩
    · rintro ⟨other, mem, isBehind, same⟩
      exact ⟨other, mem, isBehind, same.symm⟩

theorem filter_found : (ecus.filter fun ecu => ecuIds.contains ecu.logicalAddress).filter
        (·.logicalGatewayAddress == gateway) =
      ecus.filter (·.logicalGatewayAddress == gateway) := by
  rw [List.filter_filter]
  apply List.filter_congr
  intro ecu mem
  cases isBehind : ecu.logicalGatewayAddress == gateway with
  | false => rfl
  | true =>
    rw [(contains_ecusBehind_iff behind ecu.logicalAddress).mpr
      ⟨ecu, mem, beq_iff_eq.mp isBehind, rfl⟩]
    rfl

theorem ecuNamesForGateway_eq_iff :
    ecuNamesForGateway ecus ecuIds = ecuNamesOf ecus gateway ↔ Unshared ecus gateway := by
  constructor
  · intro same ecu mem other otherMember isBehind sameAddress
    by_contra foreign
    have fewer : ((ecus.filter fun ecu => ecuIds.contains ecu.logicalAddress).filter
        (·.logicalGatewayAddress == gateway)).length <
          (ecus.filter fun ecu => ecuIds.contains ecu.logicalAddress).length := by
      apply List.length_filter_lt_length_iff_exists.mpr
      refine ⟨ecu, List.mem_filter.mpr ⟨mem, ?_⟩, by simpa using foreign⟩
      exact (contains_ecusBehind_iff behind _).mpr ⟨other, otherMember, isBehind, sameAddress⟩
    have lengths := congrArg List.length same
    simp only [ecuNamesForGateway, ecuNamesOf, List.length_map] at lengths
    rw [filter_found behind] at fewer
    omega
  · intro unshared
    simp only [ecuNamesForGateway, ecuNamesOf]
    congr 1
    apply List.filter_congr
    intro ecu mem
    rw [Bool.eq_iff_iff, contains_ecusBehind_iff behind, beq_iff_eq]
    constructor
    · rintro ⟨other, otherMember, isBehind, sameAddress⟩
      exact unshared ecu mem other otherMember isBehind sameAddress
    · intro isBehind
      exact ⟨ecu, mem, isBehind, rfl⟩

end

end Names

namespace GatewayLink

def NamesExact (ecus : Ecus) (gateway : UInt16) (link : GatewayLink) : Prop :=
  ∀ notification ∈ link.notifications, notification.ecuNames = ecuNamesOf ecus gateway

/-- The reset task is reconnecting or has given up. -/
def isDown (link : GatewayLink) : Bool :=
  match link.reset with
  | .disconnecting _ | .locking _ | .establishing _ _ => true
  | _ => link.gaveUp

def isNotifying (link : GatewayLink) : Bool :=
  match link.reset with
  | .disconnecting _ | .connecting => true
  | _ => link.setUp == .connecting

/-- The last notification is true; there is none only before the first. -/
def UpToDate (link : GatewayLink) : Prop :=
  match link.notifications.getLast? with
  | some last => last.connected = !link.isDown
  | none => link.setUp = .publishing

/-- The reset task takes no request before the set-up path has notified. -/
def afterSetUp (link : GatewayLink) : LinkEvent → Bool
  | .receive => link.setUp == .returned
  | _ => true

structure Ordered (link : GatewayLink) : Prop where
  upToDate : link.UpToDate
  /-- The reset task has not begun. -/
  first : link.setUp ≠ .returned → link.isDown = false

theorem ordered_initial : initial.Ordered :=
  ⟨rfl, fun _ => rfl⟩

section

variable {setup : GatewaySetup} {link next : GatewayLink}

theorem Ordered.move (ordered : link.Ordered)
    (notifications : next.notifications = link.notifications) (isDown : next.isDown = link.isDown)
    (publishing : link.setUp = .publishing → next.setUp = .publishing)
    (returned : link.setUp = .returned → next.setUp = .returned) : next.Ordered := by
  constructor
  · have upToDate := ordered.upToDate
    unfold UpToDate at upToDate ⊢
    rw [notifications]
    split at upToDate
    case h_1 last found =>
      rw [isDown]
      exact upToDate
    case h_2 => exact publishing upToDate
  · intro notReturned
    rw [isDown]
    exact ordered.first fun isReturned => notReturned (returned isReturned)

theorem upToDate_notify {connected : Bool} (isDown : link.isDown = !connected) :
    (link.notify connected setup).UpToDate := by
  simp only [UpToDate, notify, List.getLast?_append, List.getLast?_singleton, Option.some_or]
  change connected = !link.isDown
  rw [isDown, Bool.not_not]

theorem Ordered.step (ordered : link.Ordered) {event : LinkEvent}
    (taken : link.step setup event = some next) (after : link.afterSetUp event = true) :
    next.Ordered := by
  cases LinkStep.of_step taken with
  | observed | enqueued | ioEnded | discarded => exact ordered.move rfl rfl id id
  | received =>
    refine ⟨upToDate_notify rfl, ?_⟩
    intro notReturned
    have returned : link.setUp = .returned := by simpa [afterSetUp] using after
    exact absurd returned notReturned
  | closed phase | disconnectNotified phase | connectNotified phase | locked phase | gaveUp phase
  | retried phase | drained phase =>
    refine ordered.move rfl ?_ id id
    simp only [isDown, phase]
  | established => exact ⟨upToDate_notify rfl, fun _ => rfl⟩
  | published phase =>
    have up := ordered.first (by rw [phase]; decide)
    exact ⟨upToDate_notify up, fun _ => up⟩
  | setUpNotified phase =>
    refine ordered.move rfl rfl ?_ ?_
    · intro publishing
      rw [phase] at publishing
      cases publishing
    · intro _
      rfl

theorem step_ecuNames {event : LinkEvent} (taken : link.step setup event = some next)
    (same : ∀ notification ∈ link.notifications, notification.ecuNames = setup.ecuNames) :
    ∀ notification ∈ next.notifications, notification.ecuNames = setup.ecuNames := by
  have added : next.notifications = link.notifications ∨
      ∃ connected, next.notifications = link.notifications ++ [⟨connected, setup.ecuNames⟩] := by
    cases LinkStep.of_step taken with
    | received | established | published => exact .inr ⟨_, rfl⟩
    | _ => exact .inl rfl
  intro notification mem
  obtain same' | ⟨connected, grown⟩ := added
  · rw [same'] at mem
    exact same notification mem
  · rw [grown] at mem
    rcases List.mem_append.mp mem with old | new
    · exact same notification old
    · rw [List.mem_singleton.mp new]

end

/-- The names are right where no address is shared, and only there; the last notification
is right where the reset task begins after the set-up path has notified. -/
theorem notifications_of_run {ecus : Ecus} {gateway : UInt16} {maxRetryAttempts : Nat}
    {setup : GatewaySetup} {events : List LinkEvent} {link : GatewayLink}
    (created : gatewaySetup ecus gateway maxRetryAttempts = some setup)
    (run : Run (fun link event next => link.step setup event = some next) initial events link) :
    (link.notifications ≠ [] → (link.NamesExact ecus gateway ↔ Unshared ecus gateway)) ∧
      (Run (fun link event next => link.step setup event = some next ∧
        link.afterSetUp event = true) initial events link →
          link.isNotifying = false → link.UpToDate) := by
  constructor
  · obtain ⟨ecuIds, behind, rfl⟩ := Option.map_eq_some_iff.mp created
    have kept : ∀ notification ∈ link.notifications,
        notification.ecuNames = ecuNamesForGateway ecus ecuIds := by
      apply Run.keeps (fun _ link => ∀ notification ∈ link.notifications,
        notification.ecuNames = ecuNamesForGateway ecus ecuIds) (by simp [initial]) _ run
      intro _ event link next kept taken
      exact step_ecuNames taken kept
    intro some
    rw [← ecuNamesForGateway_eq_iff behind]
    obtain ⟨notification, mem⟩ := List.exists_mem_of_ne_nil _ some
    constructor
    · intro exact
      rw [← kept notification mem, exact notification mem]
    · intro same other otherMember
      rw [kept other otherMember, same]
  · intro late _
    have ordered : link.Ordered := by
      apply Run.keeps (fun _ link => link.Ordered) ordered_initial _ late
      intro _ event link next kept ⟨taken, after⟩
      exact kept.step taken after
    exact ordered.upToDate

end GatewayLink

def gatewayWithEngine : Ecus :=
  [⟨"gateway", 0x1000, 0x1000⟩, ⟨"engine", 0x1001, 0x1000⟩, ⟨"body", 0x2000, 0x2000⟩]

/-- The gateway cannot be reached, the reset task gives up, and a later request succeeds. -/
def reconnectedLate : List LinkEvent :=
  [.published, .setUpNotified, .observe .receiver, .enqueue .receiver, .receive, .notified, .lock,
    .establish false, .observe .sender, .enqueue .sender, .receive, .notified, .lock,
    .establish true, .notified, .drained]

theorem notifications_reconnectedLate : ∃ link : GatewayLink,
    link.notifications.map (·.connected) = [true, false, false, true] ∧
      link.NamesExact gatewayWithEngine 0x1000 ∧ link.UpToDate := by
  have run : ∃ link : GatewayLink, Run (fun link event next =>
        link.step ⟨[0x1000, 0x1001], ["gateway", "engine"], 1⟩ event = some next ∧
          link.afterSetUp event = true) .initial reconnectedLate link ∧
      link.notifications.map (·.connected) = [true, false, false, true] ∧
      link.isNotifying = false :=
    ⟨_, Run.of_guarded_foldlM rfl, rfl, rfl⟩
  obtain ⟨link, run, order, quiet⟩ := run
  have right := @GatewayLink.notifications_of_run gatewayWithEngine 0x1000 1 _ _ link rfl
    (run.mono fun _ _ _ taken => taken.1)
  refine ⟨link, order, (right.1 ?_).mpr (by decide), right.2 run quiet⟩
  intro none
  rw [none] at order
  cases order

/-- The connection drops before the set-up path has notified for it. -/
def droppedAtOnce : List LinkEvent :=
  [.observe .receiver, .enqueue .receiver, .receive, .notified, .published, .setUpNotified]

/-- The body is behind another gateway and has the address of the engine. -/
def sameAddress : Ecus :=
  [⟨"gateway", 0x1000, 0x1000⟩, ⟨"engine", 0x1001, 0x1000⟩, ⟨"body", 0x1001, 0x2000⟩]

theorem notifications_wrong : (¬ ∀ ecus gateway maxRetryAttempts setup events link,
      gatewaySetup ecus gateway maxRetryAttempts = some setup →
      Run (fun link event next => GatewayLink.step setup link event = some next) .initial events
        link → link.isNotifying = false → link.UpToDate) ∧
    ¬ ∀ ecus gateway maxRetryAttempts setup events link,
      gatewaySetup ecus gateway maxRetryAttempts = some setup →
      Run (fun link event next => GatewayLink.step setup link event = some next) .initial events
        link → link.NamesExact ecus gateway := by
  constructor
  · intro everyRunUpToDate
    have run : ∃ link : GatewayLink, Run (fun link event next =>
          link.step ⟨[0x1000, 0x1001], ["gateway", "engine"], 3⟩ event = some next)
          .initial droppedAtOnce link ∧ link.isNotifying = false ∧
        link.notifications.map (·.connected) = [false, true] ∧ link.isDown = true :=
      ⟨_, Run.of_foldlM rfl, rfl, rfl, rfl⟩
    obtain ⟨link, run, quiet, order, down⟩ := run
    have upToDate := everyRunUpToDate gatewayWithEngine 0x1000 3 _ _ _ rfl run quiet
    have last : link.notifications.getLast?.map (·.connected) = some true := by
      rw [← List.getLast?_map, order]
      rfl
    unfold GatewayLink.UpToDate at upToDate
    rw [down] at upToDate
    split at upToDate
    case h_1 notification found =>
      rw [found, Option.map_some, upToDate] at last
      cases last
    case h_2 found =>
      rw [found] at last
      cases last
  · intro everyRunExact
    have run : ∃ link : GatewayLink, Run (fun link event next =>
          link.step ⟨[0x1000, 0x1001], ["gateway", "engine", "body"], 3⟩ event = some next)
          .initial [.published] link ∧
        link.notifications = [⟨true, ["gateway", "engine", "body"]⟩] :=
      ⟨_, Run.of_foldlM rfl, rfl⟩
    obtain ⟨link, run, notified⟩ := run
    have exact := everyRunExact sameAddress 0x1000 3 _ _ _ rfl run
    rw [GatewayLink.NamesExact, notified] at exact
    exact absurd (exact _ List.mem_cons_self) (by decide)

end DiagnosticAdapter.Doip
