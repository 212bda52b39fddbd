import DiagnosticAdapter.Doip.Gateways

/-!
# One connection for a gateway

The listener connects only to gateways without an index; the initial discovery connects
to every gateway it has found, as often as it has found it.
-/

namespace DiagnosticAdapter.Doip

open Effects

/-- The connection is that of the gateway and reaches every ECU behind it. -/
def DoipConnection.Serves (ecus : Ecus) (gateway : UInt16) (connection : DoipConnection) :
    Prop :=
  connection.gateway = gateway ∧
    ∀ ecu ∈ ecus, ecu.logicalGatewayAddress = gateway → ecu.logicalAddress ∈ connection.ecus

namespace Gateways

def AtMostOne (gateways : Gateways) : Prop :=
  (gateways.doipConnections.map (·.gateway)).Nodup

def Indexed (ecus : Ecus) (gateways : Gateways) : Prop :=
  ∀ gateway index, gateways.logicalAddressToConnection gateway = some index →
    ∃ connection, gateways.doipConnections[index]? = some connection ∧
      connection.Serves ecus gateway

def Complete (gateways : Gateways) : Prop :=
  ∀ connection ∈ gateways.doipConnections,
    (gateways.logicalAddressToConnection connection.gateway).isSome = true

/-- At most one connection for a gateway, found through its index and only there. -/
structure OneConnectionPerGateway (ecus : Ecus) (gateways : Gateways) : Prop where
  atMostOne : gateways.AtMostOne
  indexed : gateways.Indexed ecus
  complete : gateways.Complete

/-- No connection is there for a gateway of the initial discovery that connects. -/
def unrepeated (gateways : Gateways) : DiscoveryEvent → Bool
  | .establish (.ok ()) =>
    match gateways.phase, gateways.connecting with
    | .connecting, some gateway =>
      gateways.doipConnections.all (·.gateway != gateway.logicalAddress)
    | _, _ => true
  | _ => true

end Gateways

theorem handleGatewayConnection_serves {ecus : Ecus} {gateway : DiscoveredGateway}
    {established : Except String Unit} {connection : DoipConnection}
    (connected : handleGatewayConnection ecus gateway established = .ok connection) :
    established = .ok () ∧ connection.Serves ecus gateway.logicalAddress := by
  unfold handleGatewayConnection at connected
  split at connected
  · cases connected
  · split at connected
    · cases connected
    · rename_i ecuIds behind
      split at connected
      · cases connected
      · cases connected
        refine ⟨rfl, rfl, ?_⟩
        intro ecu mem isBehind
        have listed : ecu.logicalAddress ∈
            (ecus.filter (·.logicalGatewayAddress == gateway.logicalAddress)).map
              (·.logicalAddress) := by
          apply List.mem_map_of_mem
          exact List.mem_filter.mpr ⟨mem, by simpa using isBehind⟩
        unfold ecusBehind at behind
        split at behind
        · cases behind
        · cases behind
          simpa [createEcuReceiverMap] using listed

/-- What the listener and the initial discovery keep up between them. -/
structure Gateways.Kept (ecus : Ecus) (gateways : Gateways) : Prop where
  atMostOne : gateways.AtMostOne
  indexed : gateways.Indexed ecus
  /-- Only the newest connection may lack its index. -/
  complete : ∀ connection ∈ gateways.doipConnections,
    (gateways.logicalAddressToConnection connection.gateway).isSome = true ∨
      gateways.unrecorded = some connection.gateway
  unrecorded : ∀ gateway, gateways.unrecorded = some gateway →
    gateways.connecting = none ∧ ∃ connection,
      gateways.doipConnections[gateways.doipConnections.length - 1]? = some connection ∧
        connection.Serves ecus gateway
  connecting : ∀ gateway, gateways.connecting = some gateway →
    gateways.unrecorded = none ∧ (gateways.phase = .connecting ∨ gateways.phase = .listening ∧
        gateways.logicalAddressToConnection gateway.logicalAddress = none)

theorem Gateways.kept_initial (ecus : Ecus) : Gateways.initial.Kept ecus := by
  refine ⟨List.nodup_nil, ?_, ?_, ?_, ?_⟩
  · intro gateway index present
    cases present
  · intro connection mem
    cases mem
  · intro gateway present
    cases present
  · intro gateway present
    cases present

section

variable {ecus : Ecus} {netmask : UInt32} {gateways next : Gateways}

theorem Gateways.Kept.move (kept : gateways.Kept ecus)
    (connections : next.doipConnections = gateways.doipConnections)
    (indices : next.logicalAddressToConnection = gateways.logicalAddressToConnection)
    (unrecorded : next.unrecorded = gateways.unrecorded)
    (connecting : ∀ gateway, next.connecting = some gateway →
      next.unrecorded = none ∧ (next.phase = .connecting ∨ next.phase = .listening ∧
          next.logicalAddressToConnection gateway.logicalAddress = none))
    (stays : gateways.connecting = none → gateways.unrecorded.isSome = true →
      next.connecting = none) : next.Kept ecus := by
  refine ⟨?_, ?_, ?_, ?_, connecting⟩
  · unfold AtMostOne
    rw [connections]
    exact kept.atMostOne
  · intro gateway index present
    rw [indices] at present
    rw [connections]
    exact kept.indexed gateway index present
  · intro connection mem
    rw [connections] at mem
    rw [indices, unrecorded]
    exact kept.complete connection mem
  · intro gateway present
    rw [unrecorded] at present
    obtain ⟨notConnecting, last⟩ := kept.unrecorded gateway present
    refine ⟨stays notConnecting (by rw [present]; rfl), ?_⟩
    rw [connections]
    exact last

theorem Gateways.not_isBusy_iff (gateways : Gateways) :
    gateways.isBusy = false ↔ gateways.connecting = none ∧ gateways.unrecorded = none := by
  simp [isBusy]

section

variable (kept : gateways.Kept ecus)

include kept

theorem Gateways.Kept.sendVariantDetection (logicalAddress : UInt16) :
    (gateways.sendVariantDetection ecus logicalAddress).Kept ecus := by
  unfold Gateways.sendVariantDetection
  split
  · exact ⟨kept.atMostOne, kept.indexed, kept.complete, kept.unrecorded, kept.connecting⟩
  · exact kept

theorem Gateways.Kept.handleDoipResponse (listening : gateways.phase = .listening)
    (free : gateways.isBusy = false) (message : UdpMessage) :
    (gateways.handleDoipResponse ecus netmask message).Kept ecus := by
  obtain ⟨notConnecting, recorded⟩ := gateways.not_isBusy_iff.mp free
  unfold Gateways.handleDoipResponse
  split
  case h_2 => exact kept
  case h_3 => exact kept
  case h_1 gateway _ =>
    split
    case isTrue => exact kept.sendVariantDetection _
    case isFalse absent =>
      refine kept.move rfl rfl rfl ?_ ?_
      · intro other same
        cases same
        refine ⟨recorded, .inr ⟨listening, ?_⟩⟩
        simpa using absent
      · intro _ waiting
        rw [recorded] at waiting
        cases waiting

theorem Gateways.Kept.establish {gateway : DiscoveredGateway} {established : Except String Unit}
    {connection : DoipConnection} (isNext : gateways.connecting = some gateway)
    (connected : handleGatewayConnection ecus gateway established = .ok connection)
    (unrepeated : gateways.unrepeated (.establish established) = true) :
    { gateways with
      connecting := none
      unrecorded := some gateway.logicalAddress
      doipConnections := gateways.doipConnections ++ [connection] }.Kept ecus := by
  obtain ⟨isOk, serves⟩ := handleGatewayConnection_serves connected
  obtain ⟨recorded, phase⟩ := kept.connecting gateway isNext
  have fresh : gateway.logicalAddress ∉ gateways.doipConnections.map (·.gateway) := by
    intro mem
    obtain ⟨other, isThere, same⟩ := List.mem_map.mp mem
    rcases phase with initial | ⟨listening, absent⟩
    · simp only [Gateways.unrepeated, isOk, initial, isNext, List.all_eq_true,
        bne_iff_ne] at unrepeated
      exact unrepeated other isThere same
    · rcases kept.complete other isThere with present | waiting
      · rw [same, absent] at present
        cases present
      · rw [recorded] at waiting
        cases waiting
  refine ⟨?_, ?_, ?_, ?_, ?_⟩
  · simp only [Gateways.AtMostOne, List.map_append, List.map_cons, List.map_nil, serves.1]
    exact List.nodup_append.mpr ⟨kept.atMostOne, by simp, by
      intro address mem other isOther same
      rw [List.mem_singleton] at isOther
      exact fresh (isOther ▸ same ▸ mem)⟩
  · intro other index present
    obtain ⟨found, isThere, foundServes⟩ := kept.indexed other index present
    have inside : index < gateways.doipConnections.length :=
      (List.getElem?_eq_some_iff.mp isThere).1
    refine ⟨found, ?_, foundServes⟩
    change (gateways.doipConnections ++ [connection])[index]? = some found
    rw [List.getElem?_append_left inside]
    exact isThere
  · intro other mem
    rcases List.mem_append.mp mem with before | new
    · rcases kept.complete other before with present | waiting
      · exact .inl present
      · rw [recorded] at waiting
        cases waiting
    · rw [List.mem_singleton.mp new, serves.1]
      exact .inr rfl
  · intro other same
    cases same
    refine ⟨rfl, connection, ?_, serves⟩
    simp
  · intro other same
    cases same

theorem Gateways.Kept.record {logicalAddress : UInt16}
    (waiting : gateways.unrecorded = some logicalAddress) :
    { gateways with
      unrecorded := none
      logicalAddressToConnection := Function.update gateways.logicalAddressToConnection
        logicalAddress (some (gateways.doipConnections.length - 1)) }.Kept ecus := by
  obtain ⟨notConnecting, last, isLast, serves⟩ := kept.unrecorded logicalAddress waiting
  refine ⟨kept.atMostOne, ?_, ?_, ?_, ?_⟩
  · intro gateway index present
    by_cases same : gateway = logicalAddress
    · subst same
      simp only [Function.update_self, Option.some.injEq] at present
      exact ⟨last, present ▸ isLast, serves⟩
    · simp only [Function.update_of_ne same] at present
      exact kept.indexed gateway index present
  · intro connection mem
    left
    by_cases same : connection.gateway = logicalAddress
    · simp [same]
    · simp only [Function.update_of_ne same]
      rcases kept.complete connection mem with present | isWaiting
      · exact present
      · rw [waiting, Option.some.injEq] at isWaiting
        exact absurd isWaiting.symm same
  · intro gateway same
    cases same
  · intro gateway isNext
    rw [notConnecting] at isNext
    cases isNext

theorem Gateways.Kept.discover (message : UdpMessage) :
    (gateways.discover ecus netmask message).Kept ecus := by
  unfold Gateways.discover
  split
  · exact kept
  · split
    · exact ⟨kept.atMostOne, kept.indexed, kept.complete, kept.unrecorded, kept.connecting⟩
    · exact kept
    · exact kept

theorem Gateways.Kept.step {event : DiscoveryEvent} (unrepeated : gateways.unrepeated event = true)
    (taken : gateways.step ecus netmask event = some next) : next.Kept ecus := by
  cases event with
  | receive message =>
    simp only [Gateways.step] at taken
    split at taken
    case h_1 =>
      cases taken
      exact kept.discover message
    case h_2 => cases taken
    case h_3 listening =>
      split at taken
      case isTrue => cases taken
      case isFalse free =>
        split at taken
        · cases taken
          exact kept.handleDoipResponse listening (by simpa using free) message
        · cases taken
          exact kept
  | discovered =>
    simp only [Gateways.step] at taken
    split at taken
    case isTrue phase =>
      cases taken
      refine kept.move rfl rfl rfl ?_ ?_
      · intro gateway isNext
        exact ⟨(kept.connecting gateway isNext).1, .inl rfl⟩
      · intro notConnecting _
        exact notConnecting
    case isFalse => cases taken
  | connect =>
    simp only [Gateways.step] at taken
    split at taken
    case h_1 gateway rest phase _ =>
      split at taken
      case isTrue => cases taken
      case isFalse free =>
        obtain ⟨notConnecting, recorded⟩ := gateways.not_isBusy_iff.mp (by simpa using free)
        cases taken
        refine kept.move rfl rfl rfl ?_ ?_
        · intro other _
          exact ⟨recorded, .inl phase⟩
        · intro _ waiting
          rw [recorded] at waiting
          cases waiting
    case h_2 => cases taken
  | establish established =>
    simp only [Gateways.step] at taken
    split at taken
    case h_1 gateway isNext =>
      split at taken
      case h_1 connection connected =>
        cases taken
        exact kept.establish isNext connected unrepeated
      case h_2 =>
        cases taken
        refine kept.move rfl rfl rfl ?_ ?_
        · intro other same
          cases same
        · intro _ _
          rfl
    case h_2 => cases taken
  | record =>
    simp only [Gateways.step] at taken
    split at taken
    case h_1 logicalAddress waiting =>
      split at taken
      · cases taken
        exact (kept.record waiting).sendVariantDetection _
      · cases taken
        exact kept.record waiting
    case h_2 => cases taken
  | listen =>
    simp only [Gateways.step] at taken
    split at taken
    case isTrue ready =>
      obtain ⟨notConnecting, recorded⟩ := gateways.not_isBusy_iff.mp ready.2.2
      cases taken
      refine kept.move rfl rfl rfl ?_ ?_
      · intro gateway isNext
        rw [show gateways.connecting = some gateway from isNext] at notConnecting
        cases notConnecting
      · intro stays _
        exact stays
    case isFalse => cases taken

end

end

def UnrepeatedStep (ecus : Ecus) (netmask : UInt32) (gateways : Gateways)
    (event : DiscoveryEvent) (next : Gateways) : Prop :=
  gateways.step ecus netmask event = some next ∧ gateways.unrepeated event = true

theorem Gateways.kept_of_run {ecus : Ecus} {netmask : UInt32} {events : List DiscoveryEvent}
    {gateways : Gateways} (run : Run (UnrepeatedStep ecus netmask) .initial events gateways) :
    gateways.Kept ecus := by
  apply Run.keeps (fun _ gateways => gateways.Kept ecus) (kept_initial ecus) _ run
  intro _ event gateways next kept ⟨taken, unrepeated⟩
  exact kept.step unrepeated taken

/-- Wherever no new connection waits for its index, and up to the index itself everywhere
else. -/
theorem Gateways.oneConnectionPerGateway_of_run {ecus : Ecus} {netmask : UInt32}
    {events : List DiscoveryEvent} {gateways : Gateways}
    (run : Run (UnrepeatedStep ecus netmask) .initial events gateways) :
    (gateways.AtMostOne ∧ gateways.Indexed ecus) ∧
      (gateways.unrecorded = none → gateways.OneConnectionPerGateway ecus) := by
  have kept := kept_of_run run
  refine ⟨⟨kept.atMostOne, kept.indexed⟩, ?_⟩
  intro recorded
  refine ⟨kept.atMostOne, kept.indexed, ?_⟩
  intro connection mem
  rcases kept.complete connection mem with present | waiting
  · exact present
  · rw [recorded] at waiting
    cases waiting

def twoGateways : Ecus :=
  [⟨"gateway", 0x1000, 0x1000⟩, ⟨"engine", 0x1001, 0x1000⟩, ⟨"body", 0x2000, 0x2000⟩]

def announcement (logicalAddress : UInt16) : DiscoveryEvent :=
  .receive ⟨.vehicleAnnouncement logicalAddress, 2, .v4 0x0A000001⟩

/-- The second gateway fails at first; the listener hears both of them again. -/
def announcedAgain : List DiscoveryEvent :=
  [announcement 0x1000, announcement 0x2000, .discovered,
    .connect, .establish (.ok ()), .record, .connect, .establish (.error "refused"), .listen,
    announcement 0x1000, announcement 0x2000, .establish (.ok ()), .record, announcement 0x2000]

theorem oneConnectionPerGateway_announcedAgain :
    ∃ gateways : Gateways, Run (UnrepeatedStep twoGateways 0) .initial announcedAgain gateways ∧
      gateways.doipConnections.map (·.ecus) = [[0x1000, 0x1001], [0x2000]] ∧
      gateways.logicalAddressToConnection 0x2000 = some 1 ∧
      gateways.OneConnectionPerGateway twoGateways := by
  have run : ∃ gateways : Gateways,
      Run (UnrepeatedStep twoGateways 0) .initial announcedAgain gateways ∧
      gateways.doipConnections.map (·.ecus) = [[0x1000, 0x1001], [0x2000]] ∧
      gateways.logicalAddressToConnection 0x2000 = some 1 ∧ gateways.unrecorded = none :=
    ⟨_, Run.of_guarded_foldlM rfl, rfl, rfl, rfl⟩
  obtain ⟨gateways, unrepeated, channels, index, recorded⟩ := run
  exact ⟨gateways, unrepeated, channels, index,
    (Gateways.oneConnectionPerGateway_of_run unrepeated).2 recorded⟩

def announcedTwice : List DiscoveryEvent :=
  [announcement 0x1000, announcement 0x1000, .discovered,
    .connect, .establish (.ok ()), .record, .connect, .establish (.ok ()), .record]

/-- The listener's connection, before its index is written. -/
def connectedByListener : List DiscoveryEvent :=
  [.discovered, .listen, announcement 0x1000, .establish (.ok ())]

/-- A gateway found twice gets two connections; and between a connection and its index the
index is missing. -/
theorem gateway_connected_twice : (¬ ∀ ecus netmask events gateways, Run (fun gateways event next =>
        Gateways.step ecus netmask gateways event = some next) .initial events gateways →
      gateways.OneConnectionPerGateway ecus) ∧
    ¬ ∀ ecus netmask events gateways, Run (UnrepeatedStep ecus netmask) .initial events gateways →
      gateways.OneConnectionPerGateway ecus := by
  constructor
  · intro oneConnection
    have run : ∃ gateways : Gateways, Run (fun gateways event next =>
          Gateways.step twoGateways 0 gateways event = some next)
          .initial announcedTwice gateways ∧
        gateways.doipConnections.map (·.gateway) = [0x1000, 0x1000] :=
      ⟨_, Run.of_foldlM rfl, rfl⟩
    obtain ⟨gateways, run, connections⟩ := run
    have atMostOne := (oneConnection _ _ _ gateways run).atMostOne
    unfold Gateways.AtMostOne at atMostOne
    rw [connections] at atMostOne
    exact absurd atMostOne (by decide)
  · intro oneUnrepeated
    have run : ∃ gateways : Gateways,
        Run (UnrepeatedStep twoGateways 0) .initial connectedByListener gateways ∧
        gateways.doipConnections = [⟨[0x1000, 0x1001], 0x0A000001, 0x1000⟩] ∧
        gateways.logicalAddressToConnection 0x1000 = none :=
      ⟨_, Run.of_guarded_foldlM rfl, rfl, rfl⟩
    obtain ⟨gateways, unrepeated, connections, absent⟩ := run
    have complete := (oneUnrepeated _ _ _ gateways unrepeated).complete
    rw [Gateways.Complete, connections] at complete
    have indexed := complete _ List.mem_cons_self
    rw [absent] at indexed
    cases indexed

end DiagnosticAdapter.Doip
