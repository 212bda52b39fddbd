import DiagnosticAdapter.Effects.Run

/-!
# Gateways and their connections

Vehicle announcements during the initial discovery and for the listener, and the two
collections they fill: the connections, in the order in which they were established, and
the indices by logical address.
-/

namespace DiagnosticAdapter.Doip

structure EcuAddresses where
  name : String
  logicalAddress : UInt16
  logicalGatewayAddress : UInt16
  deriving DecidableEq, Repr

abbrev Ecus := List EcuAddresses

inductive SocketAddress where
  | v4 (bits : UInt32)
  | v6
  deriving DecidableEq, Repr

inductive UdpPayload where
  | vehicleIdentificationRequest
  | vehicleAnnouncement (logicalAddress : UInt16)
  | other
  deriving DecidableEq, Repr

structure UdpMessage where
  payload : UdpPayload
  protocolVersion : UInt8
  source : SocketAddress
  deriving DecidableEq, Repr

structure DiscoveredGateway where
  ip : UInt32
  ecuName : String
  logicalAddress : UInt16
  doipProtocolVersion : UInt8
  deriving DecidableEq, Repr

inductive GatewaySetupError where
  | unknownEcu (logicalAddress : UInt16) (protocolVersion : UInt8)
  | resourceError (message : String)
  deriving DecidableEq, Repr

def handleVam (ecus : Ecus) (netmask : UInt32) (message : UdpMessage) :
    Except GatewaySetupError (Option DiscoveredGateway) :=
  match message.source with
  | .v6 => .ok none
  | .v4 bits =>
    if bits &&& netmask ≠ netmask then .ok none
    else
      match message.payload with
      | .vehicleAnnouncement logicalAddress =>
        match ecus.find? (·.logicalAddress == logicalAddress) with
        | some ecu => .ok (some ⟨bits, ecu.name, logicalAddress, message.protocolVersion⟩)
        | none => .error (.unknownEcu logicalAddress message.protocolVersion)
      | _ => .error (.resourceError "Expected VAM")

structure DoipConnection where
  /-- The ECUs that have a channel. -/
  ecus : List UInt16
  ip : UInt32
  gateway : UInt16
  deriving DecidableEq, Repr

def ecusBehind (ecus : Ecus) (gateway : UInt16) : Option (List UInt16) :=
  match (ecus.filter (·.logicalGatewayAddress == gateway)).map (·.logicalAddress) with
  | [] => none
  | addresses => some addresses

def ecuNamesBehind (ecus : Ecus) (gateway : UInt16) : Option (List String) :=
  match (ecus.filter (·.logicalGatewayAddress == gateway)).map (·.name.toLower) with
  | [] => none
  | names => some names

def createEcuReceiverMap (ecus receivers : List UInt16) : List UInt16 :=
  ecus.filter receivers.contains

/-- `handle_gateway_connection`; `established` is the outcome of `connection_handler`,
which creates a receiver for every ECU it is given. -/
def handleGatewayConnection (ecus : Ecus) (gateway : DiscoveredGateway)
    (established : Except String Unit) : Except String DoipConnection :=
  if !(ecus.any (·.name == gateway.ecuName)) then
    .error "Resource not found: `ECU not found`"
  else
    match ecusBehind ecus gateway.logicalAddress with
    | none =>
      .error (s!"No ECUs found for gateway address {gateway.logicalAddress}. " ++
        "Skipping, as the gateway cannot be used.")
    | some ecuIds =>
      match established with
      | .error e => .error s!"Failed to connect to {gateway.ecuName}: {e}"
      | .ok () => .ok ⟨createEcuReceiverMap ecuIds ecuIds, gateway.ip, gateway.logicalAddress⟩

inductive DiscoveryPhase where
  /-- `get_vehicle_identification` collects gateways. -/
  | discovering
  /-- `new` connects to them, one after the other. -/
  | connecting
  /-- The listener works off announcements, one after the other. -/
  | listening
  deriving DecidableEq, Repr

inductive DiscoveryEvent where
  | receive (message : UdpMessage)
  | discovered
  | connect
  | establish (established : Except String Unit)
  /-- The map of indices gets its entry. -/
  | record
  | listen

structure Gateways where
  phase : DiscoveryPhase
  /-- Found in the initial discovery and not tried yet. -/
  found : List DiscoveredGateway
  connecting : Option DiscoveredGateway
  /-- Connected, without an entry in the map yet. -/
  unrecorded : Option UInt16
  doipConnections : List DoipConnection
  logicalAddressToConnection : UInt16 → Option Nat
  variantDetections : List (List String)

namespace Gateways

def initial : Gateways where
  phase := .discovering
  found := []
  connecting := none
  unrecorded := none
  doipConnections := []
  logicalAddressToConnection := fun _ => none
  variantDetections := []

def sendVariantDetection (ecus : Ecus) (logicalAddress : UInt16) (gateways : Gateways) :
    Gateways :=
  match ecuNamesBehind ecus logicalAddress with
  | some names => { gateways with variantDetections := gateways.variantDetections ++ [names] }
  | none => gateways

def discover (ecus : Ecus) (netmask : UInt32) (message : UdpMessage) (gateways : Gateways) :
    Gateways :=
  match message.payload with
  | .vehicleIdentificationRequest => gateways
  | _ =>
    match handleVam ecus netmask message with
    | .ok (some gateway) => { gateways with found := gateways.found ++ [gateway] }
    | .ok none | .error _ => gateways

/-- `handle_doip_response` up to the connection attempt. -/
def handleDoipResponse (ecus : Ecus) (netmask : UInt32) (message : UdpMessage)
    (gateways : Gateways) : Gateways :=
  match handleVam ecus netmask message with
  | .ok (some gateway) =>
    if (gateways.logicalAddressToConnection gateway.logicalAddress).isSome then
      gateways.sendVariantDetection ecus gateway.logicalAddress
    else
      { gateways with connecting := some gateway }
  | .ok none | .error _ => gateways

def isBusy (gateways : Gateways) : Bool :=
  gateways.connecting.isSome || gateways.unrecorded.isSome

def step (ecus : Ecus) (netmask : UInt32) (gateways : Gateways) : DiscoveryEvent → Option Gateways
  | .receive message =>
    match gateways.phase with
    | .discovering => some (gateways.discover ecus netmask message)
    | .connecting => none
    | .listening =>
      if gateways.isBusy then none
      else
        match message.payload with
        | .vehicleAnnouncement _ => some (gateways.handleDoipResponse ecus netmask message)
        | _ => some gateways
  | .discovered =>
    if gateways.phase = .discovering then some { gateways with phase := .connecting } else none
  | .connect =>
    match gateways.phase, gateways.found with
    | .connecting, gateway :: rest =>
      -- without a look at the connections there are
      if gateways.isBusy then none
      else some { gateways with found := rest, connecting := some gateway }
    | _, _ => none
  | .establish established =>
    match gateways.connecting with
    | some gateway =>
      match handleGatewayConnection ecus gateway established with
      | .ok connection =>
        some { gateways with
          connecting := none
          unrecorded := some gateway.logicalAddress
          doipConnections := gateways.doipConnections ++ [connection] }
      | .error _ => some { gateways with connecting := none }
    | none => none
  | .record =>
    match gateways.unrecorded with
    | some logicalAddress =>
      let recorded := { gateways with
        unrecorded := none
        logicalAddressToConnection := Function.update gateways.logicalAddressToConnection
          logicalAddress (some (gateways.doipConnections.length - 1)) }
      match gateways.phase with
      | .listening => some (recorded.sendVariantDetection ecus logicalAddress)
      | _ => some recorded
    | none => none
  | .listen =>
    if gateways.phase = .connecting ∧ gateways.found = [] ∧ gateways.isBusy = false then
      some { gateways with phase := .listening }
    else
      none

end Gateways

end DiagnosticAdapter.Doip
