import DiagnosticAdapter.Detection.EcuState
import DiagnosticAdapter.Doip.Functional
import Mathlib.Data.List.AList

/-!
# Functional groups

`send_functional_group`: the ECUs of a group are put together by gateway, each gateway is
sent one request, and what comes back is put into one map by name.
-/

namespace DiagnosticAdapter.Uds.FunctionalGroup

open Detection (EcuState)
open Doip.Functional

universe u

/-- What is read of an ECU; its key in the map of all ECUs is its name in lower case. -/
structure Ecu where
  ecuName : String
  key : String
  isPhysicalEcu : Bool
  functionalGroups : List String
  ecuStatus : EcuState
  testerAddress : UInt16
  logicalGatewayAddress : UInt16
  logicalAddress : UInt16
  logicalFunctionalAddress : UInt16
  deriving DecidableEq, Repr

namespace Ecu

def isGateway (ecu : Ecu) : Bool := ecu.logicalGatewayAddress == ecu.logicalAddress

/-- Where the ECU is found: the gateway, and the address behind it. -/
def location (ecu : Ecu) : UInt16 × UInt16 := (ecu.logicalGatewayAddress, ecu.logicalAddress)

def transmissionParameters (ecu : Ecu) : TransmissionParameters :=
  ⟨ecu.logicalGatewayAddress, ecu.ecuName⟩

end Ecu

/-- The ECUs are in the order in which the map yields them. -/
structure UdsManager where
  toLowercase : String → String
  ecus : List Ecu
  keys : ∀ ecu ∈ ecus, ecu.key = toLowercase ecu.ecuName
  distinct : (ecus.map Ecu.key).Nodup
  functionalDescriptionDatabase : String

structure PerGatewayInfo where
  transmissionParams : TransmissionParameters
  sourceAddress : UInt16
  functionalAddress : UInt16
  ecus : AList fun _ : UInt16 => String

def Ecu.perGatewayInfo (ecu : Ecu) : PerGatewayInfo where
  transmissionParams := ecu.transmissionParameters
  sourceAddress := ecu.testerAddress
  functionalAddress := ecu.logicalFunctionalAddress
  ecus := AList.singleton ecu.logicalAddress ecu.key

/-- A converted response, with the gateway and the address it came from. -/
structure Reply (Converted : Type u) where
  response : Converted
  gatewayAddress : UInt16
  address : UInt16
  deriving DecidableEq, Repr

abbrev Replies (Converted : Type u) := String → Option (Except DiagServiceError (Reply Converted))

structure GatewayRun where
  state : DoipGatewayState
  sendWithRetries : Doip.DiagnosticMessage → Except DiagServiceError Unit
  completionOrder : List Waiting → List Waiting
  permutes : ∀ waiting, (completionOrder waiting).Perm waiting

/-- What happens at the gateways, and the order in which they are done. -/
structure GroupRun where
  gateways : UInt16 → GatewayRun
  finishOrder : List PerGatewayInfo → List PerGatewayInfo
  permutes : ∀ infos, (finishOrder infos).Perm infos

structure Outcome (Converted : Type u) where
  requests : List PerGatewayInfo
  replies : Replies Converted

def sprmibCapable : List UInt8 :=
  [0x10, 0x11, 0x19, 0x28, 0x27, 0x29, 0x2C, 0x31, 0x85, 0x86, 0x87, 0x3E]

def isSuppressPositiveResponse (payload : ServicePayload) : Bool :=
  match payload.data with
  | [] => false
  | [_] => false
  | sid :: subfunction :: _ => sprmibCapable.contains sid && subfunction &&& 0x80 != 0

def ecusForFunctionalGroup (manager : UdsManager) (functionalGroup : String)
    (gatewayOnly : Bool) : List Ecu :=
  manager.ecus.filter fun ecu =>
    !(gatewayOnly && !ecu.isGateway) && ecu.isPhysicalEcu &&
      ecu.functionalGroups.contains functionalGroup

/-- The maps that are filled while the ECUs of the group are gone through. -/
structure Grouping (Converted : Type u) where
  ecusByGateway : AList fun _ : UInt16 => PerGatewayInfo
  ecuInfosByGateway : AList fun _ : UInt16 => AList fun _ : UInt16 => String
  resultMap : Replies Converted

namespace Grouping

variable {Converted : Type u}

def empty : Grouping Converted := ⟨∅, ∅, fun _ => none⟩

def addGateway (grouping : Grouping Converted) (ecu : Ecu) : Grouping Converted :=
  { grouping with
    ecusByGateway := grouping.ecusByGateway.insert ecu.logicalGatewayAddress ecu.perGatewayInfo
    resultMap :=
      if (grouping.ecusByGateway.lookup ecu.logicalGatewayAddress).isSome then
        Function.update grouping.resultMap ecu.key
          (some (.error (.resourceError (s!"ECU {ecu.key} is online, but another ECU with " ++
            "the same logical address exists and is online."))))
      else grouping.resultMap }

def addBehind (grouping : Grouping Converted) (ecu : Ecu) : Grouping Converted :=
  let infos := (grouping.ecuInfosByGateway.lookup ecu.logicalGatewayAddress).getD ∅
  { grouping with
    ecuInfosByGateway := grouping.ecuInfosByGateway.insert ecu.logicalGatewayAddress
      (infos.insert ecu.logicalAddress ecu.key) }

def addEcu (grouping : Grouping Converted) (ecu : Ecu) : Grouping Converted :=
  if !ecu.isPhysicalEcu then grouping
  else if !ecu.ecuStatus.isOnlineAndDetected then grouping
  else if ecu.isGateway then grouping.addGateway ecu
  else grouping.addBehind ecu

def group (ecuList : List Ecu) : Grouping Converted := ecuList.foldl addEcu empty

/-- Every gateway with the ECUs behind it; those whose gateway is not there are dropped. -/
def gateways (grouping : Grouping Converted) : List PerGatewayInfo :=
  grouping.ecusByGateway.entries.map fun ⟨gatewayAddress, info⟩ =>
    match grouping.ecuInfosByGateway.lookup gatewayAddress with
    | some ecuInfoList => { info with ecus := ecuInfoList ∪ info.ecus }
    | none => info

end Grouping

section

variable {Converted : Type u}

/-- `expected` in the order of the map, which does not matter. -/
def PerGatewayInfo.expectedEcus (info : PerGatewayInfo) : List (UInt16 × String) :=
  info.ecus.entries.map fun ⟨address, name⟩ => (address, name)

def sendFunctionalToGateway (manager : UdsManager) (run : GatewayRun) (info : PerGatewayInfo)
    (payload : ServicePayload)
    (convertFromUds : ServicePayload → Except DiagServiceError Converted) : Replies Converted :=
  let expectPositiveResponse := !isSuppressPositiveResponse payload
  match sendFunctional manager.toLowercase run.state info.transmissionParams payload
      info.expectedEcus run.sendWithRetries expectPositiveResponse run.completionOrder with
  | .ok udsResponses => fun ecuName =>
    match udsResponses ecuName with
    | some (.ok message) =>
      some ((convertFromUds message.payload).map
        (⟨·, info.transmissionParams.gatewayAddress, message.address⟩))
    | some (.error e) => some (.error e)
    | none => none
  | .error e => fun ecuName =>
    if ecuName ∈ info.expectedEcus.map Prod.snd then some (.error e) else none

def Replies.extend (replies others : Replies Converted) : Replies Converted :=
  fun ecuName => (others ecuName).or (replies ecuName)

/-- `created` is what `create_uds_payload` of the description database returns. -/
def sendFunctionalGroup (manager : UdsManager) (functionalGroup : String)
    (created : Except DiagServiceError ServicePayload)
    (convertFromUds : ServicePayload → Except DiagServiceError Converted) (run : GroupRun) :
    Outcome Converted :=
  let ecuList := ecusForFunctionalGroup manager functionalGroup false
  if ecuList.isEmpty then ⟨[], fun _ => none⟩
  else
    match manager.ecus.find? (·.key == manager.functionalDescriptionDatabase) with
    | none => ⟨[], fun _ => none⟩
    | some _ =>
      match created with
      | .error e =>
        ⟨[], fun ecuName => if ecuName ∈ ecuList.map Ecu.key then some (.error e) else none⟩
      | .ok servicePayload =>
        let grouping : Grouping Converted := .group ecuList
        let infos := run.finishOrder grouping.gateways
        let replies := infos.foldl (fun replies info =>
          replies.extend (sendFunctionalToGateway manager
            (run.gateways info.transmissionParams.gatewayAddress) info
            { servicePayload with
              sourceAddress := info.sourceAddress
              targetAddress := info.functionalAddress }
            convertFromUds)) grouping.resultMap
        ⟨infos, replies⟩

end

end DiagnosticAdapter.Uds.FunctionalGroup
