import DiagnosticAdapter.Doip.FunctionalAttribution
import DiagnosticAdapter.Uds.FunctionalGroup

/-!
# Completeness of functional-group results

The maps by gateway and by address keep one ECU for each location, and the ECUs of a
gateway that does not take part are dropped.
-/

namespace DiagnosticAdapter.Uds.FunctionalGroup

open Detection (EcuState)
open Doip.Functional

universe u

variable {Converted : Type u}

/-- The physical ECUs of the group that are online and detected, as they are listed. -/
def members (manager : UdsManager) (functionalGroup : String) : List Ecu :=
  manager.ecus.filter fun ecu =>
    ecu.isPhysicalEcu && ecu.functionalGroups.contains functionalGroup &&
      ecu.ecuStatus.isOnlineAndDetected

def placed (ecus : List Ecu) (location : UInt16 × UInt16) : List Ecu :=
  ecus.filter (·.location == location)

structure Complete (ecus : List Ecu) (outcome : Outcome Converted) : Prop where
  entry : ∀ ecu ∈ ecus, ∃ result, outcome.replies ecu.key = some result ∧
    ∀ reply, result = .ok reply → (reply.gatewayAddress, reply.address) = ecu.location
  only : ∀ ecuName, outcome.replies ecuName ≠ none → ∃ ecu ∈ ecus, ecu.key = ecuName
  shared : ∀ gatewayAddress first others,
    placed ecus (gatewayAddress, gatewayAddress) = first :: others → others ≠ [] →
      (∃ info ∈ outcome.requests, info.transmissionParams = first.transmissionParameters ∧
        info.sourceAddress = first.testerAddress ∧
        info.functionalAddress = first.logicalFunctionalAddress) ∧
      ∀ other ∈ others, ∃ message,
        outcome.replies other.key = some (.error (.resourceError message))

/-- No two ECUs at one location, and each behind a gateway that takes part. -/
structure WellPlaced (ecus : List Ecu) : Prop where
  locations : (ecus.map Ecu.location).Nodup
  gateways : ∀ ecu ∈ ecus, placed ecus (ecu.logicalGatewayAddress, ecu.logicalGatewayAddress) ≠ []

section Placed

variable {ecus : List Ecu} {ecu : Ecu} {location : UInt16 × UInt16}

theorem mem_placed : ecu ∈ placed ecus location ↔ ecu ∈ ecus ∧ ecu.location = location := by
  simp [placed]

theorem placed_concat (ecus : List Ecu) (ecu : Ecu) (location : UInt16 × UInt16) :
    placed (ecus ++ [ecu]) location =
      if ecu.location = location then placed ecus location ++ [ecu] else placed ecus location := by
  rw [placed, List.filter_append]
  split <;> simp [placed, *]

theorem locations_nodup_iff :
    (ecus.map Ecu.location).Nodup ↔ ∀ location, (placed ecus location).length ≤ 1 := by
  rw [List.nodup_iff_count_le_one]
  refine forall_congr' fun location => ?_
  rw [List.count, List.countP_map, List.countP_eq_length_filter]
  rfl

theorem placed_location (nodup : (ecus.map Ecu.location).Nodup) (mem : ecu ∈ ecus) :
    placed ecus ecu.location = [ecu] := by
  have single := locations_nodup_iff.mp nodup ecu.location
  have found : ecu ∈ placed ecus ecu.location := mem_placed.mpr ⟨mem, rfl⟩
  match kept : placed ecus ecu.location, single, found with
  | [other], _, found => rw [List.mem_singleton.mp found]

theorem tail_placed (nodup : (ecus.map Ecu.location).Nodup) (location : UInt16 × UInt16) :
    (placed ecus location).tail = [] := by
  have single := locations_nodup_iff.mp nodup location
  match placed ecus location, single with
  | [], _ => rfl
  | [_], _ => rfl

end Placed

namespace Grouping

variable {ecus : List Ecu}

theorem group_concat (ecus : List Ecu) (ecu : Ecu) :
    (group (ecus ++ [ecu]) : Grouping Converted) = (group ecus).addEcu ecu :=
  List.foldl_concat ..

theorem group_filter (ecus : List Ecu) : (group ecus : Grouping Converted) =
      group (ecus.filter fun ecu => ecu.isPhysicalEcu && ecu.ecuStatus.isOnlineAndDetected) := by
  induction ecus using List.reverseRecOn with
  | nil => rfl
  | append_singleton ecus ecu ih =>
    rw [group_concat, List.filter_append, ih]
    cases physical : ecu.isPhysicalEcu <;>
      cases detected : ecu.ecuStatus.isOnlineAndDetected <;>
      simp [addEcu, physical, detected, group_concat]

def AllActive (ecus : List Ecu) : Prop :=
  ∀ ecu ∈ ecus, ecu.isPhysicalEcu = true ∧ ecu.ecuStatus.isOnlineAndDetected = true

theorem AllActive.concat {ecu : Ecu} (active : AllActive (ecus ++ [ecu])) :
    AllActive ecus ∧ (group (ecus ++ [ecu]) : Grouping Converted) =
      if ecu.isGateway then (group ecus).addGateway ecu else (group ecus).addBehind ecu := by
  constructor
  · intro other mem
    exact active other (List.mem_append_left _ mem)
  · obtain ⟨physical, detected⟩ := active ecu (by simp)
    simp [group_concat, addEcu, physical, detected]

theorem isGateway_iff {ecu : Ecu} : ecu.isGateway = true ↔
      ecu.location = (ecu.logicalGatewayAddress, ecu.logicalGatewayAddress) := by
  simp only [Ecu.isGateway, Ecu.location, beq_iff_eq, Prod.mk.injEq, true_and]
  exact eq_comm

section

variable (active : AllActive ecus)

include active

theorem lookup_ecusByGateway (gatewayAddress : UInt16) :
    (group ecus : Grouping Converted).ecusByGateway.lookup gatewayAddress =
      (placed ecus (gatewayAddress, gatewayAddress)).getLast?.map Ecu.perGatewayInfo := by
  induction ecus using List.reverseRecOn with
  | nil => rfl
  | append_singleton ecus ecu ih =>
    obtain ⟨before, step⟩ := active.concat
    rw [step, placed_concat]
    by_cases gateway : ecu.isGateway = true
    · rw [if_pos gateway, isGateway_iff.mp gateway]
      by_cases same : ecu.logicalGatewayAddress = gatewayAddress
      · subst same
        simp [addGateway]
      · rw [if_neg (by simpa using same), ← ih before]
        exact AList.lookup_insert_ne (Ne.symm same)
    · rw [if_neg gateway, if_neg, ← ih before]
      · rfl
      · intro here
        exact gateway (by simp_all [Ecu.isGateway, Ecu.location])

theorem lookup_ecuInfosByGateway (gatewayAddress address : UInt16) :
    (((group ecus : Grouping Converted).ecuInfosByGateway.lookup gatewayAddress).getD ∅).lookup
        address =
      if address = gatewayAddress then none
      else (placed ecus (gatewayAddress, address)).getLast?.map Ecu.key := by
  induction ecus using List.reverseRecOn with
  | nil => simp [group, empty, placed]
  | append_singleton ecus ecu ih =>
    obtain ⟨before, step⟩ := active.concat
    rw [step, placed_concat]
    by_cases gateway : ecu.isGateway = true
    · rw [if_pos gateway, isGateway_iff.mp gateway]
      refine (ih before).trans ?_
      by_cases same : address = gatewayAddress
      · rw [if_pos same, if_pos same]
      · rw [if_neg same, if_neg same, if_neg]
        intro here
        obtain ⟨mine, other⟩ := Prod.mk.inj here
        exact same (other.symm.trans mine)
    · rw [if_neg gateway]
      by_cases mine : ecu.logicalGatewayAddress = gatewayAddress
      · subst mine
        by_cases here : ecu.logicalAddress = address
        · subst here
          have behind : ¬ecu.logicalAddress = ecu.logicalGatewayAddress := fun same =>
            gateway (beq_iff_eq.mpr same.symm)
          simp [addBehind, Ecu.location, behind]
        · simp only [addBehind, AList.lookup_insert, Option.getD_some,
            AList.lookup_insert_ne (Ne.symm here), ih before]
          simp [Ecu.location, here]
      · simp only [addBehind, AList.lookup_insert_ne (Ne.symm mine), ih before]
        simp [Ecu.location, mine]

theorem exists_placed_of_resultMap {ecuName : String}
    (entry : (group ecus : Grouping Converted).resultMap ecuName ≠ none) :
    ∃ gatewayAddress, ∃ ecu ∈ (placed ecus (gatewayAddress, gatewayAddress)).tail,
      ecu.key = ecuName := by
  induction ecus using List.reverseRecOn with
  | nil => exact absurd rfl entry
  | append_singleton ecus ecu ih =>
    obtain ⟨before, step⟩ := active.concat
    have earlier : (group ecus : Grouping Converted).resultMap ecuName ≠ none →
        ∃ gatewayAddress, ∃ other ∈ (placed (ecus ++ [ecu])
          (gatewayAddress, gatewayAddress)).tail, other.key = ecuName := by
      intro entry
      obtain ⟨gatewayAddress, other, mem, named⟩ := ih before entry
      refine ⟨gatewayAddress, other, ?_, named⟩
      rw [placed_concat]
      split
      · rw [List.tail_append_of_ne_nil (by rintro none; simp [none] at mem)]
        exact List.mem_append_left _ mem
      · exact mem
    rw [step] at entry
    by_cases gateway : ecu.isGateway = true
    · rw [if_pos gateway, addGateway] at entry
      dsimp only at entry
      split at entry
      case isTrue replaced =>
        by_cases named : ecuName = ecu.key
        · refine ⟨ecu.logicalGatewayAddress, ecu, ?_, named.symm⟩
          rw [lookup_ecusByGateway before] at replaced
          rw [placed_concat, if_pos (isGateway_iff.mp gateway), List.tail_append_of_ne_nil
            (by rintro none; simp [none] at replaced)]
          simp
        · rw [Function.update_of_ne named] at entry
          exact earlier entry
      case isFalse => exact earlier entry
    · rw [if_neg gateway] at entry
      exact earlier entry

theorem resultMap_eq_none (nodup : (ecus.map Ecu.location).Nodup) (ecuName : String) :
    (group ecus : Grouping Converted).resultMap ecuName = none := by
  by_contra extra
  obtain ⟨gatewayAddress, other, behind, -⟩ := exists_placed_of_resultMap active extra
  rw [tail_placed nodup] at behind
  cases behind

end

theorem lookup_union (infos others : AList fun _ : UInt16 => String) (address : UInt16) :
    (infos ∪ others).lookup address = (infos.lookup address).or (others.lookup address) := by
  by_cases known : address ∈ infos
  · obtain ⟨name, found⟩ := Option.isSome_iff_exists.mp (AList.lookup_isSome.mpr known)
    rw [AList.lookup_union_left known, found, Option.some_or]
  · rw [AList.lookup_union_right known, AList.lookup_eq_none.mpr known, Option.none_or]

theorem lookup_singleton (address other : UInt16) (name : String) :
    (AList.singleton address name : AList fun _ : UInt16 => String).lookup other =
      if other = address then some name else none := by
  rw [← AList.insert_empty]
  split
  case isTrue same => rw [same, AList.lookup_insert]
  case isFalse ne => rw [AList.lookup_insert_ne ne, AList.lookup_empty]

/-- A gateway is sent the parameters of the last ECU at its address, for the last ECU at every
address behind it. -/
structure Serves (ecus : List Ecu) (gateway : Ecu) (info : PerGatewayInfo) : Prop where
  last : (placed ecus (gateway.logicalGatewayAddress, gateway.logicalGatewayAddress)).getLast? =
    some gateway
  transmissionParams : info.transmissionParams = gateway.transmissionParameters
  lookup : ∀ address, info.ecus.lookup address =
    (placed ecus (gateway.logicalGatewayAddress, address)).getLast?.map Ecu.key

theorem mem_gateways {gatewayAddress : UInt16} {info : PerGatewayInfo}
    {grouping : Grouping Converted}
    (found : grouping.ecusByGateway.lookup gatewayAddress = some info) :
    { info with
      ecus := (grouping.ecuInfosByGateway.lookup gatewayAddress).getD ∅ ∪ info.ecus } ∈
        grouping.gateways := by
  refine List.mem_map.mpr ⟨⟨gatewayAddress, info⟩, AList.mem_lookup_iff.mp found, ?_⟩
  dsimp only
  split
  case h_1 infos behind => rw [behind, Option.getD_some]
  case h_2 behind => rw [behind, Option.getD_none, AList.empty_union]

theorem exists_of_mem_gateways {info : PerGatewayInfo} {grouping : Grouping Converted}
    (mem : info ∈ grouping.gateways) :
    ∃ gatewayAddress alone, grouping.ecusByGateway.lookup gatewayAddress = some alone ∧
      info = { alone with
        ecus := (grouping.ecuInfosByGateway.lookup gatewayAddress).getD ∅ ∪ alone.ecus } := by
  obtain ⟨⟨gatewayAddress, alone⟩, entry, rfl⟩ := List.mem_map.mp mem
  refine ⟨gatewayAddress, alone, AList.mem_lookup_iff.mpr entry, ?_⟩
  dsimp only
  split
  case h_1 infos behind => rw [behind, Option.getD_some]
  case h_2 behind => rw [behind, Option.getD_none, AList.empty_union]

section

variable (active : AllActive ecus)

include active

theorem serves_of_last {gateway : Ecu}
    (last : (placed ecus (gateway.logicalGatewayAddress, gateway.logicalGatewayAddress)).getLast? =
      some gateway) :
    Serves ecus gateway { gateway.perGatewayInfo with
      ecus := (((group ecus : Grouping Converted).ecuInfosByGateway.lookup
        gateway.logicalGatewayAddress).getD ∅) ∪ gateway.perGatewayInfo.ecus } where
  last := last
  transmissionParams := rfl
  lookup address := by
    have itself := (mem_placed.mp (List.mem_of_getLast? last)).2
    have same : gateway.logicalAddress = gateway.logicalGatewayAddress := (Prod.mk.inj itself).2
    rw [lookup_union, lookup_ecuInfosByGateway active, Ecu.perGatewayInfo, lookup_singleton, same]
    split
    case isTrue here => rw [here, last, Option.none_or, Option.map_some]
    case isFalse => rw [Option.or_none]

theorem serves_of_mem {info : PerGatewayInfo}
    (mem : info ∈ (group ecus : Grouping Converted).gateways) :
    ∃ gateway, Serves ecus gateway info := by
  obtain ⟨gatewayAddress, alone, found, rfl⟩ := exists_of_mem_gateways mem
  rw [lookup_ecusByGateway active] at found
  obtain ⟨gateway, last, rfl⟩ := Option.map_eq_some_iff.mp found
  have itself := (mem_placed.mp (List.mem_of_getLast? last)).2
  obtain ⟨rfl, -⟩ := Prod.mk.inj itself
  exact ⟨gateway, serves_of_last active last⟩

theorem exists_serves {gateway : Ecu}
    (last : (placed ecus (gateway.logicalGatewayAddress, gateway.logicalGatewayAddress)).getLast? =
      some gateway) :
    ∃ info ∈ (group ecus : Grouping Converted).gateways, Serves ecus gateway info := by
  have found : (group ecus : Grouping Converted).ecusByGateway.lookup
      gateway.logicalGatewayAddress = some gateway.perGatewayInfo := by
    rw [lookup_ecusByGateway active, last, Option.map_some]
  exact ⟨_, mem_gateways found, serves_of_last active last⟩

theorem exists_serves_of_wellPlaced (placement : WellPlaced ecus) {ecu : Ecu} (mem : ecu ∈ ecus) :
    ∃ info ∈ (group ecus : Grouping Converted).gateways, ∃ gateway,
      Serves ecus gateway info ∧ info.ecus.lookup ecu.logicalAddress = some ecu.key := by
  obtain ⟨gateway, found⟩ := List.exists_mem_of_ne_nil _ (placement.gateways ecu mem)
  obtain ⟨gatewayMember, itself⟩ := mem_placed.mp found
  obtain ⟨sameGateway, -⟩ := Prod.mk.inj itself
  have last : (placed ecus
      (gateway.logicalGatewayAddress, gateway.logicalGatewayAddress)).getLast? = some gateway := by
    rw [sameGateway, ← itself, placed_location placement.locations gatewayMember]
    rfl
  obtain ⟨info, listed, serves⟩ := exists_serves active last
  refine ⟨info, listed, gateway, serves, ?_⟩
  rw [serves.lookup, sameGateway]
  exact congrArg (fun ecus : List Ecu => ecus.getLast?.map Ecu.key)
    (placed_location placement.locations mem)

end

theorem Serves.exists_placed {gateway : Ecu} {info : PerGatewayInfo} {address : UInt16}
    {ecuName : String} (serves : Serves ecus gateway info)
    (known : info.ecus.lookup address = some ecuName) :
    ∃ ecu ∈ ecus, ecu.location = (gateway.logicalGatewayAddress, address) ∧ ecu.key = ecuName := by
  rw [serves.lookup] at known
  obtain ⟨ecu, last, named⟩ := Option.map_eq_some_iff.mp known
  obtain ⟨mem, here⟩ := mem_placed.mp (List.mem_of_getLast? last)
  exact ⟨ecu, mem, here, named⟩

end Grouping

section Replies

variable {manager : UdsManager} {functionalGroup : String} {run : GatewayRun}
  {info : PerGatewayInfo} {payload : ServicePayload}
  {convertFromUds : ServicePayload → Except DiagServiceError Converted} {gateway : Ecu}
  {ecuName : String}

theorem mem_expectedEcus {address : UInt16} :
    (address, ecuName) ∈ info.expectedEcus ↔ info.ecus.lookup address = some ecuName := by
  rw [← Option.mem_def, AList.mem_lookup_iff]
  simp [PerGatewayInfo.expectedEcus]

theorem mem_names_expectedEcus : ecuName ∈ info.expectedEcus.map Prod.snd ↔
      ∃ address, info.ecus.lookup address = some ecuName := by
  simp only [List.mem_map, Prod.exists, exists_eq_right, mem_expectedEcus]

theorem Grouping.Serves.listed (serves : Serves (members manager functionalGroup) gateway info)
    {address : UInt16} :
    Listed manager.toLowercase info.transmissionParams info.expectedEcus address ecuName ↔
      info.ecus.lookup address = some ecuName := by
  have mem := (mem_placed.mp (List.mem_of_getLast? serves.last)).1
  rw [Listed, mem_expectedEcus]
  constructor
  · rintro (expected | ⟨rfl, rfl⟩)
    · exact expected
    · rw [serves.transmissionParams, serves.lookup, Ecu.transmissionParameters,
        ← manager.keys gateway (List.mem_filter.mp mem).1]
      exact congrArg (Option.map Ecu.key) serves.last
  · exact .inl

theorem replies_ne_none_iff (payload : ServicePayload)
    (serves : Grouping.Serves (members manager functionalGroup) gateway info)
    (unsuppressed : isSuppressPositiveResponse payload = false) :
    sendFunctionalToGateway manager run info payload convertFromUds ecuName ≠ none ↔
      ∃ address, info.ecus.lookup address = some ecuName := by
  cases returned : sendFunctional manager.toLowercase run.state info.transmissionParams payload
    info.expectedEcus run.sendWithRetries (!isSuppressPositiveResponse payload)
    run.completionOrder with
  | ok udsResponses =>
    obtain ⟨listed, complete⟩ := entries_of_sendFunctional run.permutes returned
    have replied :
        sendFunctionalToGateway manager run info payload convertFromUds ecuName ≠ none ↔
          udsResponses ecuName ≠ none := by
      simp only [sendFunctionalToGateway, returned]
      cases udsResponses ecuName with
      | none => simp
      | some result => cases result <;> simp
    rw [replied]
    constructor
    · intro entry
      obtain ⟨address, known⟩ := listed ecuName entry
      exact ⟨address, serves.listed.mp known⟩
    · intro expected
      exact complete (by rw [unsuppressed]; rfl) ecuName (mem_names_expectedEcus.mpr expected)
  | error error =>
    simp only [sendFunctionalToGateway, returned]
    rw [← mem_names_expectedEcus]
    split <;> simp [*]

theorem lookup_of_reply (serves : Grouping.Serves (members manager functionalGroup) gateway info)
    {reply : Reply Converted}
    (entry : sendFunctionalToGateway manager run info payload convertFromUds ecuName =
      some (.ok reply)) :
    reply.gatewayAddress = gateway.logicalGatewayAddress ∧
      info.ecus.lookup reply.address = some ecuName := by
  cases returned : sendFunctional manager.toLowercase run.state info.transmissionParams payload
    info.expectedEcus run.sendWithRetries (!isSuppressPositiveResponse payload)
    run.completionOrder with
  | ok udsResponses =>
    simp only [sendFunctionalToGateway, returned] at entry
    split at entry
    case h_1 message found =>
      have listed := listed_of_sendFunctional run.permutes returned found
      cases converted : convertFromUds message.payload with
      | error error =>
        rw [converted] at entry
        cases entry
      | ok response =>
        rw [converted] at entry
        cases entry
        exact ⟨by rw [serves.transmissionParams]; rfl, serves.listed.mp listed⟩
    case h_2 => cases entry
    case h_3 => cases entry
  | error error =>
    simp only [sendFunctionalToGateway, returned] at entry
    split at entry
    · cases entry
    · cases entry

section

variable {infos : List PerGatewayInfo} {replies : Replies Converted}
  (part : PerGatewayInfo → Replies Converted)

include part

theorem extendAll_ne_none_iff :
    infos.foldl (fun replies info => replies.extend (part info)) replies ecuName ≠ none ↔
      replies ecuName ≠ none ∨ ∃ info ∈ infos, part info ecuName ≠ none := by
  induction infos using List.reverseRecOn with
  | nil => simp
  | append_singleton infos info ih =>
    rw [List.foldl_concat, Replies.extend]
    cases found : part info ecuName with
    | some result =>
      simp only [Option.some_or, ne_eq, reduceCtorEq, not_false_eq_true, true_iff]
      exact .inr ⟨info, by simp, by simp [found]⟩
    | none =>
      rw [Option.none_or, ih]
      simp [or_and_right, exists_or, found]

theorem exists_of_extendAll {result : Except DiagServiceError (Reply Converted)}
    (entry : infos.foldl (fun replies info => replies.extend (part info)) replies ecuName = some result) :
    replies ecuName = some result ∨ ∃ info ∈ infos, part info ecuName = some result := by
  induction infos using List.reverseRecOn with
  | nil => exact .inl entry
  | append_singleton infos info ih =>
    rw [List.foldl_concat, Replies.extend] at entry
    cases found : part info ecuName with
    | some other =>
      rw [found, Option.some_or] at entry
      exact .inr ⟨info, by simp, found.trans entry⟩
    | none =>
      rw [found, Option.none_or] at entry
      obtain before | ⟨other, mem, kept⟩ := ih entry
      · exact .inl before
      · exact .inr ⟨other, List.mem_append_left _ mem, kept⟩

end

end Replies

section Completeness

variable {manager : UdsManager} {functionalGroup : String} {payload : ServicePayload}
  {convertFromUds : ServicePayload → Except DiagServiceError Converted} {run : GroupRun}

theorem members_eq (manager : UdsManager) (functionalGroup : String) :
    members manager functionalGroup =
      (ecusForFunctionalGroup manager functionalGroup false).filter fun ecu =>
        ecu.isPhysicalEcu && ecu.ecuStatus.isOnlineAndDetected := by
  rw [members, ecusForFunctionalGroup, List.filter_filter]
  congr 1
  funext ecu
  cases ecu.isPhysicalEcu <;> simp [Bool.and_comm]

theorem allActive_members (manager : UdsManager) (functionalGroup : String) :
    Grouping.AllActive (members manager functionalGroup) := by
  intro ecu mem
  have passes := (List.mem_filter.mp mem).2
  simp only [Bool.and_eq_true] at passes
  exact ⟨passes.1.1, passes.2⟩

theorem group_ecus (manager : UdsManager) (functionalGroup : String) :
    (Grouping.group (ecusForFunctionalGroup manager functionalGroup false) : Grouping Converted) =
      .group (members manager functionalGroup) := by
  rw [Grouping.group_filter, members_eq]

theorem eq_of_key {ecu other : Ecu} (mem : ecu ∈ members manager functionalGroup)
    (others : other ∈ members manager functionalGroup) (same : ecu.key = other.key) :
    ecu = other :=
  List.inj_on_of_nodup_map manager.distinct (List.mem_filter.mp mem).1
    (List.mem_filter.mp others).1 same

/-- A request is made, or there is nothing to be returned. -/
def Described (manager : UdsManager) (functionalGroup : String) : Prop :=
  members manager functionalGroup ≠ [] →
    ∃ ecu ∈ manager.ecus, ecu.key = manager.functionalDescriptionDatabase

theorem sendFunctionalGroup_cases (manager : UdsManager) (functionalGroup : String)
    (payload : ServicePayload)
    (convertFromUds : ServicePayload → Except DiagServiceError Converted) (run : GroupRun) :
    ((∀ ecuName, (sendFunctionalGroup manager functionalGroup (.ok payload) convertFromUds
        run).replies ecuName = none) ∧
      (Described manager functionalGroup → members manager functionalGroup = [])) ∨
    (Described manager functionalGroup ∧ ∃ part : PerGatewayInfo → Replies Converted,
        (∀ info, ∃ gatewayRun source target, part info =
          sendFunctionalToGateway manager gatewayRun info
            { payload with sourceAddress := source, targetAddress := target } convertFromUds) ∧
        (sendFunctionalGroup manager functionalGroup (.ok payload) convertFromUds run).replies =
          (run.finishOrder (Grouping.group (members manager functionalGroup) :
              Grouping Converted).gateways).foldl
            (fun replies info => replies.extend (part info))
            (Grouping.group (members manager functionalGroup)).resultMap) := by
  unfold sendFunctionalGroup
  dsimp only
  rw [group_ecus]
  split
  case isTrue none =>
    refine .inl ⟨fun _ => rfl, fun _ => ?_⟩
    rw [members_eq, List.isEmpty_iff.mp none, List.filter_nil]
  case isFalse =>
    split
    case h_1 absent =>
      refine .inl ⟨fun _ => rfl, fun described => ?_⟩
      by_contra some
      obtain ⟨ecu, mem, named⟩ := described some
      exact absurd (beq_iff_eq.mpr named) (List.find?_eq_none.mp absent ecu mem)
    case h_2 database present =>
      have named := List.find?_some present
      exact .inr ⟨fun _ => ⟨database, List.mem_of_find?_eq_some present, beq_iff_eq.mp named⟩,
        _, fun info => ⟨_, _, _, rfl⟩, rfl⟩

section

variable (unsuppressed : isSuppressPositiveResponse payload = false)

include unsuppressed

/-- What an entry says about the ECU: it is an extra gateway, or the one for its location. -/
theorem served_of_entry {ecu : Ecu} (mem : ecu ∈ members manager functionalGroup)
    (entry : (sendFunctionalGroup manager functionalGroup (.ok payload) convertFromUds run).replies
      ecu.key ≠ none) :
    Described manager functionalGroup ∧ placed (members manager functionalGroup)
        (ecu.logicalGatewayAddress, ecu.logicalGatewayAddress) ≠ [] ∧
      (ecu ∈ (placed (members manager functionalGroup) ecu.location).tail ∨
        (placed (members manager functionalGroup) ecu.location).getLast? = some ecu) := by
  have active := allActive_members manager functionalGroup
  obtain ⟨nothing, -⟩ | ⟨described, part, parts, merged⟩ :=
    sendFunctionalGroup_cases manager functionalGroup payload convertFromUds run
  · exact absurd (nothing ecu.key) entry
  · rw [merged, extendAll_ne_none_iff] at entry
    refine ⟨described, ?_⟩
    obtain extra | ⟨info, listed, replied⟩ := entry
    · obtain ⟨gatewayAddress, other, behind, same⟩ :=
        Grouping.exists_placed_of_resultMap active extra
      obtain ⟨others, here⟩ := mem_placed.mp (List.mem_of_mem_tail behind)
      cases eq_of_key others mem same
      obtain ⟨rfl, itself⟩ := Prod.mk.inj here
      rw [here]
      exact ⟨List.ne_nil_of_mem (List.mem_of_mem_tail behind), .inl behind⟩
    · have known := (run.permutes _).mem_iff.mp listed
      obtain ⟨gateway, serves⟩ := Grouping.serves_of_mem active known
      obtain ⟨gatewayRun, source, target, same⟩ := parts info
      rw [same] at replied
      obtain ⟨address, found⟩ := (replies_ne_none_iff
        { payload with sourceAddress := source, targetAddress := target } serves
        unsuppressed).mp replied
      rw [serves.lookup] at found
      obtain ⟨other, last, same⟩ := Option.map_eq_some_iff.mp found
      obtain ⟨others, here⟩ := mem_placed.mp (List.mem_of_getLast? last)
      cases eq_of_key others mem same
      rw [here]
      obtain ⟨sameGateway, -⟩ := Prod.mk.inj here
      rw [sameGateway]
      exact ⟨List.ne_nil_of_mem (List.mem_of_getLast? serves.last), .inr last⟩

theorem wellPlaced_of_complete
    (complete : Complete (members manager functionalGroup)
      (sendFunctionalGroup manager functionalGroup (.ok payload) convertFromUds run)) :
    WellPlaced (members manager functionalGroup) ∧ Described manager functionalGroup := by
  have entries : ∀ ecu ∈ members manager functionalGroup,
      (sendFunctionalGroup manager functionalGroup (.ok payload) convertFromUds
        run).replies ecu.key ≠ none := by
    intro ecu mem
    obtain ⟨result, found, -⟩ := complete.entry ecu mem
    exact found.trans_ne (Option.some_ne_none result)
  refine ⟨⟨?_, ?_⟩, ?_⟩
  · rw [locations_nodup_iff]
    intro location
    by_contra several
    have nodup : (placed (members manager functionalGroup) location).Nodup :=
      ((List.Nodup.of_map _ manager.distinct).filter _).filter _
    obtain ⟨first, second, rest, here⟩ : ∃ first second rest,
        placed (members manager functionalGroup) location = first :: second :: rest := by
      cases here : placed (members manager functionalGroup) location with
      | nil => simp [here] at several
      | cons first rest =>
        cases rest with
        | nil => simp [here] at several
        | cons second rest => exact ⟨first, second, rest, rfl⟩
    have found : first ∈ placed (members manager functionalGroup) location := by
      rw [here]
      exact List.mem_cons_self
    rw [here] at nodup
    -- the first of several is neither an extra gateway nor the last
    obtain ⟨mem, rfl⟩ := mem_placed.mp found
    obtain ⟨-, -, extra | last⟩ := served_of_entry unsuppressed mem (entries first mem)
    · rw [here, List.tail_cons] at extra
      exact (List.nodup_cons.mp nodup).1 extra
    · rw [here, List.getLast?_cons_cons] at last
      exact (List.nodup_cons.mp nodup).1 (List.mem_of_getLast? last)
  · intro ecu mem
    exact (served_of_entry unsuppressed mem (entries ecu mem)).2.1
  · intro some
    obtain ⟨ecu, mem⟩ := List.exists_mem_of_ne_nil _ some
    exact (served_of_entry unsuppressed mem (entries ecu mem)).1 some

theorem complete_of_wellPlaced (placement : WellPlaced (members manager functionalGroup))
    (described : Described manager functionalGroup) :
    Complete (members manager functionalGroup)
      (sendFunctionalGroup manager functionalGroup (.ok payload) convertFromUds run) := by
  have active := allActive_members manager functionalGroup
  have shared : ∀ location first others,
      placed (members manager functionalGroup) location = first :: others → others = [] := by
    intro location first others here
    have alone := tail_placed placement.locations location
    rwa [here] at alone
  obtain ⟨nothing, none⟩ | ⟨-, part, parts, merged⟩ :=
    sendFunctionalGroup_cases manager functionalGroup payload convertFromUds run
  · constructor
    · intro ecu mem
      rw [none described] at mem
      cases mem
    · intro ecuName entry
      exact absurd (nothing ecuName) entry
    · intro gatewayAddress first others here several
      exact absurd (shared _ _ _ here) several
  · have noExtras : ∀ ecuName, (Grouping.group (members manager functionalGroup) :
        Grouping Converted).resultMap ecuName = Option.none :=
      Grouping.resultMap_eq_none active placement.locations
    constructor
    · intro ecu mem
      have entry : (sendFunctionalGroup manager functionalGroup (.ok payload) convertFromUds
          run).replies ecu.key ≠ Option.none := by
        rw [merged, extendAll_ne_none_iff]
        obtain ⟨info, listed, gateway, serves, known⟩ :=
          Grouping.exists_serves_of_wellPlaced active placement mem
        obtain ⟨gatewayRun, source, target, same⟩ := parts info
        refine .inr ⟨info, (run.permutes _).mem_iff.mpr listed, ?_⟩
        rw [same]
        exact (replies_ne_none_iff
          { payload with sourceAddress := source, targetAddress := target } serves
          unsuppressed).mpr ⟨ecu.logicalAddress, known⟩
      obtain ⟨result, found⟩ := Option.ne_none_iff_exists'.mp entry
      refine ⟨result, found, ?_⟩
      rintro reply rfl
      rw [merged] at found
      obtain extra | ⟨info, listed, replied⟩ := exists_of_extendAll part found
      · rw [noExtras] at extra
        cases extra
      · obtain ⟨gateway, serves⟩ :=
          Grouping.serves_of_mem active ((run.permutes _).mem_iff.mp listed)
        obtain ⟨gatewayRun, source, target, same⟩ := parts info
        rw [same] at replied
        obtain ⟨sameGateway, known⟩ := lookup_of_reply serves replied
        obtain ⟨other, others, here, named⟩ := serves.exists_placed known
        cases eq_of_key others mem named
        rw [here, sameGateway]
    · intro ecuName entry
      rw [merged, extendAll_ne_none_iff] at entry
      obtain extra | ⟨info, listed, replied⟩ := entry
      · exact absurd (noExtras ecuName) extra
      · obtain ⟨gateway, serves⟩ :=
          Grouping.serves_of_mem active ((run.permutes _).mem_iff.mp listed)
        obtain ⟨gatewayRun, source, target, same⟩ := parts info
        rw [same] at replied
        obtain ⟨address, known⟩ := (replies_ne_none_iff
          { payload with sourceAddress := source, targetAddress := target } serves
          unsuppressed).mp replied
        obtain ⟨other, mem, -, named⟩ := serves.exists_placed known
        exact ⟨other, mem, named⟩
    · intro gatewayAddress first others here several
      exact absurd (shared _ _ _ here) several

end

/-- Exactly the groups without a conflict get all their entries. -/
theorem complete_iff (manager : UdsManager) (functionalGroup : String)
    (unsuppressed : isSuppressPositiveResponse payload = false)
    (convertFromUds : ServicePayload → Except DiagServiceError Converted) (run : GroupRun) :
    Complete (members manager functionalGroup)
        (sendFunctionalGroup manager functionalGroup (.ok payload) convertFromUds run) ↔
      WellPlaced (members manager functionalGroup) ∧ Described manager functionalGroup := by
  constructor
  · exact wellPlaced_of_complete unsuppressed
  · rintro ⟨placement, described⟩
    exact complete_of_wellPlaced unsuppressed placement described

end Completeness

def online : EcuState := ⟨.online, .detected "base" true false, some 0⟩

def descriptions : Ecu := ⟨"FGL", "fgl", false, [], .default, 0x0E00, 0, 0, 0⟩

def gatewayEcu : Ecu :=
  ⟨"Gateway", "gateway", true, ["all"], online, 0x0E00, 0x1000, 0x1000, 0xE400⟩

def engine : Ecu := ⟨"Engine", "engine", true, ["all"], online, 0x0E00, 0x1000, 0x1001, 0xE400⟩

def otherGateway : Ecu :=
  ⟨"Gateway_B", "gateway_b", true, ["all"], online, 0x0E80, 0x1000, 0x1000, 0xE401⟩

def lowercase (text : String) : String := String.ofList (text.toList.map Char.toLower)

def oneGateway : UdsManager :=
  ⟨lowercase, [descriptions, engine, gatewayEcu], by decide, by decide, "fgl"⟩

def twoGateways : UdsManager :=
  ⟨lowercase, [descriptions, gatewayEcu, otherGateway], by decide, by decide, "fgl"⟩

/-- The engine answers, the gateway itself does not. -/
def engineAnswers : DoipConnection := fun address =>
  if address = 0x1001 then some ⟨[], [], [.response (.msg ⟨0x1001, 0x0E00, [0x7E, 0x00]⟩)]⟩
  else some ⟨[], [], []⟩

def connected : GroupRun where
  gateways _ := ⟨⟨fun _ => some 0, [engineAnswers]⟩, fun _ => .ok (), id,
    fun _ => List.Perm.refl _⟩
  finishOrder := id
  permutes _ := List.Perm.refl _

def convertData (payload : ServicePayload) : Except DiagServiceError (List UInt8) :=
  .ok payload.data

theorem oneGateway_complete : isSuppressPositiveResponse ⟨[0x3E, 0x00], 0, 0, none, none⟩ = false ∧
      Complete (members oneGateway "all")
        (sendFunctionalGroup oneGateway "all" (.ok ⟨[0x3E, 0x00], 0, 0, none, none⟩) convertData
          connected) ∧
      (sendFunctionalGroup oneGateway "all" (.ok ⟨[0x3E, 0x00], 0, 0, none, none⟩) convertData
        connected).replies engine.key = some (.ok ⟨[0x7E, 0x00], 0x1000, 0x1001⟩) :=
  ⟨by decide, (complete_iff oneGateway "all" (by decide) convertData connected).mpr
    ⟨⟨by decide, by decide⟩, fun _ => by decide⟩, by rfl⟩

/-- The first of two gateway ECUs at one address is left out. -/
theorem twoGateways_incomplete :
    ¬∀ (manager : UdsManager) (functionalGroup : String) (payload : ServicePayload)
        (convertFromUds : ServicePayload → Except DiagServiceError (List UInt8)) (run : GroupRun),
        isSuppressPositiveResponse payload = false →
        Complete (members manager functionalGroup)
          (sendFunctionalGroup manager functionalGroup (.ok payload) convertFromUds run) := by
  intro complete
  have result := (complete twoGateways "all" ⟨[0x3E, 0x00], 0, 0, none, none⟩ convertData
    connected (by decide)).entry gatewayEcu (by decide)
  obtain ⟨result, found, -⟩ := result
  have missing : (sendFunctionalGroup twoGateways "all"
      (.ok ⟨[0x3E, 0x00], 0, 0, none, none⟩) convertData connected).replies gatewayEcu.key =
        none := by rfl
  cases missing.symm.trans found

end DiagnosticAdapter.Uds.FunctionalGroup
