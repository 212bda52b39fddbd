import DiagnosticAdapter.Doip.Gateways

/-!
# Announcements from the tester's subnet

`create_netmask` makes one number of the tester's address and its subnet mask, and
`handle_vam` compares the source of an announcement with that number alone.
-/

namespace DiagnosticAdapter.Doip

/-- A decimal number of an address, without leading zeros. -/
def parseOctet (text : List Char) : Option Nat :=
  if text = [] ∨ text.length > 3 ∨ (text.length > 1 ∧ text.head? = some '0') ∨
      !text.all Char.isDigit then none
  else
    let number := text.foldl (fun number digit => 10 * number + (digit.toNat - '0'.toNat)) 0
    if number < 256 then some number else none

/-- `str::parse::<Ipv4Addr>` with `to_bits`. -/
def parseIpv4 (text : List Char) : Option UInt32 :=
  match (text.splitOn '.').mapM parseOctet with
  | some [a, b, c, d] => some (.ofNat (((a * 256 + b) * 256 + c) * 256 + d))
  | _ => none

inductive AddressError where
  | invalidAddress (message : String)
  deriving DecidableEq, Repr

def createNetmask (testerIp testerSubnet : List Char) : Except AddressError UInt32 :=
  match parseIpv4 testerIp with
  | none => .error (.invalidAddress
      "DoipGateway: Failed to parse tester IP address: AddrParseError(Ipv4)")
  | some ip =>
    match parseIpv4 testerSubnet with
    | none => .error (.invalidAddress
        "DoipGateway: Failed to parse tester subnet mask: AddrParseError(Ipv4)")
    | some subnet => .ok (ip &&& subnet)

def bitOf (address : UInt32) (i : Nat) : Bool := address.toBitVec.getLsbD i

theorem bitOf_and (first second : UInt32) (i : Nat) :
    bitOf (first &&& second) i = (bitOf first i && bitOf second i) := by
  rw [bitOf, UInt32.toBitVec_and, BitVec.getLsbD_and]
  rfl

theorem eq_iff_bitOf {first second : UInt32} :
    first = second ↔ ∀ i, bitOf first i = bitOf second i := by
  constructor
  · intro same i
    rw [same]
  · intro same
    apply UInt32.toBitVec_inj.1
    exact BitVec.eq_of_getLsbD_eq fun i _ => same i

/-- The source has all network bits of the tester, and one that the tester has not. -/
def Exceeds (tester mask source : UInt32) : Prop :=
  (∀ i, bitOf mask i = true → bitOf tester i = true → bitOf source i = true) ∧
    ∃ i, bitOf mask i = true ∧ bitOf source i = true ∧ bitOf tester i = false

/-- The network numbers agree exactly where the tester's bits are all there and no other is. -/
theorem sameNetwork_iff {tester mask source : UInt32} : source &&& mask = tester &&& mask ↔
      (∀ i, bitOf mask i = true → bitOf tester i = true → bitOf source i = true) ∧
        ¬Exceeds tester mask source := by
  rw [eq_iff_bitOf]
  constructor
  · intro same
    have bits (i : Nat) (masked : bitOf mask i = true) : bitOf source i = bitOf tester i := by
      have both := same i
      rwa [bitOf_and, bitOf_and, masked, Bool.and_true, Bool.and_true] at both
    constructor
    · intro i masked set
      rw [bits i masked, set]
    · intro exceeds
      obtain ⟨_, i, masked, set, unset⟩ := exceeds
      rw [bits i masked, unset] at set
      cases set
  · intro agrees i
    obtain ⟨contains, within⟩ := agrees
    rw [bitOf_and, bitOf_and]
    cases masked : bitOf mask i with
    | false => rw [Bool.and_false, Bool.and_false]
    | true =>
      rw [Bool.and_true, Bool.and_true]
      cases unset : bitOf tester i with
      | true => exact contains i masked unset
      | false =>
        cases set : bitOf source i with
        | false => rfl
        | true => exact absurd ⟨contains, i, masked, set, unset⟩ within

/-- `handle_vam` looks only for the tester's network bits. -/
theorem netmask_of_source_iff {tester mask source : UInt32} :
    source &&& (tester &&& mask) = tester &&& mask ↔
      ∀ i, bitOf mask i = true → bitOf tester i = true → bitOf source i = true := by
  rw [eq_iff_bitOf]
  constructor
  · intro same i masked set
    have both := same i
    rwa [bitOf_and, bitOf_and, masked, set, Bool.and_true, Bool.and_true] at both
  · intro contains i
    rw [bitOf_and, bitOf_and]
    cases masked : bitOf mask i with
    | false => rw [Bool.and_false, Bool.and_false]
    | true =>
      cases set : bitOf tester i with
      | false => rw [Bool.false_and, Bool.and_false]
      | true => rw [contains i masked set, Bool.true_and]

variable {ecus : Ecus} {netmask source : UInt32} {logicalAddress : UInt16} {version : UInt8}

theorem handleVam_eq_none_iff :
    handleVam ecus netmask ⟨.vehicleAnnouncement logicalAddress, version, .v4 source⟩ = .ok none ↔
      source &&& netmask ≠ netmask := by
  simp only [handleVam]
  by_cases inside : source &&& netmask = netmask
  · rw [if_neg (not_not.2 inside)]
    constructor
    · intro ignored
      split at ignored <;> cases ignored
    · intro outside
      exact absurd inside outside
  · rw [if_pos inside]
    exact iff_of_true rfl inside

/-- An announcement is filtered by the subnet unless its source has all network bits of the
tester and more. -/
theorem ignores_outside_subnet_iff {testerIp testerSubnet : List Char} {tester mask : UInt32}
    (ip : parseIpv4 testerIp = some tester) (subnet : parseIpv4 testerSubnet = some mask)
    (created : createNetmask testerIp testerSubnet = .ok netmask) :
    (handleVam ecus netmask ⟨.vehicleAnnouncement logicalAddress, version, .v4 source⟩ =
        .ok none ↔ source &&& mask ≠ tester &&& mask) ↔
      ¬Exceeds tester mask source := by
  have made : netmask = tester &&& mask := by
    rw [createNetmask, ip, subnet] at created
    exact (Except.ok.inj created).symm
  rw [handleVam_eq_none_iff, made, Ne, Ne, netmask_of_source_iff, sameNetwork_iff]
  constructor
  · intro agrees exceeds
    exact agrees.2 (fun same => same.2 exceeds) exceeds.1
  · intro within
    constructor
    · intro lacks same
      exact lacks same.1
    · intro differs contains
      exact differs ⟨contains, within⟩

theorem ignores_neighbour_subnet : handleVam [⟨"gateway", 0x10, 0x10⟩] 0xC0A80100
        ⟨.vehicleAnnouncement 0x10, 2, .v4 0xC0A80005⟩ = .ok none ↔
      (0xC0A80005 : UInt32) &&& 0xFFFFFF00 ≠ 0xC0A80107 &&& 0xFFFFFF00 := by
  have ip : parseIpv4 "192.168.1.7".toList = some 0xC0A80107 := by decide
  have subnet : parseIpv4 "255.255.255.0".toList = some 0xFFFFFF00 := by decide
  apply (ignores_outside_subnet_iff ip subnet (by decide)).2
  intro exceeds
  have bit := exceeds.1 8 (by decide) (by decide)
  revert bit
  decide

/-- A tester in subnet 0 of a range takes the announcements of the other subnets. -/
theorem neighbour_subnet_not_ignored :
    createNetmask "192.168.0.7".toList "255.255.255.0".toList = .ok 0xC0A80000 ∧
      ¬(handleVam [⟨"gateway", 0x10, 0x10⟩] 0xC0A80000
          ⟨.vehicleAnnouncement 0x10, 2, .v4 0xC0A80105⟩ = .ok none ↔
        (0xC0A80105 : UInt32) &&& 0xFFFFFF00 ≠ 0xC0A80007 &&& 0xFFFFFF00) := by
  decide

end DiagnosticAdapter.Doip
