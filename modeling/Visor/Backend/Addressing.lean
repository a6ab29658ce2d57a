import Mathlib.Tactic.IntervalCases
import Mathlib.Tactic.Ring
import Visor.Backend.GuestNetwork

/-! A link on a named network is computed from the name and the CID, so two guests of one network
clash exactly if their CIDs agree up to 253, and two networks exactly if their names' hashes agree
up to the number of subnets. -/

namespace Visor.Backend
open NamedNetworkSupernet BitVec Ipv4Addr GuestNetworkLink

def Ipv4Addr.toBits (address : Ipv4Addr) : U32 :=
  BitVec.ofNat 32
    (address.first.toNat * 2 ^ 24 + address.second.toNat * 2 ^ 16 + address.third.toNat * 2 ^ 8 +
    address.fourth.toNat)

theorem Ipv4Addr.toBits_ofBits (bits : U32) : (ofBits bits).toBits = bits := by
  apply eq_of_toNat_eq
  simp only [toBits, ofBits, extractLsb'_toNat, toNat_ofNat, Nat.shiftRight_eq_div_pow]
  omega

variable (link : GuestNetworkLink) (address : U32) (supernet : NamedNetworkSupernet)

def GuestNetworkLink.networkAddress : U32 := link.gatewayIp.toBits &&& link.netmask.toBits
def GuestNetworkLink.broadcastAddress : U32 := link.networkAddress ||| ~~~ link.netmask.toBits
def GuestNetworkLink.Contains : Prop := address &&& link.netmask.toBits = link.networkAddress

/-- `172.20.0.0/16`, where the point-to-point links are. -/
def InLinkRange : Prop := address.toNat / 2 ^ 16 = 172 * 2 ^ 8 + 20

theorem forCid_inLinkRange (cid : U32) :
    InLinkRange (forCid cid).guestIp.toBits ∧ InLinkRange (forCid cid).gatewayIp.toBits := by
  have inside (third fourth : U8) : InLinkRange (Ipv4Addr.mk 172 20 third fourth).toBits := by
    have first : (172 : U8).toNat = 172 := rfl
    have second : (20 : U8).toNat = 20 := rfl
    simp only [InLinkRange, toBits, toNat_ofNat, first, second]
    omega
  exact ⟨inside _ _, inside _ _⟩

def NamedNetworkSupernet.Contains (address : U32) : Prop :=
  address &&& (allOnes 32 <<< (32 - supernet.prefixLen)) = supernet.base

def NamedNetworkSupernet.subnets : Nat := 2 ^ (24 - supernet.prefixLen)
def nameHash (networkName : Text) : Nat := (fnv1a64 (networkName.flatMap String.utf8EncodeChar)).toNat

section Masks
variable (supernet : NamedNetworkSupernet) (networkName : Text)

theorem block_eq : 2 ^ (32 - supernet.prefixLen) = supernet.subnets * 256 := by
  have le := supernet.prefixLen_le
  have split : 32 - supernet.prefixLen = (24 - supernet.prefixLen) + 8 := by omega
  rw [split, Nat.pow_add]
  rfl

theorem base_eq : ∃ number, supernet.base.toNat = number * (supernet.subnets * 256) := by
  refine ⟨supernet.base.toNat / (supernet.subnets * 256), ?_⟩
  have masked := congrArg BitVec.toNat supernet.aligned
  rw [toNat_mask, block_eq] at masked
  exact masked.symm

theorem contains_iff (address : U32) : supernet.Contains address ↔
    address.toNat / (supernet.subnets * 256) = supernet.base.toNat / (supernet.subnets * 256) := by
  have positive : 0 < supernet.subnets * 256 := Nat.mul_pos (Nat.two_pow_pos _) (by decide)
  obtain ⟨number, base⟩ := base_eq supernet
  rw [NamedNetworkSupernet.Contains, ← toNat_inj, toNat_mask, block_eq, base, Nat.mul_div_cancel _ positive]
  exact Nat.mul_left_inj (Nat.pos_iff_ne_zero.mp positive)

private theorem toNat_subnetMask (bits : Nat) (small : bits ≤ 16) :
    (((1 : U32) <<< bits) - 1).toNat = 2 ^ bits - 1 := by
  interval_cases bits <;> rfl

theorem toNat_subnetIndex (hash : U64) (bits : Nat) (small : bits ≤ 16) :
    ((hash.setWidth 16).setWidth 32 &&& (((1 : U32) <<< bits) - 1)).toNat = hash.toNat % 2 ^ bits := by
  have wide : hash.toNat % 2 ^ 16 < 2 ^ 32 := Nat.lt_of_lt_of_le (Nat.mod_lt _ (by decide)) (by decide)
  rw [toNat_and, toNat_subnetMask bits small, Nat.and_two_pow_sub_one_eq_mod,
    toNat_setWidth, toNat_setWidth, Nat.mod_eq_of_lt wide, Nat.mod_mod_of_dvd _ (Nat.pow_dvd_pow 2 small)]

theorem base_add_lt {index : Nat} (inside : index < supernet.subnets * 256) :
    supernet.base.toNat + index < 2 ^ 32 := by
  obtain ⟨number, base⟩ := base_eq supernet
  have small := supernet.base.isLt
  have whole : 2 ^ 32 = 2 ^ supernet.prefixLen * (supernet.subnets * 256) := by
    have le := supernet.prefixLen_le
    rw [← block_eq, ← Nat.pow_add]
    congr 1
    omega
  rw [base, whole] at small
  have below : number + 1 ≤ 2 ^ supernet.prefixLen := Nat.lt_of_mul_lt_mul_right small
  have next := Nat.mul_le_mul_right (supernet.subnets * 256) below
  rw [Nat.add_mul, Nat.one_mul, ← whole] at next
  omega

theorem index_lt : nameHash networkName % supernet.subnets * 256 + 256 ≤ supernet.subnets * 256 := by
  rw [subnets]
  omega

theorem toNat_subnetBase : (supernet.subnetBase networkName).toNat =
    supernet.base.toNat + nameHash networkName % supernet.subnets * 256 := by
  have ge := supernet.prefixLen_ge
  have inside := index_lt supernet networkName
  have sum :=
    base_add_lt supernet
    (show nameHash networkName % supernet.subnets * 256 < supernet.subnets * 256 by omega)
  have index : nameHash networkName % supernet.subnets * 256 < 2 ^ 32 := by omega
  rw [subnetBase, toNat_add, toNat_shiftLeft, toNat_subnetIndex _ _ (by omega), Nat.shiftLeft_eq]
  change (_ + nameHash networkName % supernet.subnets * 256 % 2 ^ 32) % 2 ^ 32 = _
  rw [Nat.mod_eq_of_lt index, Nat.mod_eq_of_lt sum]

theorem subnetBase_block :
    ∃ number, (supernet.subnetBase networkName).toNat = 256 * number ∧ number < 2 ^ 24 := by
  obtain ⟨number, base⟩ := base_eq supernet
  refine ⟨number * supernet.subnets + nameHash networkName % supernet.subnets, ?_, ?_⟩
  · rw [toNat_subnetBase, base]
    ring
  · have small := (supernet.subnetBase networkName).isLt
    rw [toNat_subnetBase, base] at small
    have factored : number * (supernet.subnets * 256) + nameHash networkName % supernet.subnets * 256 =
      (number * supernet.subnets + nameHash networkName % supernet.subnets) * 256 := by ring
    omega

end Masks

section Links
variable (supernet : NamedNetworkSupernet) (networkName : Text) (cid : U32)

theorem netmask_toBits :
    (supernet.linkForNamedNetwork networkName cid).netmask.toBits = allOnes 32 <<< 8 := by
  change (Ipv4Addr.mk 255 255 255 0).toBits = _
  decide

theorem toNat_guestIp : (supernet.linkForNamedNetwork networkName cid).guestIp.toBits.toNat =
    (supernet.subnetBase networkName).toNat + (2 + guestIndex cid % 253) := by
  obtain ⟨number, block, small⟩ := subnetBase_block supernet networkName
  rw [linkForNamedNetwork, toBits_ofBits, toNat_add, toNat_ofNat]
  omega

theorem toNat_gatewayIp : (supernet.linkForNamedNetwork networkName cid).gatewayIp.toBits.toNat =
    (supernet.subnetBase networkName).toNat + 1 := by
  obtain ⟨number, block, small⟩ := subnetBase_block supernet networkName
  have one : (1 : U32).toNat = 1 := rfl
  rw [linkForNamedNetwork, toBits_ofBits, toNat_add, one]
  omega

theorem toNat_networkAddress : (supernet.linkForNamedNetwork networkName cid).networkAddress.toNat =
    (supernet.subnetBase networkName).toNat := by
  obtain ⟨number, block, small⟩ := subnetBase_block supernet networkName
  rw [networkAddress, netmask_toBits, toNat_mask, toNat_gatewayIp]
  omega

theorem toNat_broadcastAddress : (supernet.linkForNamedNetwork networkName cid).broadcastAddress.toNat =
    (supernet.subnetBase networkName).toNat + 255 := by
  obtain ⟨number, block, small⟩ := subnetBase_block supernet networkName
  have low : (~~~ (allOnes 32 <<< 8 : U32)).toNat = 255 := by decide
  rw [broadcastAddress, netmask_toBits, toNat_or, toNat_networkAddress, low,
    block, ← Nat.two_pow_add_eq_or_of_lt (i := 8) (by decide)]

theorem link_contains_iff (address : U32) :
    (supernet.linkForNamedNetwork networkName cid).Contains address ↔
    address.toNat / 256 = (supernet.subnetBase networkName).toNat / 256 := by
  obtain ⟨number, block, small⟩ := subnetBase_block supernet networkName
  rw [GuestNetworkLink.Contains, ← toNat_inj, netmask_toBits, toNat_mask, toNat_networkAddress]
  omega

theorem guestIp_proper : let link := supernet.linkForNamedNetwork networkName cid
    link.guestIp ≠ link.gatewayIp ∧ link.guestIp.toBits ≠ link.networkAddress ∧
      link.guestIp.toBits ≠ link.broadcastAddress ∧ link.Contains link.guestIp.toBits := by
  obtain ⟨number, block, small⟩ := subnetBase_block supernet networkName
  have guest := toNat_guestIp supernet networkName cid
  refine ⟨?_, ?_, ?_, ?_⟩
  · intro same
    have bits := congrArg (fun address => address.toBits.toNat) same
    simp only [guest, toNat_gatewayIp] at bits
    omega
  · intro same
    have bits := congrArg BitVec.toNat same
    rw [guest, toNat_networkAddress] at bits
    omega
  · intro same
    have bits := congrArg BitVec.toNat same
    rw [guest, toNat_broadcastAddress] at bits
    omega
  · rw [link_contains_iff, guest]
    omega

theorem subnets_disjoint_iff (one other : Text) :
    (∀ address, ¬ ((supernet.linkForNamedNetwork one cid).Contains address ∧
      (supernet.linkForNamedNetwork other cid).Contains address)) ↔
    nameHash one % supernet.subnets ≠ nameHash other % supernet.subnets := by
  have first := toNat_subnetBase supernet one
  have second := toNat_subnetBase supernet other
  simp only [link_contains_iff]
  constructor
  · intro disjoint same
    rw [same] at first
    exact disjoint (supernet.subnetBase one) ⟨rfl, by rw [first, second]⟩
  · rintro differ address ⟨inOne, inOther⟩
    obtain ⟨number, block, _⟩ := subnetBase_block supernet one
    obtain ⟨otherNumber, otherBlock, _⟩ := subnetBase_block supernet other
    omega

theorem link_subset_supernet {address : U32}
    (inside : (supernet.linkForNamedNetwork networkName cid).Contains address) :
    supernet.Contains address := by
  rw [link_contains_iff] at inside
  rw [contains_iff]
  obtain ⟨number, base⟩ := base_eq supernet
  have whole := toNat_subnetBase supernet networkName
  have index := index_lt supernet networkName
  have positive : 0 < supernet.subnets * 256 := by omega
  have split : address.toNat / (supernet.subnets * 256) = address.toNat / 256 / supernet.subnets := by
    rw [Nat.div_div_eq_div_mul, Nat.mul_comm]
  rw [split, inside, Nat.div_div_eq_div_mul, Nat.mul_comm 256, whole, base]
  rw [Nat.mul_div_cancel _ positive, Nat.mul_comm number, Nat.mul_add_div positive,
    Nat.div_eq_of_lt (by omega), Nat.add_zero]

/-- A name whose hash falls into the link range of every supernet that meets it. -/
def meetingName : Text := "yh".toList

private theorem nameHash_meetingName : nameHash meetingName % 2 ^ 16 = 0x14f4 := by decide +kernel

private theorem meetingName_inLinkRange {address : U32} (inside : supernet.Contains address)
    (linkRange : InLinkRange address) : InLinkRange (supernet.subnetBase meetingName) := by
  have ge := supernet.prefixLen_ge
  have le := supernet.prefixLen_le
  have hash : nameHash meetingName % supernet.subnets = 0x14f4 % supernet.subnets := by
    rw [← nameHash_meetingName, subnets, Nat.mod_mod_of_dvd _ (Nat.pow_dvd_pow 2 (by omega))]
  obtain ⟨number, base⟩ := base_eq supernet
  rw [contains_iff] at inside
  rw [InLinkRange] at linkRange ⊢
  rw [toNat_subnetBase, hash]
  simp only [subnets] at inside base ⊢
  generalize supernet.prefixLen = length at *
  interval_cases length <;> omega

theorem away_from_links_iff :
    (∀ networkName address, (supernet.linkForNamedNetwork networkName cid).Contains address →
      ¬ InLinkRange address) ↔ ∀ address, supernet.Contains address → ¬ InLinkRange address := by
  constructor
  · intro away address inside linkRange
    refine away meetingName (supernet.subnetBase meetingName) ?_
      (meetingName_inLinkRange supernet inside linkRange)
    rw [link_contains_iff]
  · intro away networkName address inside
    exact away address (link_subset_supernet supernet networkName cid inside)

end Links

/-- Two guests of the network `one`, and another network `other`. -/
structure AddressLaw (supernet : NamedNetworkSupernet) (one other : Text) (cid otherCid : U32) : Prop where
  distinct : (supernet.linkForNamedNetwork one cid).guestIp ≠
    (supernet.linkForNamedNetwork one otherCid).guestIp
  proper : ∀ guest ∈ [cid, otherCid],
    let link := supernet.linkForNamedNetwork one guest
    link.guestIp ≠ link.gatewayIp ∧ link.guestIp.toBits ≠ link.networkAddress ∧
      link.guestIp.toBits ≠ link.broadcastAddress ∧ link.Contains link.guestIp.toBits
  disjoint : ∀ address, ¬ ((supernet.linkForNamedNetwork one cid).Contains address ∧
    (supernet.linkForNamedNetwork other cid).Contains address)
  away : ∀ networkName address, (supernet.linkForNamedNetwork networkName cid).Contains address →
    ¬ InLinkRange address

/-- Addresses do not clash exactly if the CIDs differ up to 253, the hashes of the names up to the
number of subnets, and the supernet lies beside the range of the point-to-point links. -/
theorem addressLaw_iff (one other : Text) (cid otherCid : U32) :
    AddressLaw supernet one other cid otherCid ↔ guestIndex cid % 253 ≠ guestIndex otherCid % 253 ∧
    nameHash one % supernet.subnets ≠ nameHash other % supernet.subnets ∧
    ∀ address, supernet.Contains address → ¬ InLinkRange address := by
  have guests := linkForNamedNetwork_guestIp_eq_iff supernet one cid otherCid
  constructor
  · intro law
    exact ⟨fun same => law.distinct (guests.mpr same),
      (subnets_disjoint_iff supernet cid one other).mp law.disjoint,
        (away_from_links_iff supernet cid).mp law.away⟩
  · rintro ⟨distinct, disjoint, away⟩
    exact {
      distinct := fun same => distinct (guests.mp same)
      proper := fun guest _ => guestIp_proper supernet one guest
      disjoint := (subnets_disjoint_iff supernet cid one other).mpr disjoint
      away := (away_from_links_iff supernet cid).mpr away }

/-- `192.168.7.0/24`: all named networks share one subnet. -/
def singleSubnet : NamedNetworkSupernet where
  base := 0xc0a80700
  prefixLen := 24
  prefixLen_ge := by decide
  prefixLen_le := by decide
  aligned := by decide

/-- `172.16.0.0/12`, with the range of the point-to-point links inside. -/
def privateTwelve : NamedNetworkSupernet where
  base := 0xac100000
  prefixLen := 12
  prefixLen_ge := by decide
  prefixLen_le := by decide
  aligned := by decide

/-- With the standard supernet the first guest and the 254th clash on every network; other supernets
that are accepted give two networks one subnet, or one in the range of the point-to-point links. -/
theorem addresses_clash :
    (∀ network other, ¬ AddressLaw .standard network other 3 256) ∧
    ¬ AddressLaw singleSubnet "web".toList "db".toList 3 4 ∧
    ¬ AddressLaw privateTwelve "web".toList "db".toList 3 4 := by
  refine ⟨fun network other law => ?_, fun law => ?_, fun law => ?_⟩
  · exact law.distinct ((linkForNamedNetwork_guestIp_eq_iff _ _ _ _).mpr (by decide))
  · refine (subnets_disjoint_iff singleSubnet 3 _ _).mp law.disjoint ?_
    have single : singleSubnet.subnets = 1 := rfl
    rw [single, Nat.mod_one, Nat.mod_one]
  · refine (away_from_links_iff privateTwelve 3).mp law.away 0xac140002 ?_ ?_
    · unfold NamedNetworkSupernet.Contains
      decide
    · unfold InLinkRange
      decide

end Visor.Backend
