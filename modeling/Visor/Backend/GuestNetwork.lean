import Visor.Backend.Config
import Visor.Library.Json

/-! The addresses of a guest are computed from its CID: the point-to-point link from all of it up to
`2 ^ 14` guests, the link on a named network from its remainder by 253. -/

namespace Visor.Backend
open Library

structure Ipv4Addr where
  first : U8
  second : U8
  third : U8
  fourth : U8
deriving DecidableEq

def Ipv4Addr.ofBits (bits : U32) : Ipv4Addr where
  first := bits.extractLsb' 24 8
  second := bits.extractLsb' 16 8
  third := bits.extractLsb' 8 8
  fourth := bits.extractLsb' 0 8

def Ipv4Addr.toText (address : Ipv4Addr) : Text :=
  decimal address.first.toNat ++ '.' :: (decimal address.second.toNat ++
    '.' :: (decimal address.third.toNat ++ '.' :: decimal address.fourth.toNat))

theorem Ipv4Addr.ofBits_injective {bits other : U32}
    (same : Ipv4Addr.ofBits bits = Ipv4Addr.ofBits other) : bits = other := by
  simp only [Ipv4Addr.ofBits, Ipv4Addr.mk.injEq] at same
  obtain ⟨first, second, third, fourth⟩ := same
  have byte (start : Nat) (eq : bits.extractLsb' start 8 = other.extractLsb' start 8) :
    bits.toNat / 2 ^ start % 2 ^ 8 = other.toNat / 2 ^ start % 2 ^ 8 := by
    simpa [BitVec.extractLsb'_toNat, Nat.shiftRight_eq_div_pow] using congrArg BitVec.toNat eq
  have firstByte := byte 24 first
  have secondByte := byte 16 second
  have thirdByte := byte 8 third
  have fourthByte := byte 0 fourth
  apply BitVec.eq_of_toNat_eq
  omega

theorem Ipv4Addr.toText_injective {address other : Ipv4Addr}
    (same : address.toText = other.toText) : address = other := by
  have dotted (rest : Text) : NoDigit ('.' :: rest) := noDigit_cons (by decide)
  obtain ⟨first, same⟩ := decimal_append (dotted _) (dotted _) same
  obtain ⟨second, same⟩ := decimal_append (dotted _) (dotted _) (List.cons.inj same).2
  obtain ⟨third, same⟩ := decimal_append (dotted _) (dotted _) (List.cons.inj same).2
  have fourth := decimal_injective (List.cons.inj same).2
  cases address
  cases other
  simp only [Ipv4Addr.mk.injEq]
  exact ⟨BitVec.eq_of_toNat_eq first, BitVec.eq_of_toNat_eq second, BitVec.eq_of_toNat_eq third,
    BitVec.eq_of_toNat_eq fourth⟩

structure GuestNetworkLink where
  guestIp : Ipv4Addr
  gatewayIp : Ipv4Addr
  netmask : Ipv4Addr

open GuestNetworkLink

/-- `cid.saturating_sub(FIRST_GUEST_CID)` -/
def guestIndex (cid : U32) : Nat := cid.toNat - firstGuestCid.toNat

def GuestNetworkLink.forCid (cid : U32) : GuestNetworkLink :=
  let thirdOctet : U8 := BitVec.ofNat 8 (guestIndex cid / 64)
  let fourthOctet : U8 := BitVec.ofNat 8 (guestIndex cid % 64 * 4)
  { guestIp := ⟨172, 20, thirdOctet, fourthOctet + 2⟩
    gatewayIp := ⟨172, 20, thirdOctet, fourthOctet + 1⟩
    netmask := ⟨255, 255, 255, 252⟩ }

def fnv1a64 (bytes : List UInt8) : U64 :=
  bytes.foldl (fun hash byte => (hash ^^^ byte.toBitVec.setWidth 64) * 0x100000001b3) 0xcbf29ce484222325

/-- `NamedNetworkSupernet`: the range that `parse` accepts, aligned and between `/8` and `/24`. -/
structure NamedNetworkSupernet where
  base : U32
  prefixLen : Nat
  prefixLen_ge : 8 ≤ prefixLen
  prefixLen_le : prefixLen ≤ 24
  aligned : base &&& (BitVec.allOnes 32 <<< (32 - prefixLen)) = base

def NamedNetworkSupernet.standard : NamedNetworkSupernet where
  base := 0x64400000
  prefixLen := 10
  prefixLen_ge := by decide
  prefixLen_le := by decide
  aligned := by decide

variable (supernet : NamedNetworkSupernet) (host : GuestHost)

def NamedNetworkSupernet.subnetBase (networkName : Text) : U32 :=
  let hash := fnv1a64 (networkName.flatMap String.utf8EncodeChar)
  let subnetMask := ((1 : U32) <<< (24 - supernet.prefixLen)) - 1
  let subnetIndex : U32 := (hash.setWidth 16).setWidth 32 &&& subnetMask
  supernet.base + (subnetIndex <<< 8)

def NamedNetworkSupernet.linkForNamedNetwork (networkName : Text) (cid : U32) : GuestNetworkLink :=
  let subnetBase := supernet.subnetBase networkName
  let hostOctet : U32 := BitVec.ofNat 32 (2 + guestIndex cid % 253)
  { guestIp := .ofBits (subnetBase + hostOctet)
    gatewayIp := .ofBits (subnetBase + 1)
    netmask := ⟨255, 255, 255, 0⟩ }

theorem forCid_guestIp_eq_iff (cid other : U32) : (forCid cid).guestIp = (forCid other).guestIp ↔
    guestIndex cid % 2 ^ 14 = guestIndex other % 2 ^ 14 := by
  have octet (index : Nat) : (BitVec.ofNat 8 (index % 64 * 4) + 2).toNat = index % 64 * 4 + 2 := by
    have two : (2 : U8).toNat = 2 := rfl
    simp only [BitVec.toNat_add, BitVec.toNat_ofNat, two]
    omega
  simp only [forCid, Ipv4Addr.mk.injEq, true_and, ← BitVec.toNat_inj, octet, BitVec.toNat_ofNat]
  omega

theorem forCid_congr {cid other : U32}
    (same : guestIndex cid % 2 ^ 14 = guestIndex other % 2 ^ 14) : forCid cid = forCid other := by
  have third : BitVec.ofNat 8 (guestIndex cid / 64) = BitVec.ofNat 8 (guestIndex other / 64) := by
    apply BitVec.eq_of_toNat_eq
    simp only [BitVec.toNat_ofNat]
    omega
  have fourth : guestIndex cid % 64 = guestIndex other % 64 := by omega
  simp only [forCid, third, fourth]

theorem linkForNamedNetwork_guestIp_eq_iff (networkName : Text) (cid other : U32) :
    (supernet.linkForNamedNetwork networkName cid).guestIp =
    (supernet.linkForNamedNetwork networkName other).guestIp ↔
    guestIndex cid % 253 = guestIndex other % 253 := by
  constructor
  · intro same
    have octets := (BitVec.add_right_inj _).mp (Ipv4Addr.ofBits_injective same)
    have values := congrArg BitVec.toNat octets
    simp only [BitVec.toNat_ofNat] at values
    omega
  · intro same
    simp only [NamedNetworkSupernet.linkForNamedNetwork, same]

structure NetworkConfig where
  name : Option Text
  interface : Option Text
  address : Text
  netmask : Text
  gateway : Text
  dnsServers : List Text
  defaultRoute : Bool
deriving DecidableEq

structure GuestHost where
  dnsServers : List Text
  supernet : NamedNetworkSupernet

def guestDnsServersForGateway (gateway : Ipv4Addr) : List Text :=
  gateway.toText :: host.dnsServers.filter (· ≠ gateway.toText)

def defaultGuestNetworkForCid (cid : U32) : NetworkConfig :=
  let link := forCid cid
  { name := none
    interface := some "eth0".toList
    address := link.guestIp.toText
    netmask := link.netmask.toText
    gateway := link.gatewayIp.toText
    dnsServers := guestDnsServersForGateway host link.gatewayIp
    defaultRoute := true }

def namedGuestNetworkForName (networkName : Text) (cid : U32) (index : Nat) : NetworkConfig :=
  let link := host.supernet.linkForNamedNetwork networkName cid
  { name := some networkName
    interface := some ("eth".toList ++ decimal index)
    address := link.guestIp.toText
    netmask := link.netmask.toText
    gateway := link.gatewayIp.toText
    dnsServers := guestDnsServersForGateway host link.gatewayIp
    defaultRoute := index == 0 }

def guestNetworkConfigsForVm (config : VmConfig) (cid : U32) : List NetworkConfig :=
  if !config.networkEnabled && config.ports.isEmpty && config.servicePorts.isEmpty then []
  else
    let needsHostAccessNetwork := !config.ports.isEmpty || !config.servicePorts.isEmpty
    if config.networks.isEmpty then [defaultGuestNetworkForCid host cid]
    else
      (if needsHostAccessNetwork then [defaultGuestNetworkForCid host cid] else []) ++
        config.networks.mapIdx fun index networkName =>
          namedGuestNetworkForName host networkName cid (index + needsHostAccessNetwork.toNat)

theorem guestNetworkConfigsForVm_eq_nil_iff (config : VmConfig) (cid : U32) :
    guestNetworkConfigsForVm host config cid = [] ↔ config.networkEnabled = false ∧
    config.ports = [] ∧ config.servicePorts = [] := by
  unfold guestNetworkConfigsForVm
  split
  next unattached =>
    simpa [and_assoc] using unattached
  next attached =>
    refine iff_of_false ?_ (by simpa [and_assoc] using attached)
    split
    · simp
    next named =>
      rw [List.isEmpty_iff] at named
      simp [named]

theorem defaultGuestNetworkForCid_eq_iff (cid other : U32) :
    defaultGuestNetworkForCid host cid = defaultGuestNetworkForCid host other ↔
    guestIndex cid % 2 ^ 14 = guestIndex other % 2 ^ 14 := by
  constructor
  · intro same
    have addresses := congrArg NetworkConfig.address same
    exact (forCid_guestIp_eq_iff cid other).mp (Ipv4Addr.toText_injective addresses)
  · intro same
    simp only [defaultGuestNetworkForCid, forCid_congr same]

theorem namedGuestNetworkForName_eq_iff (networkName : Text) (cid other : U32) (index : Nat) :
    namedGuestNetworkForName host networkName cid index =
    namedGuestNetworkForName host networkName other index ↔
    guestIndex cid % 253 = guestIndex other % 253 := by
  constructor
  · intro same
    have addresses := congrArg NetworkConfig.address same
    exact (linkForNamedNetwork_guestIp_eq_iff host.supernet networkName cid other).mp
      (Ipv4Addr.toText_injective addresses)
  · intro same
    simp only [namedGuestNetworkForName, NamedNetworkSupernet.linkForNamedNetwork, same]

end Visor.Backend
