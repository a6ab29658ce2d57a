import Visor.Backend.Addressing
import Visor.Compose.Orchestrator

/-! The registry gets the addresses of a counter that all projects share, the guests those of their
CIDs. The two agree only where the counter happens to meet the CID. -/

namespace Visor.Compose
open Library Backend Command Orchestrator List BitVec GuestNetworkLink Ipv4Addr Docker DnsRegistry
namespace SubnetAllocator
def capacity : Nat := 253
def addressAt (count : Nat) : Ipv4Addr := .ofBits (0xac140000 + BitVec.ofNat 32 (count + 2))

structure Counted (allocator : SubnetAllocator) (count : Nat) : Prop where
  base : allocator.base = 0xac140000
  prefixLen : allocator.prefixLen = 24
  next : allocator.nextCandidate = count + 2
  taken : ∀ offset, offset ∈ allocator.allocated ↔ 2 ≤ offset ∧ offset < count + 2
  length : allocator.allocated.length = count
  bound : count ≤ capacity

theorem counted_defaultNetwork : Counted defaultNetwork 0 := by
  constructor
  case taken =>
    intro offset
    exact ⟨nofun, fun ⟨first, last⟩ => absurd last (by omega)⟩
  all_goals decide

variable {allocator : SubnetAllocator} {count : Nat}
section
variable (counted : Counted allocator count)
include counted

theorem Counted.hostCount : allocator.hostCount = 256 := by
  rw [SubnetAllocator.hostCount, counted.prefixLen]
  rfl

theorem Counted.allocate (free : count < capacity) :
    ∃ next, allocator.allocate = some (addressAt count, next) ∧ Counted next (count + 1) := by
  have hosts := counted.hostCount
  have small : count < 253 := free
  have found : allocator.search (allocator.hostCount + 1) allocator.nextCandidate = some (count + 2) := by
    have unused : count + 2 ∉ allocator.allocated := by
      rw [counted.taken]
      omega
    rw [search, counted.next, hosts]
    rw [if_neg (by omega), if_pos unused]
  refine ⟨_, by rw [SubnetAllocator.allocate, found, Option.map_some, addressAt, ← counted.base], ?_⟩
  have following : allocator.following (count + 2) = count + 1 + 2 := by
    rw [SubnetAllocator.following, hosts, if_neg (by omega)]
  refine ⟨counted.base, counted.prefixLen, following, fun offset => ?_, ?_, free⟩
  · simp only [mem_cons, counted.taken]
    omega
  · rw [length_cons, counted.length]

theorem Counted.allocate_full (full : count = capacity) : allocator.allocate = none := by
  have hosts := counted.hostCount
  have last : count = 253 := full
  -- every offset up to the last one is taken, and there the search is back at its start
  have onward (fuel offset : Nat) (low : 2 ≤ offset) (high : offset ≤ 254) :
    allocator.search fuel offset = none := by
    induction fuel generalizing offset with
    | zero => rfl
    | succ fuel ih =>
      have used : offset ∈ allocator.allocated := by
        rw [counted.taken]
        omega
      have following : allocator.following offset = offset + 1 := by
        rw [SubnetAllocator.following, hosts, if_neg (by omega)]
      rw [search, hosts, following, counted.next, if_neg (by omega), if_neg (not_not.mpr used)]
      split
      · rfl
      · exact ih (offset + 1) (by omega) (by omega)
  have following : allocator.following (count + 2) = 2 := by
    rw [SubnetAllocator.following, hosts, if_pos (by omega)]
  rw [SubnetAllocator.allocate, search, counted.next, following, hosts, if_pos (by omega),
    if_neg (by omega), onward _ 2 (by omega) (by omega)]
  rfl

end
end SubnetAllocator

open SubnetAllocator (Counted addressAt capacity)
variable {lowercase : Text → Text} {ordinal : Nat} (host : GuestHost) (name : Text)
  (service : ComposeService) (cid : U32)

/-- The number of the last service of the list that is known by the name and gets an address,
counted from `count`. -/
def lastOrdinal (lowercase : Text → Text) (count : Nat) : List Text → Text → Option Nat
  | [], _ => none
  | first :: rest, name =>
    match lastOrdinal lowercase (count + 1) rest name with
    | some ordinal => some ordinal
    | none => if lowercase first = lowercase name ∧ count < capacity then some count else none

theorem resolve_registered {names : DnsRegistry × SubnetAllocator} (count : Nat)
    (counted : Counted names.2 (min count capacity)) (services : List Text) (name : Text) :
    (services.foldl (registerNext lowercase) names).1.resolve lowercase name =
    ((lastOrdinal lowercase count services name).map addressAt).or (names.1.resolve lowercase name) := by
  induction services generalizing names count with
  | nil => simp [lastOrdinal]
  | cons first rest ih =>
    rw [foldl_cons]
    by_cases free : count < capacity
    · rw [Nat.min_eq_left free.le] at counted
      obtain ⟨next, allocated, countedNext⟩ := counted.allocate free
      have registered : registerNext lowercase names first =
        (names.1.register lowercase first (addressAt count), next) := by
        simp [registerNext, allocated]
      rw [registered, ih (count + 1) (by rwa [Nat.min_eq_left free]), lastOrdinal]
      cases lastOrdinal lowercase (count + 1) rest name with
      | some => simp
      | none =>
        simp only [Option.map_none, Option.none_or, resolve, register, KeyedMap.lookup_insert_eq,
          free, and_true]
        by_cases same : lowercase first = lowercase name
        · simp [same]
        · simp [same, Ne.symm same]
    · have full : min count capacity = capacity := Nat.min_eq_right (Nat.le_of_not_lt free)
      have unchanged : registerNext lowercase names first = names := by
        simp [registerNext, counted.allocate_full full]
      have stays : min (count + 1) capacity = min count capacity := by omega
      rw [unchanged, ih (count + 1) (by rwa [stays]), lastOrdinal]
      cases lastOrdinal lowercase (count + 1) rest name with
      | some => simp
      | none => simp [free]

theorem counted_registerNext {names : DnsRegistry × SubnetAllocator} {count : Nat}
    (counted : Counted names.2 count) (name : Text) :
    ∃ next, Counted (registerNext lowercase names name).2 next := by
  by_cases free : count < capacity
  · obtain ⟨next, allocated, countedNext⟩ := counted.allocate free
    exact ⟨count + 1, by simpa [registerNext, allocated] using countedNext⟩
  · have full := counted.allocate_full (Nat.le_antisymm counted.bound (Nat.le_of_not_lt free))
    exact ⟨count, by simpa [registerNext, full] using counted⟩

namespace Orchestrator
def names (state : Orchestrator) : DnsRegistry × SubnetAllocator := (state.dns, state.ipAlloc)

variable (property : DnsRegistry × SubnetAllocator → Prop) (surroundings : Surroundings)
  (project : ComposeProject) (networkIds : List (Text × Text))

abbrev Keeps {Value : Type} (command : Deploy Value) : Prop :=
  Ensures (fun state => property state.names) command fun state => property state.names

theorem ensures_createNetworks (projectName : Text) (networks : List Text) :
    Keeps property (createNetworks surroundings projectName networks) := by
  induction networks with
  | nil => exact ensures_pure _
  | cons name rest ih =>
    have created :
      Keeps property (createNetwork (projectName ++ '_' :: name) (surroundings.networkId name)) :=
      (ensures_inspect _).then fun _ _ holds => holds
    exact created.then fun _ => ih.then fun _ => ensures_pure _

theorem ensures_connectAll (vmId : Text) (networks : List Text) :
    Keeps property (networks.forM (connectDeclared networkIds vmId)) := by
  refine ensures_forM fun network _ => ?_
  unfold connectDeclared
  split
  · exact (ensures_inspect _).then fun _ _ holds => holds
  · exact ensures_pure _

theorem inspect_eq_ok {Value : Type} {look : Orchestrator → Except ComposeError Value}
    {state last : Orchestrator} {value : Value}
    (done : (inspect look : Deploy Value) state = (.ok value, last)) :
    look state = .ok value ∧ state = last := ⟨congrArg Prod.fst done, congrArg Prod.snd done⟩

section
variable {surroundings : Surroundings} {project : ComposeProject} {state last : Orchestrator}

private theorem bootService_ok {networkIds : List (Text × Text)} {name : Text} {vm : CreatedVm}
    (done : bootService lowercase surroundings project networkIds name state = (.ok vm, last)) :
    surroundings.create name = some vm ∧ last.names = registerNext lowercase state.names name := by
  obtain ⟨service, _, found, done⟩ := bind_eq_ok.mp done
  cases (inspect_eq_ok found).2
  obtain ⟨created, _, made, done⟩ := bind_eq_ok.mp done
  obtain ⟨isMade, rfl⟩ := inspect_eq_ok made
  obtain ⟨_, connected, connects, done⟩ := bind_eq_ok.mp done
  obtain ⟨_, registered, registers, done⟩ := bind_eq_ok.mp done
  obtain ⟨_, _, healthy, done⟩ := bind_eq_ok.mp done
  cases (inspect_eq_ok healthy).2
  have same : connected.names = state.names := by
    have kept := ensures_connectAll (· = state.names) networkIds created.id service.networks state rfl
    rwa [connects] at kept
  cases done
  cases registers
  refine ⟨?_, by rw [← same]; rfl⟩
  split at isMade
  · cases isMade
    assumption
  · cases isMade

private theorem bootServices_ok {networkIds : List (Text × Text)} {services : List Text}
    {booted : List (Text × CreatedVm)}
    (done : bootServices lowercase surroundings project networkIds services state =
      (.ok booted, last)) : booted.map (·.1) = services ∧
    (∀ entry ∈ booted, surroundings.create entry.1 = some entry.2) ∧
    last.names = services.foldl (registerNext lowercase) state.names := by
  induction services generalizing state booted with
  | nil =>
    cases done
    exact ⟨rfl, nofun, rfl⟩
  | cons name rest ih =>
    obtain ⟨vm, between, first, done⟩ := bind_eq_ok.mp done
    obtain ⟨others, _, later, done⟩ := bind_eq_ok.mp done
    cases done
    obtain ⟨created, registered⟩ := bootService_ok first
    obtain ⟨listed, all, final⟩ := ih later
    refine ⟨by rw [map_cons, listed], fun entry mem => ?_, by
      rw [final, registered, foldl_cons]⟩
    rcases mem_cons.mp mem with rfl | old
    · exact created
    · exact all entry old

theorem up_ok {deployment : ComposeInstance}
    (done : up lowercase surroundings project state = (.ok deployment, last)) :
    ∃ order, dependencySort project = .ok order ∧ deployment.services.map (·.1) = order ∧
    (∀ entry ∈ deployment.services, surroundings.create entry.1 = some entry.2) ∧
    last.names = order.foldl (registerNext lowercase) state.names := by
  obtain ⟨networkIds, networked, created, done⟩ := bind_eq_ok.mp done
  obtain ⟨order, _, sorted, done⟩ := bind_eq_ok.mp done
  obtain ⟨isOrder, rfl⟩ := inspect_eq_ok sorted
  obtain ⟨services, _, booted, done⟩ := bind_eq_ok.mp done
  cases done
  have same : networked.names = state.names := by
    have kept := ensures_createNetworks (· = state.names) surroundings
      (project.name.getD "default".toList) project.networks state rfl
    rwa [created] at kept
  obtain ⟨listed, all, final⟩ := bootServices_ok booted
  exact ⟨order, isOrder, listed, all, same ▸ final⟩

end

section
variable {property}

private theorem ensures_bootServices (services : List Text)
    (registers : ∀ name ∈ services, ∀ names, property names →
      property (registerNext lowercase names name)) : Keeps property
    (bootServices lowercase surroundings project networkIds services) := by
  induction services with
  | nil => exact ensures_pure _
  | cons name rest ih =>
    rw [forall_mem_cons] at registers
    have booted : Keeps property (bootService lowercase surroundings project networkIds name) :=
      (ensures_inspect _).then fun service =>
        (ensures_inspect _).then fun vm =>
        (ensures_connectAll property networkIds vm.id service.networks).then fun _ =>
        Ensures.then (fun _ => registers.1 _) fun _ => (ensures_inspect _).then fun _ => ensures_pure _
    exact booted.then fun _ => (ih registers.2).then fun _ => ensures_pure _

theorem ensures_up (registers : ∀ name ∈ project.services.map (·.1), ∀ names, property names →
      property (registerNext lowercase names name)) : Keeps property (up lowercase surroundings project) :=
  (ensures_createNetworks property surroundings _ project.networks).then fun networkIds =>
    ensures_inspect_bind (fun order state ⟨holds, sorted⟩ =>
      ((ensures_bootServices surroundings project networkIds order fun name inOrder =>
        registers name ((dependencySort_perm sorted).1.subset inOrder)).then fun _ =>
          ensures_pure _) state holds) fun _ holds => holds

theorem ensures_down (deployment : ComposeInstance) (stopped : Bool)
    (unregisters : ∀ entry ∈ deployment.services, ∀ names : DnsRegistry × SubnetAllocator,
      property names → property (names.1.unregister lowercase entry.1, names.2)) : Keeps property
    (down lowercase deployment stopped) := by
  have deleted (networkId : Text) : Keeps property (deleteNetwork networkId) :=
    (ensures_inspect _).then fun _ _ holds => holds
  refine Ensures.then (fun state holds => ?_) fun _ =>
    ensures_require_bind (fun _ => ensures_forM fun entry _ => deleted entry.2) fun _ holds => holds
  exact foldlRecOn (motive := fun dns => property (dns, state.ipAlloc)) deployment.services _ holds
    fun dns holds entry isEntry => unregisters entry isEntry (dns, state.ipAlloc) holds

end

def InOrder (names : DnsRegistry × SubnetAllocator) : Prop := ∃ count, Counted names.2 count

private theorem inOrder_call {state : Orchestrator} (ordered : InOrder state.names) (request : Call) :
    InOrder (state.call lowercase request).names := by
  cases request with
  | up surroundings project =>
    exact ensures_up surroundings project
      (fun name _ _ ⟨_, counted⟩ => counted_registerNext counted name) state ordered
  | down deployment stopped => exact ensures_down deployment stopped (fun _ _ _ => id) state ordered

theorem counted_history (lowercase : Text → Text) (history : List Call) :
    let state := run (call lowercase) new history
    Counted state.ipAlloc state.ipAlloc.allocated.length := by
  have ordered : InOrder (run (call lowercase) new history).names :=
    stable_run (fun state : Orchestrator => InOrder state.names) history
      (fun _ request ordered => inOrder_call ordered request)
      ⟨0, SubnetAllocator.counted_defaultNetwork⟩
  obtain ⟨count, counted⟩ := ordered
  have sameCount : (run (call lowercase) new history).ipAlloc.allocated.length = count := counted.length
  intro state
  rw [sameCount]
  exact counted

end Orchestrator

def guestAddresses (lowercase : Text → Text) (host : GuestHost) (name : Text)
    (service : ComposeService) (cid : U32) : List Text :=
  (guestNetworkConfigsForVm host (buildVmConfig lowercase name service) cid).map (·.address)

def ComposeService.Publishes (service : ComposeService) : Prop :=
  ∃ port ∈ service.ports, (composePortToPortMapping port).isSome = true

/-- The counter meets the CID: on the link to the host each fourth address is a guest's, on a
named network all of them are, if its subnet is that of the counter. -/
def Meets (host : GuestHost) (service : ComposeService) (cid : U32) (ordinal : Nat) : Prop :=
  ((service.networks = [] ∨ service.Publishes) ∧ ordinal % 4 = 0 ∧
    guestIndex cid % 2 ^ 14 = ordinal / 4) ∨
    ∃ network ∈ service.networks, host.supernet.subnetBase network = 0xac140000 ∧
      guestIndex cid % 253 = ordinal

theorem addressAt_toNat (small : ordinal < capacity) :
    ((0xac140000 : U32) + BitVec.ofNat 32 (ordinal + 2)).toNat = 0xac140000 + ordinal + 2 := by
  have bound : ordinal < 253 := small
  have base : (0xac140000 : U32).toNat = 0xac140000 := rfl
  rw [toNat_add, base, toNat_ofNat]
  omega

private theorem addressAt_eq (small : ordinal < capacity) :
    addressAt ordinal = ⟨172, 20, 0, BitVec.ofNat 8 (ordinal + 2)⟩ := by
  have bound : ordinal < 253 := small
  have first : (172 : U8).toNat = 172 := rfl
  have second : (20 : U8).toNat = 20 := rfl
  have third : (0 : U8).toNat = 0 := rfl
  simp only [addressAt, ofBits, Ipv4Addr.mk.injEq, ← toNat_inj,
    extractLsb'_toNat, addressAt_toNat small, Nat.shiftRight_eq_div_pow, first, second, third, toNat_ofNat]
  omega

theorem forCid_guestIp_eq_addressAt_iff (small : ordinal < capacity) :
    (forCid cid).guestIp = addressAt ordinal ↔ ordinal % 4 = 0 ∧ guestIndex cid % 2 ^ 14 = ordinal / 4 := by
  have bound : ordinal < 253 := small
  have two : (2 : U8).toNat = 2 := rfl
  have zero : (0 : U8).toNat = 0 := rfl
  rw [addressAt_eq small]
  simp only [forCid, Ipv4Addr.mk.injEq, true_and, ← toNat_inj, toNat_add, toNat_ofNat, two, zero]
  omega

theorem namedLink_guestIp_eq_addressAt_iff (supernet : NamedNetworkSupernet) (network : Text)
    (cid : U32) (small : ordinal < capacity) :
    (supernet.linkForNamedNetwork network cid).guestIp = addressAt ordinal ↔
    supernet.subnetBase network = 0xac140000 ∧ guestIndex cid % 253 = ordinal := by
  have bound : ordinal < 253 := small
  have base : (0xac140000 : U32).toNat = 0xac140000 := rfl
  obtain ⟨number, block, limit⟩ := subnetBase_block supernet network
  have bits : (supernet.linkForNamedNetwork network cid).guestIp = addressAt ordinal ↔
    supernet.subnetBase network + BitVec.ofNat 32 (2 + guestIndex cid % 253) =
      0xac140000 + BitVec.ofNat 32 (ordinal + 2) :=
    ⟨ofBits_injective, congrArg ofBits⟩
  rw [bits]
  simp only [← toNat_inj, addressAt_toNat small, toNat_add, toNat_ofNat, block, base]
  omega

private theorem publishes_iff : (buildVmConfig lowercase name service).ports ≠ [] ↔ service.Publishes := by
  constructor
  · intro some
    obtain ⟨mapping, mem⟩ := exists_mem_of_ne_nil _ some
    obtain ⟨port, isPort, made⟩ := mem_filterMap.mp mem
    exact ⟨port, isPort, by rw [made]; rfl⟩
  · rintro ⟨port, isPort, made⟩
    obtain ⟨mapping, made⟩ := Option.isSome_iff_exists.mp made
    exact ne_nil_of_mem (mem_filterMap.mpr ⟨port, isPort, made⟩)

theorem mem_guestAddresses_iff (address : Ipv4Addr) :
    address.toText ∈ guestAddresses lowercase host name service cid ↔
    ((service.networks = [] ∨ service.Publishes) ∧ (forCid cid).guestIp = address) ∨
    ∃ network ∈ service.networks, (host.supernet.linkForNamedNetwork network cid).guestIp = address := by
  have texts (link : GuestNetworkLink) : address.toText = link.guestIp.toText ↔ link.guestIp = address :=
    ⟨fun same => (toText_injective same).symm, fun same => congrArg _ same.symm⟩
  have named (offset : Nat) : address.toText ∈ (service.networks.mapIdx fun index network =>
    namedGuestNetworkForName host network cid (index + offset)).map (·.address) ↔
      ∃ network ∈ service.networks, (host.supernet.linkForNamedNetwork network cid).guestIp = address := by
    simp only [mem_map, mem_mapIdx]
    constructor
    · rintro ⟨_, ⟨index, inside, rfl⟩, same⟩
      exact ⟨_, getElem_mem inside, (texts _).mp same.symm⟩
    · rintro ⟨network, isNetwork, same⟩
      obtain ⟨index, inside, rfl⟩ := mem_iff_getElem.mp isNetwork
      exact ⟨_, ⟨index, inside, rfl⟩, ((texts _).mpr same).symm⟩
  have published : (buildVmConfig lowercase name service).ports ≠ [] ↔ service.Publishes :=
    publishes_iff name service
  have enabled : (buildVmConfig lowercase name service).networkEnabled = true := rfl
  have noServicePorts : (buildVmConfig lowercase name service).servicePorts = [] := rfl
  have networks : (buildVmConfig lowercase name service).networks = service.networks := rfl
  have link : (defaultGuestNetworkForCid host cid).address = (forCid cid).guestIp.toText := rfl
  unfold guestAddresses guestNetworkConfigsForVm
  rw [enabled, noServicePorts, networks]
  by_cases isEmpty : service.networks = []
  · simp [isEmpty, link, texts]
  · by_cases ports : (buildVmConfig lowercase name service).ports = []
    · have unpublished : ¬ service.Publishes := fun yes => published.mpr yes ports
      simpa [isEmpty, ports, unpublished] using named 0
    · have publishes := published.mp ports
      simpa [isEmpty, ports, publishes, link, texts] using or_congr_right (named _)

theorem addressAt_mem_guestAddresses_iff (small : ordinal < capacity) :
    (addressAt ordinal).toText ∈ guestAddresses lowercase host name service cid ↔
    Meets host service cid ordinal := by
  simp only [mem_guestAddresses_iff, forCid_guestIp_eq_addressAt_iff cid small,
    namedLink_guestIp_eq_addressAt_iff host.supernet _ cid small, Meets]

theorem lastOrdinal_lt {count ordinal : Nat} {services : List Text} {name : Text}
    (last : lastOrdinal lowercase count services name = some ordinal) : ordinal < capacity := by
  induction services generalizing count with
  | nil => cases last
  | cons first rest ih =>
    rw [lastOrdinal] at last
    split at last
    next found =>
      cases last
      exact ih found
    · split at last
      next here =>
        cases last
        exact here.2
      · cases last

theorem ComposeProject.mem_names {project : ComposeProject} {name : Text} {service : ComposeService}
    (found : project.service name = some service) : name ∈ project.services.map (·.1) := by
  obtain ⟨entry, isEntry, _⟩ := Option.map_eq_some_iff.mp found
  have named : entry.1 = name := by simpa using find?_some isEntry
  exact named ▸ mem_map_of_mem (mem_of_find?_eq_some isEntry)

/-- The registry leads each service name to an address of its guest. -/
def Resolves (lowercase : Text → Text) (host : GuestHost) (project : ComposeProject)
    (deployment : ComposeInstance) (state : Orchestrator) : Prop :=
  ∀ name service, project.service name = some service →
    ∃ vm cid address, (name, vm) ∈ deployment.services ∧ vm.cid = some cid ∧
      state.dns.resolve lowercase name = some address ∧
      address.toText ∈ guestAddresses lowercase host name service cid

/-- The number of the last service with the name meets the service's CID; or there is no address
left for it, and the name has been registered with an address of the guest before. -/
def Coincides (lowercase : Text → Text) (host : GuestHost) (before : Orchestrator)
    (surroundings : Surroundings) (order : List Text) (name : Text) (service : ComposeService) : Prop :=
  ∃ vm cid, surroundings.create name = some vm ∧ vm.cid = some cid ∧
    match lastOrdinal lowercase before.ipAlloc.allocated.length order name with
    | some ordinal => Meets host service cid ordinal
    | none => ∃ address, before.dns.resolve lowercase name = some address ∧
      address.toText ∈ guestAddresses lowercase host name service cid

theorem compose_dns_iff (lowercase : Text → Text) (host : GuestHost) (history : List Call)
    (surroundings : Surroundings) (project : ComposeProject) (deployment : ComposeInstance)
    (before after : Orchestrator) (reached : before = run (call lowercase) .new history)
    (done : up lowercase surroundings project before = (.ok deployment, after)) :
    Resolves lowercase host project deployment after ↔ ∀ order, dependencySort project = .ok order →
    ∀ name service, project.service name = some service →
    Coincides lowercase host before surroundings order name service := by
  obtain ⟨order, sorted, listed, created, names⟩ := up_ok done
  have counted : Counted before.names.2 (min before.ipAlloc.allocated.length capacity) := by
    have inOrder := counted_history lowercase history
    rw [← reached] at inOrder
    rwa [Nat.min_eq_left inOrder.bound]
  have resolved (name : Text) : after.dns.resolve lowercase name =
    ((lastOrdinal lowercase before.ipAlloc.allocated.length order name).map addressAt).or
      (before.dns.resolve lowercase name) := by
    have registered : (order.foldl (registerNext lowercase) before.names).1.resolve
      lowercase name = _ := resolve_registered _ counted order name
    rwa [← names] at registered
  have machine (name : Text) (service : ComposeService)
    (isService : project.service name = some service) :
    ∃ vm, (name, vm) ∈ deployment.services ∧ surroundings.create name = some vm := by
    have ordered := (dependencySort_perm sorted).1.mem_iff.mpr (ComposeProject.mem_names isService)
    rw [← listed] at ordered
    obtain ⟨⟨_, vm⟩, isEntry, rfl⟩ := mem_map.mp ordered
    exact ⟨vm, isEntry, created _ isEntry⟩
  -- the address that a name gets is the guest's exactly if its number meets the CID
  have agrees (name : Text) (service : ComposeService) (cid : U32) :
    (∃ address, after.dns.resolve lowercase name = some address ∧
      address.toText ∈ guestAddresses lowercase host name service cid) ↔
    match lastOrdinal lowercase before.ipAlloc.allocated.length order name with
    | some ordinal => Meets host service cid ordinal
    | none => ∃ address, before.dns.resolve lowercase name = some address ∧
      address.toText ∈ guestAddresses lowercase host name service cid := by
    rw [resolved name]
    cases last : lastOrdinal lowercase before.ipAlloc.allocated.length order name with
    | none => simp
    | some => simp [addressAt_mem_guestAddresses_iff host name service cid (lastOrdinal_lt last)]
  constructor
  · intro resolves other sortedToo name service isService
    cases sorted.symm.trans sortedToo
    obtain ⟨vm, cid, address, isEntry, hasCid, isAddress, configured⟩ := resolves name service isService
    exact ⟨vm, cid, created _ isEntry, hasCid,
      (agrees name service cid).mp ⟨address, isAddress, configured⟩⟩
  · intro coincide name service isService
    obtain ⟨vm, cid, made, hasCid, meets⟩ := coincide order sorted name service isService
    obtain ⟨_, isEntry, madeToo⟩ := machine name service isService
    cases made.symm.trans madeToo
    obtain ⟨address, isAddress, configured⟩ := (agrees name service cid).mpr meets
    exact ⟨vm, cid, address, isEntry, hasCid, isAddress, configured⟩

def asciiLowercase (text : Text) : Text := text.map Char.toLower

def plainService : ComposeService where
  image := "alpine".toList
  command := none
  environment := .empty
  ports := []
  dependsOn := .empty
  networks := []
  memLimit := none
  workingDir := none

def webAlone : ComposeProject where
  name := none
  services := [("web".toList, plainService)]
  distinct := by decide
  networks := []

def webAndDb : ComposeProject where
  name := none
  services := [("web".toList, plainService), ("db".toList, plainService)]
  distinct := by decide
  networks := []

def inBootOrder : Surroundings where
  networkId name := name
  create name :=
    if name = "db".toList then some ⟨"vm-db".toList, some 3⟩
    else some ⟨"vm-web".toList, some 4⟩
  healthy _ := true

/-- The first guest of all gets the first address, in the registry too. -/
theorem first_service_coincides :
    ∃ deployment after, up asciiLowercase ⟨id, fun _ => some ⟨[], some 3⟩, fun _ => true⟩ webAlone
    .new = (.ok deployment, after) ∧
    (Resolves asciiLowercase plainHost webAlone deployment after ↔
      ∀ order, dependencySort webAlone = .ok order → ∀ name service, webAlone.service name =
      some service →
      Coincides asciiLowercase plainHost .new ⟨id, fun _ => some ⟨[], some 3⟩, fun _ => true⟩ order
      name service) :=
  ⟨_, _, rfl, compose_dns_iff asciiLowercase plainHost [] _ webAlone _ _ _ rfl rfl⟩

/-- The second service is registered with `172.20.0.3`, and its guest has `172.20.0.6`. -/
theorem second_service_misnamed :
    ∃ deployment after, up asciiLowercase inBootOrder webAndDb .new = (.ok deployment, after) ∧
    ¬ Resolves asciiLowercase plainHost webAndDb deployment after := by
  refine ⟨_, _, rfl, fun resolves => ?_⟩
  obtain ⟨vm, cid, address, isEntry, hasCid, isAddress, configured⟩ :=
    resolves "web".toList plainService rfl
  have registered : some ⟨172, 20, 0, 3⟩ = some address := isAddress
  have booted : ("web".toList, vm) ∈ [("db".toList, (⟨"vm-db".toList, some 3⟩ : CreatedVm)),
    ("web".toList, ⟨"vm-web".toList, some 4⟩)] := isEntry
  cases registered
  rcases booted with _ | ⟨_, _ | ⟨_, ⟨⟩⟩⟩
  cases hasCid
  exact absurd configured (by decide +kernel)

end Visor.Compose
