import Visor.Compose.DnsAgreement

/-! The project's name is part of the names of the networks that are recorded for it. The machines
are given the services' own names for their networks, and the registry has one name space for all.
-/

namespace Visor.Compose
open Library Backend Command Orchestrator List Docker ComposeProject
variable (lowercase : Text → Text) (host : GuestHost) (sharedNetworkBridgeName : Text → Text)
  (cids : Text → U32)

/-- The bridges of the attachments. -/
def buildVmmNetworkConfigs (guestNetworks : List NetworkConfig) : List Text :=
  guestNetworks.filterMap fun network => (network.name.filter (· ≠ [])).map sharedNetworkBridgeName

/-- A service of the project is on the bridge. -/
def ComposeProject.Attached (project : ComposeProject) (bridge : Text) : Prop := ∃ entry ∈ project.services,
  bridge ∈ buildVmmNetworkConfigs sharedNetworkBridgeName
    (guestNetworkConfigsForVm host (buildVmConfig lowercase entry.1 entry.2) (cids entry.1))

/-- A service of the project asks for the network. -/
def ComposeProject.Uses (project : ComposeProject) (network : Text) : Prop :=
  network ≠ [] ∧ ∃ entry ∈ project.services, network ∈ entry.2.networks

/-- The call brings the project up or takes services of it down. -/
def Orchestrator.Call.Of (project : ComposeProject) : Call → Prop
  | .up _ brought => brought = project
  | .down deployment _ => ∀ entry ∈ deployment.services, entry.1 ∈ project.services.map (·.1)

variable {lowercase host sharedNetworkBridgeName cids} {project : ComposeProject}

private theorem names_guestNetworkConfigs (name : Text) (service : ComposeService) (cid : U32) :
    (guestNetworkConfigsForVm host (buildVmConfig lowercase name service) cid).filterMap (·.name) =
    service.networks := by
  have networks : (buildVmConfig lowercase name service).networks = service.networks := rfl
  have enabled : (buildVmConfig lowercase name service).networkEnabled = true := rfl
  have default : (defaultGuestNetworkForCid host cid).name = none := rfl
  rw [guestNetworkConfigsForVm, networks, enabled]
  split_ifs with _ none
  · contradiction
  · simp [default, isEmpty_iff.mp none]
  · simp [default, namedGuestNetworkForName, mapIdx_eq_zipIdx_map, filterMap_map]

theorem ComposeProject.attached_iff (bridge : Text) :
    project.Attached lowercase host sharedNetworkBridgeName cids bridge ↔
    ∃ network, project.Uses network ∧ sharedNetworkBridgeName network = bridge := by
  have bridges (configs : List NetworkConfig) :
    bridge ∈ buildVmmNetworkConfigs sharedNetworkBridgeName configs ↔
    ∃ network ∈ configs.filterMap (·.name), network ≠ [] ∧ sharedNetworkBridgeName network = bridge := by
    simp [buildVmmNetworkConfigs, and_assoc]
    grind
  simp only [Attached, Uses, bridges, names_guestNetworkConfigs]
  constructor
  · rintro ⟨entry, isEntry, network, uses, named, same⟩
    exact ⟨network, ⟨named, entry, isEntry, uses⟩, same⟩
  · rintro ⟨network, ⟨named, entry, isEntry, uses⟩, same⟩
    exact ⟨entry, isEntry, network, uses, named, same⟩

private theorem resolve_call {known : Text} {address : Option Ipv4Addr}
    (apart : ∀ name ∈ project.services.map (·.1), lowercase name ≠ lowercase known)
    (state : Orchestrator) (request : Call) (resolves : state.dns.resolve lowercase known = address)
    (isOf : request.Of project) : (state.call lowercase request).dns.resolve lowercase known = address := by
  cases request with
  | up surroundings brought =>
    cases isOf
    have kept : Keeps (·.1.resolve lowercase known = address) (up lowercase surroundings project) := by
      refine ensures_up surroundings project fun name named names holds => ?_
      unfold registerNext
      split
      · exact holds
      · exact (AList.lookup_insert_ne (apart name named).symm).trans holds
    exact kept state resolves
  | down deployment stopped =>
    have kept : Keeps (·.1.resolve lowercase known = address) (down lowercase deployment stopped) :=
      ensures_down deployment stopped fun entry isEntry names =>
        (AList.lookup_erase_ne (apart _ (isOf entry isEntry)).symm).trans
    exact kept state resolves

theorem projects_isolated (lowercase : Text → Text) (host : GuestHost)
    (sharedNetworkBridgeName : Text → Text) (injective : Function.Injective sharedNetworkBridgeName)
    (cids otherCids : Text → U32) (one other : ComposeProject) :
    ((∀ bridge, one.Attached lowercase host sharedNetworkBridgeName cids bridge →
      ¬other.Attached lowercase host sharedNetworkBridgeName otherCids bridge) ↔
      ∀ network, one.Uses network → ¬other.Uses network) ∧
    ((∀ state requests, (∀ request ∈ requests, Call.Of one request) →
      ∀ known ∈ other.services.map (·.1),
        (run (call lowercase) state requests).dns.resolve lowercase known =
          state.dns.resolve lowercase known) ↔
      ∀ name ∈ one.services.map (·.1), ∀ known ∈ other.services.map (·.1),
        lowercase name ≠ lowercase known) := by
  constructor
  · simp only [attached_iff]
    constructor
    · intro apart network uses used
      exact apart _ ⟨network, uses, rfl⟩ ⟨network, used, rfl⟩
    · rintro apart _ ⟨network, uses, rfl⟩ ⟨_, used, same⟩
      exact apart network uses (injective same ▸ used)
  · refine ⟨fun kept name named known isKnown same => ?_,
      fun apart state requests isOf known isKnown => ?_⟩
    · let filled := DnsRegistry.register lowercase ∅ known ⟨0, 0, 0, 0⟩
      have lost : (filled.unregister lowercase name).resolve lowercase known =
          filled.resolve lowercase known :=
        kept { Orchestrator.new with dns := filled } [.down ⟨[(name, ⟨[], none⟩)], []⟩ false]
          (by simpa [Call.Of] using named) known isKnown
      simp [filled, DnsRegistry.unregister, DnsRegistry.resolve, DnsRegistry.register, same,
        -AList.insert_empty] at lost
    exact invariant_run
      (fun after : Orchestrator => after.dns.resolve lowercase known = state.dns.resolve lowercase known)
      (resolve_call fun name named => apart name named known isKnown) rfl (along_of_forall isOf)

def single (name service network : Text) : ComposeProject where
  name := some name
  services := [(service, { plainService with networks := [network] })]
  distinct := by simp
  networks := [network]

theorem isolated_singles :
    (∀ bridge, (single ['a'] ['x'] ['n']).Attached asciiLowercase plainHost id (fun _ => 3) bridge →
      ¬(single ['b'] ['y'] ['m']).Attached asciiLowercase plainHost id (fun _ => 4) bridge) ∧
    (call asciiLowercase .new (.up inBootOrder (single ['a'] ['x'] ['n']))).dns.resolve
    asciiLowercase ['y'] = none := by
  have isolated := projects_isolated asciiLowercase plainHost id Function.injective_id (fun _ => 3)
    (fun _ => 4)
    (single ['a'] ['x'] ['n']) (single ['b'] ['y'] ['m'])
  refine ⟨isolated.1.mpr ?_,
    isolated.2.mpr (by decide) .new [.up inBootOrder (single ['a'] ['x'] ['n'])] ?_ ['y'] (by decide)⟩
  · rintro network ⟨_, _, _ | ⟨_, ⟨⟩⟩, _ | ⟨_, ⟨⟩⟩⟩
    simp [Uses, single]
  · simp [Call.Of]

/-- Two projects meet on one bridge, and the second one's service takes over the name of the first one's. -/
theorem singles_meet :
    (∃ bridge, (single ['a'] ['x'] ['n']).Attached asciiLowercase plainHost id (fun _ => 3) bridge ∧
    (single ['b'] ['x'] ['n']).Attached asciiLowercase plainHost id (fun _ => 4) bridge) ∧
    let first := call asciiLowercase .new (.up inBootOrder (single ['a'] ['x'] ['n']))
    (call asciiLowercase first (.up inBootOrder (single ['b'] ['x'] ['n']))).dns.resolve
      asciiLowercase ['x'] ≠
      first.dns.resolve asciiLowercase ['x'] :=
  ⟨⟨['n'], ⟨_, .head _, by decide⟩, ⟨_, .head _, by decide⟩⟩, by decide +kernel⟩

end Visor.Compose
