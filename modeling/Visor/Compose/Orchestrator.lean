import Visor.Compose.Project
import Visor.Library.Command
import Visor.Library.Run
import Visor.Net.Dns
import Visor.Net.IpAlloc

/-! Bringing projects up and down, with the registry of names and the allocator of addresses that
all projects share. What the backend answers comes with each call. -/

namespace Visor.Compose
open Library Backend

structure NetworkInfo where
  name : Text
  connectedVms : List Text

structure NetworkManager where
  networks : KeyedMap Text NetworkInfo
  nameIndex : KeyedMap Text Text

structure Orchestrator where
  networks : NetworkManager
  dns : DnsRegistry
  ipAlloc : SubnetAllocator

def Orchestrator.new : Orchestrator where
  networks := ⟨∅, ∅⟩
  dns := ∅
  ipAlloc := .defaultNetwork

structure CreatedVm where
  id : Text
  cid : Option U32

structure ComposeInstance where
  services : List (Text × CreatedVm)
  networks : List (Text × Text)

/-- What the surroundings decide for a call of `up`: the ids of new networks, the machine that the
backend makes for a service, if it does, and whether it becomes healthy in time. -/
structure Surroundings where
  networkId : Text → Text
  create : Text → Option CreatedVm
  healthy : Text → Bool

abbrev Deploy := Command Orchestrator ComposeError

namespace Orchestrator
def setNetworks (orchestrator : Orchestrator) (networks : NetworkManager) : Orchestrator :=
  { orchestrator with networks := networks }

def createNetwork (name id : Text) : Deploy Unit := do
  .inspect fun state => if (state.networks.nameIndex.lookup name).isSome then .error
    (.networkExists name) else .ok ()
  .update fun state => state.setNetworks
    { networks := state.networks.networks.insert id ⟨name, []⟩
      nameIndex := state.networks.nameIndex.insert name id }

def connectVm (networkId vmId : Text) : Deploy Unit := do
  .inspect fun state =>
    if (state.networks.networks.lookup networkId).isSome then .ok ()
    else .error (.networkNotFound networkId)
  .update fun state => state.setNetworks
    { state.networks with
      networks := state.networks.networks.modify networkId fun info =>
        if vmId ∈ info.connectedVms then info
        else { info with connectedVms := info.connectedVms ++ [vmId] } }

def deleteNetwork (networkId : Text) : Deploy Unit := do
  let info ← .inspect fun state =>
    match state.networks.networks.lookup networkId with
    | some info => .ok info
    | none => .error (.networkNotFound networkId)
  .update fun state => state.setNetworks
    { networks := state.networks.networks.erase networkId
      nameIndex := state.networks.nameIndex.erase info.name }

def createNetworks (surroundings : Surroundings) (projectName : Text) : List Text →
    Deploy (List (Text × Text))
  | [] => pure []
  | name :: names => do
    let id := surroundings.networkId name
    createNetwork (projectName ++ '_' :: name) id
    let others ← createNetworks surroundings projectName names
    return (name, id) :: others

variable (lowercase : Text → Text) (surroundings : Surroundings) (project : ComposeProject)
  (networkIds : List (Text × Text))

def registerNext (names : DnsRegistry × SubnetAllocator) (name : Text) : DnsRegistry × SubnetAllocator :=
  match names.2.allocate with
  | none => names
  | some (address, ipAlloc) => (names.1.register lowercase name address, ipAlloc)

def registerService (state : Orchestrator) (name : Text) : Orchestrator :=
  let (dns, ipAlloc) := registerNext lowercase (state.dns, state.ipAlloc) name
  { state with dns := dns, ipAlloc := ipAlloc }

def awaitHealth (name : Text) (vm : CreatedVm) : Except ComposeError Unit :=
  if needsHealthWait name project then
    if vm.cid.isNone then .error (.noCid name)
    else if surroundings.healthy name then .ok ()
    else .error (.unhealthy name)
  else .ok ()

/-- A network that the project does not declare is passed over. -/
def connectDeclared (vmId network : Text) : Deploy Unit :=
  match networkIds.find? (·.1 = network) with
  | some (_, id) => connectVm id vmId
  | none => pure ()

def bootService (name : Text) : Deploy CreatedVm := do
  let service ← .inspect fun _ =>
    match project.service name with
    | some service => .ok service
    | none => .error (.create name)
  let vm ← .inspect fun _ =>
    match surroundings.create name with
    | some vm => .ok vm
    | none => .error (.create name)
  service.networks.forM (connectDeclared networkIds vm.id)
  .update fun state => state.registerService lowercase name
  .inspect fun _ => awaitHealth surroundings project name vm
  return vm

def bootServices (surroundings : Surroundings) (project : ComposeProject)
    (networkIds : List (Text × Text)) : List Text → Deploy (List (Text × CreatedVm))
  | [] => pure []
  | name :: names => do
    let vm ← bootService lowercase surroundings project networkIds name
    let others ← bootServices surroundings project networkIds names
    return (name, vm) :: others

def up : Deploy ComposeInstance := do
  let projectName := project.name.getD "default".toList
  let networkIds ← createNetworks surroundings projectName project.networks
  let order ← .inspect fun _ => dependencySort project
  let services ← bootServices lowercase surroundings project networkIds order
  return ⟨services, networkIds⟩

/-- The names go first; the networks go only if the backend has stopped and destroyed every
machine. -/
def down (deployment : ComposeInstance) (stopped : Bool) : Deploy Unit := do
  .update fun state => { state with
    dns := deployment.services.foldl (fun dns entry => dns.unregister lowercase entry.1) state.dns }
  .require (stopped = true) .backend
  deployment.networks.forM fun entry => deleteNetwork entry.2

inductive Call where
  | up (surroundings : Surroundings) (project : ComposeProject)
  | down (deployment : ComposeInstance) (stopped : Bool)

def call (state : Orchestrator) : Call → Orchestrator
  | .up surroundings project => (up lowercase surroundings project state).2
  | .down deployment stopped => (down lowercase deployment stopped state).2

end Orchestrator
end Visor.Compose
