import Visor.Backend.GuestNetwork
import Visor.Library.KeyedMap
import Visor.Library.Text

/-! A request's maps are lists in the order in which they are iterated. -/

namespace Visor.Docker
open Library Backend Option Char Prod Nat

structure PortBinding where
  hostIp : Option Text
  hostPort : Option Text

structure EndpointConfig where
  aliases : Option (List Text)

structure HostConfig where
  portBindings : Option (List (Text × List PortBinding))
  binds : Option (List Text)
  memory : Option U64
  nanoCpus : Option U64
  pidsLimit : Option Int
  storageOpt : Option (List (Text × Text))
  networkMode : Option Text

structure ContainerCreateRequest where
  image : Text
  cmd : Option (List Text)
  entrypoint : Option (List Text)
  env : Option (List Text)
  workingDir : Option Text
  labels : Option (List (Text × Text))
  exposedPorts : Option (List Text)
  hostConfig : Option HostConfig
  endpointsConfig : Option (List (Text × EndpointConfig))
  hostname : Option Text

inductive DockerConfigError where
  | unsupportedStorageOption (option : Text)
  | invalidStorageSize (value : Text)
  | storageSizeTooLarge (requestedMib maximumMib : Nat)
  | invalidProcessLimit (limit : Int)

def parseProcessLimit : Option Int → Except DockerConfigError (Option U64)
  | none => .ok none
  | some limit =>
    if limit = -1 ∨ limit = 0 then .ok none
    else if 0 < limit then .ok (some (BitVec.ofInt 64 limit))
    else .error (.invalidProcessLimit limit)

def maxRootfsExtraSizeMib : Nat := 1024 * 1024

def checkedMul (amount factor : Nat) : Option Nat :=
  if amount * factor < 2 ^ 64 then some (amount * factor) else none

def storageSizeOf (amount : Nat) (suffix : Text) : Option Nat :=
  if suffix ∈ ["".toList, "b".toList] then some ((amount + (1024 * 1024 - 1)) / (1024 * 1024))
  else if suffix ∈ ["k".toList, "kb".toList, "kib".toList] then some ((amount + 1023) / 1024)
  else if suffix ∈ ["m".toList, "mb".toList, "mib".toList] then some amount
  else if suffix ∈ ["g".toList, "gb".toList, "gib".toList] then checkedMul amount 1024
  else if suffix ∈ ["t".toList, "tb".toList, "tib".toList] then checkedMul amount (1024 * 1024)
  else none

def parseStorageSizeMib (value : Text) : Except DockerConfigError Nat :=
  let normalized := (trim value).map toLower
  let number := normalized.takeWhile isDigit
  let suffix := normalized.dropWhile isDigit
  match (parseUnsigned (2 ^ 64) number).filter (0 < ·) with
  | none => .error (.invalidStorageSize value)
  | some amount =>
    match (storageSizeOf amount suffix).filter (0 < ·) with
    | none => .error (.invalidStorageSize value)
    | some mib =>
      if maxRootfsExtraSizeMib < mib then
        .error (.storageSizeTooLarge mib maxRootfsExtraSizeMib)
      else .ok mib

def parseStorageOptions : Option (List (Text × Text)) → Except DockerConfigError (Option U64)
  | none => .ok none
  | some options =>
    match (options.map fst).find? (· ≠ "size".toList) with
    | some option => .error (.unsupportedStorageOption option)
    | none =>
      match options.lookup "size".toList with
      | none => .ok none
      | some value => (parseStorageSizeMib value).map fun mib => some (BitVec.ofNat 64 mib)

def parsePort (text : Text) : Option U16 := (parseUnsigned (2 ^ 16) text).map (BitVec.ofNat 16)

def parsePortBinding (key : Text) (hostBindings : List PortBinding) : List PortMapping :=
  let parts := splitAll '/' key
  let protocol := parts[1]?.getD "tcp".toList
  let guestPort := (parts.head?.bind parsePort).getD 0
  if guestPort = 0 then []
  else hostBindings.map fun binding =>
    ⟨(binding.hostPort.bind parsePort).getD guestPort, guestPort, protocol⟩

def parsePortBindings (bindings : List (Text × List PortBinding)) : List PortMapping :=
  bindings.flatMap fun (key, hostBindings) => parsePortBinding key hostBindings

abbrev PortMap := List (Text × List PortBinding)

/-- Adds to the entry of the key, which is made if there is none. -/
def pushBinding (key : Text) (binding : PortBinding) : PortMap → PortMap
  | [] => [(key, [binding])]
  | (other, bindings) :: rest =>
    if other = key then (other, bindings ++ [binding]) :: rest else (other, bindings) ::
      pushBinding key binding rest

def pushPort (bindings : PortMap) (port : PortMapping) : PortMap :=
  pushBinding (decimal port.guestPort.toNat ++ "/tcp".toList)
    ⟨some "0.0.0.0".toList, some (decimal port.hostPort.toNat)⟩ bindings

def portsToBindings (ports : List PortMapping) : PortMap := ports.foldl pushPort []

def parseServicePort (spec : Text) : Option ServicePort :=
  let (portText, protocol) := (splitOnce '/' spec).getD (spec, "tcp".toList)
  (parsePort portText).map fun port => ⟨port, protocol⟩

/-- `splitn(3, ':')` and a match on the number of parts. -/
def parseBindMount (bind : Text) : Option VolumeMount :=
  match splitOnce ':' bind with
  | none => none
  | some (host, rest) =>
    match splitOnce ':' rest with
    | none => some ⟨host, rest, false⟩
    | some (guest, options) => some ⟨host, guest, options = "ro".toList⟩

instance : LT ServicePort where
  lt one other := one.port.toNat < other.port.toNat ∨
    one.port = other.port ∧ one.protocol < other.protocol

instance : DecidableLT ServicePort := fun _ _ => inferInstanceAs (Decidable (_ ∨ _ ∧ _))

def ContainerCreateRequest.networkMode (req : ContainerCreateRequest) : Option Text :=
  req.hostConfig.bind (·.networkMode)

variable (req : ContainerCreateRequest) (name : Option Text) {key : Text}
  {hostBindings : List PortBinding}

def ContainerCreateRequest.label (name : Text) : Option Text :=
  (req.labels.bind (·.lookup name)).filter (· ≠ [])

def dockerNetworkEnabled : Bool := req.networkMode ≠ some "none".toList

def collectNetworkNames : List Text :=
  let endpoints := ((req.endpointsConfig.getD []).map fst).filter (· ≠ [])
  let mode := (req.networkMode.filter fun mode =>
    mode ∉ ["".toList, "default".toList, "bridge".toList, "host".toList, "none".toList]).filter
      fun mode => !("container:".toList).isPrefixOf mode
  let project := (req.label "com.docker.compose.project".toList).map (· ++ "_default".toList)
  sortedOfList (if endpoints ≠ [] then endpoints else (mode <|> project).toList)

def collectServiceNames : List Text :=
  let endpoints := (req.endpointsConfig.getD []).flatMap fun (_, endpoint) =>
    (endpoint.aliases.getD []).filter (· ≠ [])
  sortedOfList ((name.filter (· ≠ [])).toList ++ (req.hostname.filter (· ≠ [])).toList ++
    (req.label "com.docker.compose.service".toList).toList ++ endpoints)

def ContainerCreateRequest.portKeys : List Text :=
  req.exposedPorts.getD [] ++ ((req.hostConfig.bind (·.portBindings)).getD []).map fst

def collectServicePorts : List ServicePort := sortedOfList (req.portKeys.filterMap parseServicePort)

def memoryMibOf (bytes : U64) (standard : U32) : U32 :=
  if bytes = 0 then standard
  else
    let mib := bytes.toNat / (1024 * 1024)
    BitVec.ofNat 32 (max (if mib < 2 ^ 32 then mib else 512) 64)

def vcpusOf (nano : U64) : U32 :=
  let cpus := nano.toNat / 1000000000
  BitVec.ofNat 32 (max (if cpus < 2 ^ 32 then cpus else 1) 1)

def applyHostConfig (config : VmConfig) (host : HostConfig) : Except DockerConfigError VmConfig := do
  let processLimit ← parseProcessLimit host.pidsLimit
  let rootfsExtraSizeMib ← parseStorageOptions host.storageOpt
  return { config with
    ports := (host.portBindings.map parsePortBindings).getD config.ports
    volumes := (host.binds.map (·.filterMap parseBindMount)).getD config.volumes
    memoryMib := (host.memory.map (memoryMibOf · config.memoryMib)).getD config.memoryMib
    vcpus := (host.nanoCpus.map vcpusOf).getD config.vcpus
    processLimit := processLimit
    rootfsExtraSizeMib := rootfsExtraSizeMib }

def dockerCreateToVmConfig (detach : Bool) : Except DockerConfigError VmConfig :=
  let standard := VmConfig.new req.image
  let config := { standard with
    entrypoint := req.entrypoint.getD standard.entrypoint
    cmd := req.cmd.getD standard.cmd
    env := req.env.getD standard.env
    workingDir := req.workingDir.filter (· ≠ [])
    name := name
    networks := collectNetworkNames req
    serviceNames := collectServiceNames req name
    servicePorts := collectServicePorts req
    detach := detach
    networkEnabled := dockerNetworkEnabled req }
  match req.hostConfig with
  | none => .ok config
  | some host => applyHostConfig config host

/-- The key of a port, as `80/tcp`: a decimal number below `2 ^ 16` before the first slash. -/
def NamesPort (key : Text) : Prop := (parseUnsigned (2 ^ 16) (key.takeWhile (· ≠ '/'))).isSome
deriving Decidable

private theorem parseServicePort_isSome_iff (key : Text) :
    (parseServicePort key).isSome ↔ NamesPort key := by
  unfold parseServicePort NamesPort
  cases split : splitOnce '/' key with
  | none =>
    rw [splitOnce_eq_none split]
    simp [parsePort]
  | some parts =>
    obtain ⟨before, after⟩ := parts
    simp [parsePort, fst_splitOnce split]

theorem collectServicePorts_eq_nil_iff :
    collectServicePorts req = [] ↔ ∀ key ∈ req.portKeys, ¬ NamesPort key := by
  rw [collectServicePorts, sortedOfList_eq_nil_iff, List.filterMap_eq_nil_iff]
  refine forall₂_congr fun key _ => ?_
  rw [← parseServicePort_isSome_iff, not_isSome_iff_eq_none]

private theorem parsePortBinding_eq_nil {key : Text} (unnamed : ¬ NamesPort key)
    (hostBindings : List PortBinding) : parsePortBinding key hostBindings = [] := by
  rw [NamesPort, not_isSome_iff_eq_none] at unnamed
  have port : (splitAll '/' key).head?.bind parsePort = none := by
    rw [head_splitAll, bind_some, parsePort, unnamed, map_none]
  simp [parsePortBinding, port]

theorem parsePortBindings_eq_nil {bindings : List (Text × List PortBinding)}
    (unnamed : ∀ key ∈ bindings.map fst, ¬ NamesPort key) : parsePortBindings bindings = [] := by
  rw [parsePortBindings, List.flatMap_eq_nil_iff]
  rintro ⟨key, hostBindings⟩ mem
  exact parsePortBinding_eq_nil (unnamed key (List.mem_map_of_mem mem)) hostBindings

theorem dockerCreateToVmConfig_cases {req : ContainerCreateRequest} {name : Option Text}
    {detach : Bool} {config : VmConfig}
    (made : dockerCreateToVmConfig req name detach = .ok config) :
    config.name = name ∧ config.networkEnabled = dockerNetworkEnabled req ∧
    config.servicePorts = collectServicePorts req ∧
    config.ports = ((req.hostConfig.bind (·.portBindings)).map parsePortBindings).getD [] := by
  unfold dockerCreateToVmConfig at made
  cases host : req.hostConfig with
  | none =>
    simp only [host, Except.ok.injEq] at made
    subst made
    exact ⟨rfl, rfl, rfl, rfl⟩
  | some hostConfig =>
    simp only [host, applyHostConfig] at made
    cases limit : parseProcessLimit hostConfig.pidsLimit with
    | error => simp [limit, bind, Except.bind] at made
    | ok =>
      cases size : parseStorageOptions hostConfig.storageOpt with
      | error => simp [limit, size, bind, Except.bind] at made
      | ok =>
        simp only [limit, size, bind, Except.bind, pure, Except.pure, Except.ok.injEq] at made
        subst made
        exact ⟨rfl, rfl, rfl, rfl⟩

/-- A container without network mode gets no attachment exactly if no key of its exposed ports and
of its port bindings names a port. -/
theorem no_network_iff (req : ContainerCreateRequest) (name : Option Text) (detach : Bool)
    (config : VmConfig) (isolated : req.networkMode = some "none".toList)
    (made : dockerCreateToVmConfig req name detach = .ok config) (host : GuestHost) :
    (∀ cid, guestNetworkConfigsForVm host config cid = []) ↔ ∀ key ∈ req.portKeys, ¬ NamesPort key := by
  obtain ⟨_, enabled, servicePorts, ports⟩ := dockerCreateToVmConfig_cases made
  have disabled : config.networkEnabled = false := by simp [enabled, dockerNetworkEnabled, isolated]
  simp only [guestNetworkConfigsForVm_eq_nil_iff, disabled, true_and, forall_const]
  rw [← collectServicePorts_eq_nil_iff, ← servicePorts]
  refine ⟨And.right, fun noService => ⟨?_, noService⟩⟩
  rw [servicePorts, collectServicePorts_eq_nil_iff] at noService
  rw [ports]
  cases bindings : req.hostConfig.bind (·.portBindings) with
  | none => rfl
  | some =>
    refine parsePortBindings_eq_nil fun key mem => noService key ?_
    simp [ContainerCreateRequest.portKeys, bindings, mem]

/-- `docker create --network none`, with the given exposed ports and endpoints. -/
def isolatedRequest (exposedPorts : List Text) (endpoints : List (Text × EndpointConfig)) :
    ContainerCreateRequest where
  image := "alpine".toList
  cmd := none
  entrypoint := none
  env := none
  workingDir := none
  labels := none
  exposedPorts := some exposedPorts
  hostConfig := some ⟨none, none, none, none, none, none, some "none".toList⟩
  endpointsConfig := some endpoints
  hostname := none

def plainHost : GuestHost where
  dnsServers := ["1.1.1.1".toList]
  supernet := .standard

/-- Endpoints alone attach nothing. -/
theorem no_network_with_endpoints :
    ∃ config, dockerCreateToVmConfig (isolatedRequest [] [("web".toList, ⟨none⟩)]) none true =
    .ok config ∧
    ((∀ cid, guestNetworkConfigsForVm plainHost config cid = []) ↔
      ∀ key ∈ (isolatedRequest [] [("web".toList, ⟨none⟩)]).portKeys, ¬ NamesPort key) :=
  ⟨_, rfl, no_network_iff _ none true _ rfl rfl plainHost⟩

/-- An exposed port attaches the container to the host, although its network mode is `none`. -/
theorem exposed_port_attaches :
    ∃ config, dockerCreateToVmConfig (isolatedRequest ["80/tcp".toList] []) none true = .ok config ∧
    guestNetworkConfigsForVm plainHost config 3 ≠ [] := by
  refine ⟨_, rfl, ?_⟩
  rw [Ne, guestNetworkConfigsForVm_eq_nil_iff]
  decide +kernel

open List

/-- Container port, protocol, host port and host address. No address stands for all of them. -/
abbrev Endpoint := Option U16 × Text × Option U16 × Text

def endpoint (key : Text) (binding : PortBinding) : Endpoint :=
  let parts := splitAll '/' key
  (parts.head?.bind parsePort, parts[1]?.getD "tcp".toList, binding.hostPort.bind parsePort,
    (binding.hostIp.filter (· ≠ [])).getD "0.0.0.0".toList)

def endpoints (bindings : PortMap) : List Endpoint :=
  bindings.flatMap fun (key, hostBindings) => hostBindings.map (endpoint key)

/-- All bindings are shown as they were given. -/
def ShownAsAsked (bindings : PortMap) : Prop :=
  (endpoints (portsToBindings (parsePortBindings bindings))).Perm (endpoints bindings)

def tcpEndpoint (hostPort guestPort : U16) : Endpoint :=
  (some guestPort, "tcp".toList, some hostPort, "0.0.0.0".toList)

private theorem parsePort_decimal (port : U16) : parsePort (decimal port.toNat) = some port := by
  have digits : (decimal port.toNat).all isDigit = true := all_eq_true.mpr fun _ => isDigit_of_mem_decimal
  have filled : (decimal port.toNat).isEmpty = false := isEmpty_eq_false_iff.mpr toDigits_ne_nil
  have value : ofDigitChars 10 (decimal port.toNat) 0 = port.toNat := ofDigitChars_ten_toDigits
  unfold parsePort parseUnsigned
  split
  next rest signed =>
    exact nomatch isDigit_of_mem_decimal (signed ▸ .head _ : '+' ∈ decimal port.toNat)
  · rw [ofDigitChars] at value
    simp only [filled, digits, value, port.isLt, Bool.not_true, Bool.or_self, Bool.false_eq_true,
      if_false, if_true]
    simp

theorem endpoint_tcp (port host : U16) : endpoint (decimal port.toNat ++ "/tcp".toList)
    ⟨some "0.0.0.0".toList, some (decimal host.toNat)⟩ = tcpEndpoint host port := by
  have noSlash : '/' ∉ decimal port.toNat := fun mem => nomatch isDigit_of_mem_decimal mem
  have parts : splitAll '/' (decimal port.toNat ++ "/tcp".toList) = [decimal port.toNat, "tcp".toList] :=
    (splitAll_append '/' _ _).trans (by rw [splitAll_of_not_mem noSlash]; rfl)
  rw [endpoint, parts, head?_cons, bind_some, bind_some, parsePort_decimal, parsePort_decimal]
  rfl

private theorem endpoints_pushBinding (key : Text) (binding : PortBinding) (bindings : PortMap) :
    (endpoints (pushBinding key binding bindings)).Perm (endpoint key binding :: endpoints bindings) := by
  induction bindings with
  | nil => exact .refl _
  | cons first rest ih =>
    obtain ⟨other, hostBindings⟩ := first
    rw [pushBinding]
    split
    next same =>
      subst same
      simp [endpoints]
    · exact (ih.append_left _).trans perm_middle

theorem endpoints_foldl_pushPort (ports : List PortMapping) (bindings : PortMap) :
    (endpoints (ports.foldl pushPort bindings)).Perm
    ((ports.map fun port => tcpEndpoint port.hostPort port.guestPort) ++ endpoints bindings) := by
  induction ports generalizing bindings with
  | nil => exact .refl _
  | cons port rest ih =>
    refine (ih _).trans (((endpoints_pushBinding _ _ _).append_left _).trans ?_)
    rw [endpoint_tcp]
    exact perm_middle

theorem guestPort_ne_zero {port : PortMapping} (mem : port ∈ parsePortBinding key hostBindings) :
    port.guestPort ≠ 0 := by
  simp only [parsePortBinding] at mem
  split at mem
  · cases mem
  · obtain ⟨_, _, rfl⟩ := mem_map.mp mem
    assumption

private theorem parsePortBinding_plain
    (plain : ∀ binding ∈ hostBindings, ∃ hostPort guestPort, guestPort ≠ 0 ∧ endpoint key binding =
      tcpEndpoint hostPort guestPort) : (parsePortBinding key hostBindings).map
    (fun port => tcpEndpoint port.hostPort port.guestPort) = hostBindings.map (endpoint key) := by
  simp only [endpoint, tcpEndpoint, Prod.mk.injEq] at plain
  simp only [parsePortBinding]
  split
  next zero =>
    cases hostBindings with
    | nil => rfl
    | cons first =>
      obtain ⟨_, _, valid, port, _⟩ := plain first (.head _)
      rw [port] at zero
      exact absurd zero valid
  · rw [List.map_map]
    refine List.map_congr_left fun binding mem => ?_
    obtain ⟨_, _, _, port, protocol, host, address⟩ := plain binding mem
    simp only [endpoint, tcpEndpoint, port, protocol, host, address, Function.comp_apply, getD_some]

end Visor.Docker
