import Mathlib.Data.List.Basic
import Visor.Backend.GuestNetwork

/-!
# Keys of snapshots
-/

namespace Visor.Backend
open Library Json Function

structure VolumeConfig where
  hostPath : Text
  guestPath : Text
  readOnly : Bool
  mountTag : Text
  devicePath : Text
  fsType : Text

structure RunConfig where
  cmd : List Text
  env : List Text
  workdir : Text
  processLimit : Option U64
  network : Option NetworkConfig
  networks : List NetworkConfig
  extraHosts : List HostEntry
  volumes : List VolumeConfig
  mode : Text
  execListener : Bool

def RunConfig.standard : RunConfig where
  cmd := ["/bin/sh".toList]
  env := []
  workdir := "/".toList
  processLimit := none
  network := none
  networks := []
  extraHosts := []
  volumes := []
  mode := "run".toList
  execListener := false

def RunConfig.effectiveNetworks (config : RunConfig) : List NetworkConfig :=
  if !config.networks.isEmpty then config.networks else config.network.toList

/-- The part of an image's own configuration that its guests run with. -/
structure ImageConfig where
  cmd : Option (List Text)
  entrypoint : Option (List Text)
  env : List Text
  workingDir : Option Text

inductive HostFileKind where
  | dir
  | file
  | other

structure DataDiskConfig where
  path : Text
  readOnly : Bool

structure ResolvedVmStorage where
  dataDisks : List DataDiskConfig
  guestVolumes : List VolumeConfig

/-- The host's files as the volumes find them: `metadata`, and whether the image of a directory can
be built. -/
structure VolumeHost where
  metadata : Text → Option HostFileKind
  builds : Text → Bool

def guestBlockDevicePath (index : Nat) : Except Text Text :=
  if index + 1 ≤ 25 then
    .ok ("/dev/vd".toList ++ [Char.ofNat ('b'.toNat + (index + 1) - 1)])
  else .error "too many data disks for virtio-blk naming".toList

variable (host : VolumeHost) {one other : VmConfig}

def stageDirectoryVolume (hostPath stagedVolumeDir : Text) (dataDiskIndex : Nat) : Except Text Text :=
  if host.builds hostPath then
    .ok (stagedVolumeDir ++ "/volume-".toList ++ decimal dataDiskIndex ++ ".ext4".toList)
  else .error ("stage directory volume ".toList ++ hostPath)

/-- One turn of the loop of `resolve_vm_storage`. Every turn adds one data disk, so their number is
the index of the next. -/
def resolveVolume (stagedVolumeDir : Text) (storage : ResolvedVmStorage) (volume : VolumeMount) :
    Except Text ResolvedVmStorage := do
  let attach (path : Text) (readOnly : Bool) : Except Text ResolvedVmStorage := do
    let devicePath ← guestBlockDevicePath storage.dataDisks.length
    return {
      dataDisks := storage.dataDisks ++ [⟨path, readOnly⟩]
      guestVolumes := storage.guestVolumes ++
        [⟨volume.hostPath, volume.guestPath, volume.readOnly, [], devicePath, "ext4".toList⟩] }
  match host.metadata volume.hostPath with
  | none => .error ("inspect volume host path ".toList ++ volume.hostPath)
  | some .dir =>
    if volume.readOnly then do
      let stagedPath ← stageDirectoryVolume host volume.hostPath stagedVolumeDir storage.dataDisks.length
      attach stagedPath true
    else .error ("directory volume ".toList ++ volume.hostPath ++
      " must be mounted read-only until direct shared-fs support lands".toList)
  | some .file => attach volume.hostPath volume.readOnly
  | some .other =>
    .error ("volume host path must be a regular file or directory: ".toList ++ volume.hostPath)

def resolveVmStorage (volumes : List VolumeMount) (stagingRoot : Text) : Except Text ResolvedVmStorage :=
  volumes.foldlM (resolveVolume host (stagingRoot ++ "/volumes".toList)) ⟨[], []⟩

def resolveRunCommand (config : VmConfig) (imageConfig : ImageConfig) : List Text :=
  let entrypoint := if config.entrypoint.isEmpty then imageConfig.entrypoint
    else some config.entrypoint
  let cmd := if config.cmd.isEmpty then imageConfig.cmd else some config.cmd
  match entrypoint, cmd with
  | some entrypoint, some cmd => entrypoint ++ cmd
  | some entrypoint, none => entrypoint
  | none, some cmd => cmd
  | none, none => []

def agentMode : Text := "agent".toList

/-- `build_run_config`, from the pulled image on. -/
def buildRunConfig (guestHost : GuestHost) (volumeHost : VolumeHost) (stagingRoot : Text)
    (imageConfig : ImageConfig) (config : VmConfig) (cid : U32) : Except Text RunConfig := do
  let storage ← resolveVmStorage volumeHost config.volumes stagingRoot
  let guestNetworks := guestNetworkConfigsForVm guestHost config cid
  let mode := config.mode.getD RunConfig.standard.mode
  return {
    cmd := resolveRunCommand config imageConfig
    env := imageConfig.env ++ config.env
    workdir := (config.workingDir <|> imageConfig.workingDir).getD "/".toList
    processLimit := config.processLimit
    network := if guestNetworks.length ≤ 1 then guestNetworks.head? else none
    networks := if guestNetworks.length ≤ 1 then [] else guestNetworks
    extraHosts := config.extraHosts
    volumes := storage.guestVolumes
    mode := mode
    execListener := config.detach && mode != agentMode }

open RunConfig

structure SnapshotCacheKey where
  image : Text
  entrypoint : List Text
  cmd : List Text
  env : List Text
  workingDir : Option Text
  memoryMib : U32
  vcpus : U32
  processLimit : Option U64
  rootfsExtraSizeMib : Option U64
  ports : List PortMapping
  volumes : List VolumeMount
  extraHosts : List HostEntry
  networks : List Text
  networkEnabled : Bool
  guestVirtualization : GuestVirtualizationMode
  mode : Option Text

def SnapshotCacheKey.ofConfig (config : VmConfig) : SnapshotCacheKey where
  image := config.image
  entrypoint := config.entrypoint
  cmd := config.cmd
  env := config.env
  workingDir := config.workingDir
  memoryMib := config.memoryMib
  vcpus := config.vcpus
  processLimit := config.processLimit
  rootfsExtraSizeMib := config.rootfsExtraSizeMib
  ports := config.ports
  volumes := config.volumes
  extraHosts := config.extraHosts
  networks := config.networks
  networkEnabled := config.networkEnabled
  guestVirtualization := config.guestVirtualization
  mode := config.mode

section Serialize
def wordJson {width : Nat} (word : BitVec width) : Json := .number word.toNat
def textsJson (texts : List Text) : Json := .array (texts.map .string)

def optionJson {α : Type} (json : α → Json) : Option α → Json
  | none => .null
  | some value => json value

def PortMapping.toJson (port : PortMapping) : Json :=
  .object [("host_port".toList, wordJson port.hostPort),
    ("guest_port".toList, wordJson port.guestPort), ("protocol".toList, .string port.protocol)]

def VolumeMount.toJson (volume : VolumeMount) : Json :=
  .object [("host_path".toList, .string volume.hostPath),
    ("guest_path".toList, .string volume.guestPath), ("read_only".toList, .bool volume.readOnly)]

def HostEntry.toJson (entry : HostEntry) : Json :=
  .object [("hostname".toList, .string entry.hostname), ("address".toList, .string entry.address)]

def GuestVirtualizationMode.toJson : GuestVirtualizationMode → Json
  | .standard => .string "standard".toList
  | .nested => .string "nested".toList

def SnapshotCacheKey.toJson (key : SnapshotCacheKey) : Json :=
  .object [("image".toList, .string key.image), ("entrypoint".toList, textsJson key.entrypoint),
    ("cmd".toList, textsJson key.cmd), ("env".toList, textsJson key.env),
    ("working_dir".toList, optionJson .string key.workingDir),
      ("memory_mib".toList, wordJson key.memoryMib),
    ("vcpus".toList, wordJson key.vcpus), ("process_limit".toList, optionJson wordJson key.processLimit),
    ("rootfs_extra_size_mib".toList, optionJson wordJson key.rootfsExtraSizeMib),
    ("ports".toList, .array (key.ports.map PortMapping.toJson)),
      ("volumes".toList, .array (key.volumes.map VolumeMount.toJson)),
    ("extra_hosts".toList, .array (key.extraHosts.map HostEntry.toJson)),
    ("networks".toList, textsJson key.networks), ("network_enabled".toList, .bool key.networkEnabled),
    ("guest_virtualization".toList, key.guestVirtualization.toJson),
      ("mode".toList, optionJson .string key.mode)]

end Serialize

/-- `snapshot_key_for_config`, with `write` the text of a JSON value and `digest` the hexadecimal
SHA-256 of a text. -/
def snapshotKeyForConfig (write : Json → Text) (digest : Text → Text) (config : VmConfig) : Text :=
  "sha256:".toList ++ digest (write (SnapshotCacheKey.ofConfig config).toJson)

def supportsSnapshotFastPath (config : VmConfig) : Bool :=
  config.volumes.isEmpty && config.serviceNames.isEmpty && config.servicePorts.isEmpty

section Injective
theorem wordJson_injective (width : Nat) : Injective fun word : BitVec width => wordJson word := by
  intro word other same
  have values := number.inj same
  exact BitVec.eq_of_toNat_eq (by exact_mod_cast values)

theorem string_injective : Injective string := fun _ _ same => string.inj same

section
variable {α : Type} {json : α → Json} (injective : Injective json)
include injective

theorem array_injective : Injective fun values : List α => array (values.map json) :=
  fun _ _ same => List.map_injective_iff.mpr injective (array.inj same)

theorem optionJson_injective (present : ∀ value, json value ≠ .null) : Injective (optionJson json) := by
  rintro (_ | value) (_ | other) same
  · rfl
  · exact absurd same.symm (present other)
  · exact absurd same (present value)
  · exact congrArg some (injective same)

end

theorem PortMapping.toJson_injective : Injective PortMapping.toJson := by
  rintro ⟨hostPort, guestPort, protocol⟩ ⟨otherHost, otherGuest, otherProtocol⟩ same
  simp only [PortMapping.toJson, object.injEq, List.cons.injEq, Prod.mk.injEq, true_and, and_true,
    string.injEq] at same
  obtain ⟨sameHost, sameGuest, rfl⟩ := same
  rw [wordJson_injective 16 sameHost, wordJson_injective 16 sameGuest]

theorem VolumeMount.toJson_injective : Injective VolumeMount.toJson := by
  rintro ⟨hostPath, guestPath, readOnly⟩ ⟨otherHost, otherGuest, otherReadOnly⟩ same
  simp only [VolumeMount.toJson, object.injEq, List.cons.injEq, Prod.mk.injEq, true_and, and_true,
    string.injEq, bool.injEq] at same
  obtain ⟨rfl, rfl, rfl⟩ := same
  rfl

theorem HostEntry.toJson_injective : Injective HostEntry.toJson := by
  rintro ⟨hostname, address⟩ ⟨otherName, otherAddress⟩ same
  simp only [HostEntry.toJson, object.injEq, List.cons.injEq, Prod.mk.injEq, true_and, and_true,
    string.injEq] at same
  obtain ⟨rfl, rfl⟩ := same
  rfl

theorem GuestVirtualizationMode.toJson_injective : Injective GuestVirtualizationMode.toJson := by
  rintro (_ | _) (_ | _) same
  · rfl
  · exact absurd (string.inj same) (by decide)
  · exact absurd (string.inj same) (by decide)
  · rfl

theorem SnapshotCacheKey.toJson_injective : Injective SnapshotCacheKey.toJson := by
  intro key other same
  have texts : Injective textsJson := array_injective string_injective
  have text : Injective (optionJson string) := optionJson_injective string_injective nofun
  have word (width : Nat) : Injective (optionJson fun word : BitVec width => wordJson word) :=
    optionJson_injective (wordJson_injective width) nofun
  simp only [SnapshotCacheKey.toJson, object.injEq, List.cons.injEq, Prod.mk.injEq, true_and,
    and_true, string.injEq, bool.injEq] at same
  obtain ⟨image, entrypoint, cmd, env, workingDir, memoryMib, vcpus, processLimit, rootfs, ports,
    volumes, extraHosts, networks, networkEnabled, guestVirtualization, mode⟩ := same
  cases key
  cases other
  rw [SnapshotCacheKey.mk.injEq]
  exact ⟨image, texts entrypoint, texts cmd, texts env, text workingDir,
    wordJson_injective 32 memoryMib, wordJson_injective 32 vcpus, word 64 processLimit,
    word 64 rootfs, array_injective PortMapping.toJson_injective ports,
      array_injective VolumeMount.toJson_injective volumes,
    array_injective HostEntry.toJson_injective extraHosts, texts networks, networkEnabled,
    GuestVirtualizationMode.toJson_injective guestVirtualization, text mode⟩

end Injective

theorem key_eq_of_snapshotKey_eq {write : Json → Text} (written : Injective write)
    {digest : Text → Text} (injective : Injective digest)
    (same : snapshotKeyForConfig write digest one = snapshotKeyForConfig write digest other) :
    SnapshotCacheKey.ofConfig one = SnapshotCacheKey.ofConfig other := by
  have digests := List.append_cancel_left same
  exact SnapshotCacheKey.toJson_injective (written (injective digests))

/-- A started machine: the networks its host side is attached to, and what the guest finds in its
memory, on the kernel command line. -/
structure StartedVm where
  cid : U32
  attached : List NetworkConfig
  guest : RunConfig

def bootVm (run : RunConfig) (cid : U32) : StartedVm := ⟨cid, run.effectiveNetworks, run⟩

/-- What `save_snapshot_artifact` keeps of the guest: its memory, before the first instruction. -/
structure SnapshotArtifact where
  guest : RunConfig

def saveSnapshotArtifact (booted : StartedVm) : SnapshotArtifact := ⟨booted.guest⟩

/-- `create_from_snapshot`: the host side is set up for the new machine, the guest side is mapped
from the artifact. -/
def createFromSnapshot (host : GuestHost) (artifact : SnapshotArtifact) (config : VmConfig)
    (cid : U32) : StartedVm := ⟨cid, guestNetworkConfigsForVm host config cid, artifact.guest⟩

/-- A field of the configuration a machine would be booted with: the saved machine had the same, or
the restored one has got it. -/
def KeptOrApplied {α : Type} (field : RunConfig → α) (saved own restored : RunConfig) : Prop :=
  field saved = field own ∨ field restored = field own

/-- The restored guest has every setting that it would have been booted with. -/
structure RestoreSound (saved own restored : RunConfig) : Prop where
  cmd : KeptOrApplied cmd saved own restored
  env : KeptOrApplied env saved own restored
  workdir : KeptOrApplied workdir saved own restored
  processLimit : KeptOrApplied processLimit saved own restored
  network : KeptOrApplied network saved own restored
  networks : KeptOrApplied networks saved own restored
  extraHosts : KeptOrApplied extraHosts saved own restored
  volumes : KeptOrApplied volumes saved own restored
  mode : KeptOrApplied mode saved own restored
  execListener : KeptOrApplied execListener saved own restored

theorem restoreSound_self_iff (saved own : RunConfig) : RestoreSound saved own saved ↔ saved = own := by
  constructor
  · intro sound
    have same {α : Type} {field : RunConfig → α} (kept : KeptOrApplied field saved own saved) :
      field saved = field own := kept.elim id id
    cases saved
    cases own
    rw [mk.injEq]
    exact ⟨same sound.cmd, same sound.env, same sound.workdir, same sound.processLimit,
      same sound.network, same sound.networks, same sound.extraHosts, same sound.volumes,
        same sound.mode, same sound.execListener⟩
  · rintro rfl
    constructor <;> exact .inl rfl

/-- Both CIDs give a guest with this configuration the same addresses, or it has none. -/
def SameAddresses (config : VmConfig) (cid other : U32) : Prop :=
  config.networkEnabled = false ∧ config.ports = [] ∨
    (config.networks = [] ∨ config.ports ≠ [] →
      guestIndex cid % 2 ^ 14 = guestIndex other % 2 ^ 14) ∧
      (config.networks ≠ [] → guestIndex cid % 253 = guestIndex other % 253)

/-- Both guests open the exec listener, or neither does. -/
def SameListener (one other : VmConfig) : Prop := one.detach = other.detach ∨ one.mode = some agentMode

variable (host : GuestHost)

private theorem mapIdx_named_eq_iff (names : List Text) (shift : Nat) (nonempty : names ≠ [])
    (cid other : U32) :
    names.mapIdx (fun index name => namedGuestNetworkForName host name cid (index + shift)) =
    names.mapIdx (fun index name => namedGuestNetworkForName host name other (index + shift)) ↔
    guestIndex cid % 253 = guestIndex other % 253 := by
  constructor
  · intro same
    obtain ⟨name, names, rfl⟩ := List.exists_cons_of_ne_nil nonempty
    simp only [List.mapIdx_cons, List.cons.injEq] at same
    exact (namedGuestNetworkForName_eq_iff host name cid other _).mp same.1
  · intro same
    congr 1
    funext index name
    exact (namedGuestNetworkForName_eq_iff host name cid other _).mpr same

theorem guestNetworkConfigsForVm_eq_iff (config : VmConfig) (noService : config.servicePorts = [])
    (cid other : U32) :
    guestNetworkConfigsForVm host config cid = guestNetworkConfigsForVm host config other ↔
    SameAddresses config cid other := by
  have direct := defaultGuestNetworkForCid_eq_iff host cid other
  unfold guestNetworkConfigsForVm SameAddresses
  rw [noService]
  cases ports : config.ports with
  | nil =>
    cases enabled : config.networkEnabled with
    | false => simp
    | true =>
      cases networks : config.networks with
      | nil => simp [direct]
      | cons name names => simpa using mapIdx_named_eq_iff host (name :: names) 0 (by simp) cid other
  | cons =>
    cases networks : config.networks with
    | nil => simp [direct]
    | cons name names =>
      have named := mapIdx_named_eq_iff host (name :: names) 1 (by simp) cid other
      simp [direct, ← named]

/-- The run configuration of a machine that may be restored: it mounts nothing. -/
def plainRun (host : GuestHost) (imageConfig : ImageConfig) (config : VmConfig) (cid : U32) :
    RunConfig where
  cmd := resolveRunCommand config imageConfig
  env := imageConfig.env ++ config.env
  workdir := (config.workingDir <|> imageConfig.workingDir).getD "/".toList
  processLimit := config.processLimit
  network := if (guestNetworkConfigsForVm host config cid).length ≤ 1
    then (guestNetworkConfigsForVm host config cid).head? else none
  networks := if (guestNetworkConfigsForVm host config cid).length ≤ 1 then []
    else guestNetworkConfigsForVm host config cid
  extraHosts := config.extraHosts
  volumes := []
  mode := config.mode.getD standard.mode
  execListener := config.detach && config.mode.getD standard.mode != agentMode

variable (guestHost : GuestHost) (volumeHost : VolumeHost) (stagingRoot : Text) (imageConfig : ImageConfig)

theorem buildRunConfig_plain {config : VmConfig} (cid : U32) (plain : config.volumes = []) :
    buildRunConfig guestHost volumeHost stagingRoot imageConfig config cid =
    .ok (plainRun guestHost imageConfig config cid) := by
  simp [buildRunConfig, resolveVmStorage, plain, plainRun]
  rfl

theorem effectiveNetworks_plainRun (config : VmConfig) (cid : U32) :
    (plainRun host imageConfig config cid).effectiveNetworks =
    guestNetworkConfigsForVm host config cid := by
  unfold effectiveNetworks plainRun
  rcases guestNetworkConfigsForVm host config cid with _ | ⟨first, _ | ⟨second, rest⟩⟩ <;> simp

private theorem execListener_eq_iff (sameMode : one.mode = other.mode) (host : GuestHost)
    (imageConfig : ImageConfig) (cid otherCid : U32) : (plainRun host imageConfig one cid).execListener =
    (plainRun host imageConfig other otherCid).execListener ↔ SameListener one other := by
  simp only [plainRun, SameListener, ← sameMode]
  cases one.mode with
  | none =>
    have notAgent : (standard.mode != agentMode) = true := by decide
    simp [notAgent]
  | some mode =>
    by_cases agent : mode = agentMode
    · simp [agent]
    · simp [agent, bne, beq_false_of_ne agent]

private theorem plainRun_eq_iff (cid otherCid : U32) (noService : one.servicePorts = [])
    (noneHere : other.servicePorts = [])
    (sameKey : SnapshotCacheKey.ofConfig one = SnapshotCacheKey.ofConfig other) :
    plainRun host imageConfig one cid = plainRun host imageConfig other otherCid ↔
    SameListener one other ∧ SameAddresses one cid otherCid := by
  simp only [SnapshotCacheKey.ofConfig, SnapshotCacheKey.mk.injEq] at sameKey
  obtain ⟨-, entrypoint, cmd, env, workingDir, -, -, processLimit, -, ports, -, extraHosts,
    networks, networkEnabled, -, mode⟩ := sameKey
  have sameNetworks : guestNetworkConfigsForVm host other otherCid =
    guestNetworkConfigsForVm host one otherCid := by
    simp only [guestNetworkConfigsForVm, ports, networks, networkEnabled, noService, noneHere]
  have listeners := execListener_eq_iff mode host imageConfig cid otherCid
  have addresses := guestNetworkConfigsForVm_eq_iff host one noService cid otherCid
  constructor
  · intro same
    refine ⟨listeners.mp (congrArg execListener same), addresses.mp ?_⟩
    have attached := congrArg effectiveNetworks same
    rwa [effectiveNetworks_plainRun, effectiveNetworks_plainRun, sameNetworks] at attached
  · rintro ⟨sameListener, sameAddresses⟩
    have sameExec := listeners.mpr sameListener
    simp only [plainRun, mode] at sameExec
    simp only [plainRun, sameNetworks, addresses.mpr sameAddresses, sameExec,
      resolveRunCommand, entrypoint, cmd, env, workingDir, processLimit, extraHosts, mode]

/-- Two configurations that may be restored and have one key: the guest of a machine restored for
the second from the snapshot of the first runs with what it would have been booted with, exactly if
the two agree in what the key leaves out of it, the exec listener and the addresses. -/
theorem restored_guest_sound_iff {write : Json → Text} (written : Injective write)
    {digest : Text → Text} (injective : Injective digest) (guestHost : GuestHost)
    (volumeHost : VolumeHost) (stagingRoot otherRoot : Text) (imageConfig : ImageConfig)
    (one other : VmConfig) (cid otherCid : U32)
    (saves : supportsSnapshotFastPath one = true)
    (restores : supportsSnapshotFastPath other = true)
    (sameKey : snapshotKeyForConfig write digest one = snapshotKeyForConfig write digest other) :
    ∃ saved own,
      buildRunConfig guestHost volumeHost stagingRoot imageConfig one cid = .ok saved ∧
      buildRunConfig guestHost volumeHost otherRoot imageConfig other otherCid = .ok own ∧
      (RestoreSound saved own (createFromSnapshot guestHost
          (saveSnapshotArtifact (bootVm saved cid)) other otherCid).guest ↔
        SameListener one other ∧ SameAddresses one cid otherCid) := by
  simp only [supportsSnapshotFastPath, Bool.and_eq_true, List.isEmpty_iff] at saves restores
  refine ⟨_, _, buildRunConfig_plain guestHost volumeHost stagingRoot imageConfig cid saves.1.1,
    buildRunConfig_plain guestHost volumeHost otherRoot imageConfig otherCid restores.1.1, ?_⟩
  exact (restoreSound_self_iff _ _).trans (plainRun_eq_iff guestHost imageConfig cid otherCid
    saves.2 restores.2 (key_eq_of_snapshotKey_eq written injective sameKey))

def sampleHost : GuestHost where
  dnsServers := ["1.1.1.1".toList, "8.8.8.8".toList]
  supernet := .standard

def emptyVolumeHost : VolumeHost where
  metadata := fun _ => none
  builds := fun _ => true

def sampleImage : ImageConfig where
  cmd := some ["/bin/sh".toList]
  entrypoint := none
  env := []
  workingDir := none

def sampleConfig : VmConfig := .new "alpine:latest".toList

/-- The next machine but `2 ^ 14` with the same configuration gets the addresses of the saved one. -/
theorem restored_guest_sound_same_address :
    ∃ saved own, buildRunConfig sampleHost emptyVolumeHost [] sampleImage sampleConfig 3 =
    .ok saved ∧ buildRunConfig sampleHost emptyVolumeHost [] sampleImage sampleConfig 16387 =
    .ok own ∧
    (RestoreSound saved own
      (createFromSnapshot sampleHost (saveSnapshotArtifact (bootVm saved 3)) sampleConfig
      16387).guest ↔ SameListener sampleConfig sampleConfig ∧ SameAddresses sampleConfig 3 16387) :=
  restored_guest_sound_iff (fun _ _ => render_injective : Injective render)
    injective_id sampleHost emptyVolumeHost [] []
    sampleImage sampleConfig sampleConfig 3 16387 (by decide) (by decide) rfl

/-- The next machine with the same configuration has the address `172.20.0.6`; restored, its guest
has the address `172.20.0.2` of the machine that was saved. -/
theorem restored_guest_unsound :
    supportsSnapshotFastPath sampleConfig = true ∧
    ∃ saved own, buildRunConfig sampleHost emptyVolumeHost [] sampleImage sampleConfig 3 =
    .ok saved ∧ buildRunConfig sampleHost emptyVolumeHost [] sampleImage sampleConfig 4 = .ok own ∧
    own.network.map (·.address) = some "172.20.0.6".toList ∧
    (createFromSnapshot sampleHost (saveSnapshotArtifact (bootVm saved 3)) sampleConfig
      4).guest.network.map (·.address) = some "172.20.0.2".toList ∧
    ¬ RestoreSound saved own
    (createFromSnapshot sampleHost (saveSnapshotArtifact (bootVm saved 3)) sampleConfig 4).guest := by
  refine ⟨by decide, _, _, rfl, rfl, by decide +kernel, by decide +kernel, ?_⟩
  intro sound
  have network := sound.network
  exact absurd (network.elim id id) (by decide +kernel)

end Visor.Backend
