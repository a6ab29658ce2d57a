import Visor.Block.DeviceProperties
import Visor.Fs.Device
import Visor.Net.DeviceProperties
import Visor.Rng.Device
import Visor.Vsock.Device
import Visor.Balloon.Device

/-! Each backend as a virtio device. Block, network, entropy, filesystem and vsock devices implement
the trait alike, but for their queues and configuration; only the balloon forgets the acknowledged
features at a reset and checks them when they are set. -/

namespace Visor
open VirtQueue

/-! A queue loop serves requests with the backend behind a device. It touches neither the
activation of the device nor its queues, whose indices it keeps on the side. -/

namespace QueueService
variable {Device Token Note Error View : Type} [DescriptorErrors Error]

/-- No part of the service changes what the view shows of the device. -/
structure Keeps (service : QueueService Device Token Note Error) (view : Device → View) : Prop where
  poll : ∀ device, view (service.poll device).1 = view device
  serve :
    ∀ device memory queue token headIdx,
    view (service.serve device memory queue token headIdx).1 = view device
  settle :
    ∀ device memory queue headIdx note,
    view (service.settle device memory queue headIdx note).1 = view device

theorem Keeps.processQueue {service : QueueService Device Token Note Error} {view : Device → View}
    (keeps : service.Keeps view) (device : Device) (memory : GuestMemory) (queue : VirtQueue) :
    view (service.processQueue device memory queue).1.device = view device := by
  have moves : service.Moves fun before after => view after = view before :=
    { refl := fun _ => rfl
      trans := fun first second => second.trans first
      poll := keeps.poll
      serve := keeps.serve
      settle := keeps.settle }
  exact moves.processQueue device memory queue

theorem processQueue_of_not_live (service : QueueService Device Token Note Error)
    (device : Device) (memory : GuestMemory) {queue : VirtQueue} (idle : ¬ queue.Live) :
    service.processQueue device memory queue = (⟨device, memory, queue, false⟩, .ok false) := by
  have guard : (!queue.ready || queue.size == 0) = true := by
    by_contra open_
    apply idle
    simpa [Live] using open_
  unfold processQueue
  simp only [guard, ↓reduceIte]

end QueueService

namespace Block.BlockDevice
theorem service_keeps : service.Keeps activated where
  poll _ := rfl
  serve device memory queue _ headIdx := by
    show (device.processOneRequest memory queue headIdx).1.activated = _
    have inner : (device.processOneRequestInner memory queue headIdx).1.activated =
      device.activated := by
      unfold processOneRequestInner
      split
      · rfl
      next request _ =>
        obtain ⟨file, kept⟩ :=
          device.perform_device memory request.requestType request.dataDescs request.sector
        have performed := congrArg BlockDevice.activated kept
        dsimp only
        split
        · exact performed
        · split <;> exact performed
    unfold processOneRequest
    generalize device.processOneRequestInner memory queue headIdx = answer at inner ⊢
    obtain ⟨after, memory, _ | _⟩ := answer <;> exact inner
  settle _ _ _ _ _ := rfl

end Block.BlockDevice

namespace Rng.RngDevice
variable (queue : VirtQueue) (allowed : Nat) (idx : U16) (device : RngDevice) (memory : GuestMemory)

private theorem fillBuffer_activated (desc : VirtqDesc) (total : U32) :
    (device.fillBuffer memory desc total).1.activated = device.activated := by
  unfold fillBuffer
  dsimp only
  split
  · rfl
  · split <;> rfl

private theorem fillFrom_activated (total : U32) :
    (fillFrom queue allowed idx device memory total).1.activated = device.activated := by
  induction allowed generalizing idx device memory total with
  | zero =>
    unfold fillFrom
    split <;> rfl
  | succ allowed ih =>
    unfold fillFrom
    split
    · rfl
    next desc _ =>
      have filled : (if desc.isWritable then device.fillBuffer memory desc total
        else (device, memory, .ok total)).1.activated = device.activated := by
        split
        · exact device.fillBuffer_activated memory desc total
        · rfl
      generalize (if desc.isWritable then device.fillBuffer memory desc total
        else (device, memory, .ok total)) = answer at filled ⊢
      obtain ⟨after, memory, _ | _⟩ := answer
      · exact filled
      · split
        · exact (ih _ _ _ _).trans filled
        · exact filled

theorem service_keeps : service.Keeps activated where
  poll _ := rfl
  serve device memory queue _ headIdx := by
    have filled := fillFrom_activated queue queue.size.toNat headIdx device memory 0
    unfold service fillChain
    dsimp only
    generalize fillFrom queue queue.size.toNat headIdx device memory 0 = answer at filled ⊢
    obtain ⟨after, memory, _ | _⟩ := answer <;> exact filled
  settle _ _ _ _ _ := rfl

end Rng.RngDevice

namespace Net.NetDevice
def fixed (device : NetDevice) : VirtQueue × VirtQueue × Bool :=
  (device.rxQueue, device.txQueue, device.activated)

theorem txService_keeps : txService.Keeps fixed where
  poll _ := rfl
  serve device memory queue _ headIdx := by
    show (device.handleTxChain memory queue headIdx).fixed = _
    unfold handleTxChain
    split
    · rfl
    · dsimp only
      repeat' split
      all_goals rfl
  settle _ _ _ _ _ := rfl

theorem rxService_keeps : rxService.Keeps fixed where
  poll device := by
    show device.recvFrame.1.fixed = _
    unfold recvFrame
    split
    · rfl
    · split <;> rfl
  serve _ _ _ _ _ := rfl
  settle _ _ _ _ _ := rfl

end Net.NetDevice

namespace Fs.FsDevice
def fixed (device : FsDevice) : Path × VirtQueue × Bool :=
  (device.sharedDir, device.requestQueue, device.activated)

variable (device : FsDevice) (host : HostFs)

theorem getOrCreateInode_fixed (path : Path) :
    (device.getOrCreateInode host path).1.fixed = device.fixed := by
  unfold getOrCreateInode
  split
  · rfl
  · split <;> rfl

theorem handleLookup_fixed (unique parentIno : U64) (data : List U8) :
    (device.handleLookup host unique parentIno data).1.fixed = device.fixed := by
  unfold handleLookup
  split
  · rfl
  next parent _ =>
    split
    · rfl
    · dsimp only
      split
      · rfl
      · have created := device.getOrCreateInode_fixed host (parent.path.join (data.takeWhile (· ≠ 0)))
        generalize device.getOrCreateInode host _ = answer at created ⊢
        obtain ⟨after, _ | _⟩ := answer
        · exact created
        · dsimp only
          split <;> exact created

theorem openInode_fixed (unique nodeid : U64) (wantDir : Bool) (error : Errno) :
    (device.openInode unique nodeid wantDir error).1.fixed = device.fixed := by
  unfold openInode
  split
  · rfl
  · split <;> rfl

private theorem listFrom_fixed (dir : Path) (offset maxSize : Nat) (names : List (List U8)) (skipped : Nat)
    (device : FsDevice) (buf : List U8) :
    (listFrom host dir offset maxSize names skipped device buf).1.fixed = device.fixed := by
  induction names generalizing skipped device buf with
  | nil => rfl
  | cons name rest ih =>
    unfold listFrom
    dsimp only
    split
    · exact ih _ _ _
    · split
      · exact device.getOrCreateInode_fixed host _
      · exact (ih _ _ _).trans (device.getOrCreateInode_fixed host _)

private theorem handleReaddir_fixed (unique : U64) (data : List U8) :
    (device.handleReaddir host unique data).1.fixed = device.fixed := by
  unfold handleReaddir
  split
  · rfl
  · split
    · rfl
    · split
      · rfl
      · split
        · rfl
        · split
          · rfl
          · exact listFrom_fixed _ _ _ _ _ _ _ _

theorem dispatch_fixed (requestData : List U8) :
    (device.dispatch host requestData).1.fixed = device.fixed := by
  unfold dispatch
  dsimp only
  split
  · rfl
  · exact device.handleLookup_fixed host _ _ _
  · rfl
  · exact device.openInode_fixed _ _ _ _
  · exact device.openInode_fixed _ _ _ _
  · rfl
  · exact device.handleReaddir_fixed host _ _
  all_goals first
    | rfl
    | (unfold handleRelease; dsimp only; split <;> rfl)

theorem service_keeps : (service host).Keeps fixed where
  poll _ := rfl
  serve device memory queue _ headIdx := by
    show (device.processFuseRequest host memory queue headIdx).1.fixed = _
    unfold processFuseRequest
    split
    · rfl
    · split
      · rfl
      next requestData _ =>
        split
        · rfl
        · have dispatched := device.dispatch_fixed host requestData
          generalize device.dispatch host requestData = answer at dispatched ⊢
          obtain ⟨after, _ | _⟩ := answer <;> exact dispatched
  settle _ _ _ _ _ := rfl

end Fs.FsDevice

namespace Vsock.VsockDevice
variable (device : VsockDevice) (key : ConnMapKey) (pkt : VsockPacket) (payload : List U8)
  (now : Nat)

def fixed : U64 × VirtQueue × VirtQueue × Bool :=
  (device.guestCid, device.rxQueue, device.txQueue, device.activated)

private theorem sendPkt_fixed : (device.sendPkt key pkt payload now).fixed = device.fixed := by
  unfold sendPkt
  split <;> rfl

theorem dispatch_fixed : (device.dispatch pkt payload now).fixed = device.fixed := by
  unfold dispatch
  dsimp only
  split
  · split <;> rfl
  · rfl
  · exact device.sendPkt_fixed _ _ _ _

theorem txService_keeps (now : Nat) : (txService now).Keeps fixed where
  poll _ := rfl
  serve device memory queue _ headIdx := by
    show (device.handleTxChain memory queue headIdx now).fixed = _
    unfold handleTxChain
    split
    · exact device.dispatch_fixed _ _ _
    · rfl
    · rfl
  settle _ _ _ _ _ := rfl

private theorem firstPacket_fixed (maxDataLen now : Nat) (keys : List ConnMapKey) (device : VsockDevice) :
    (firstPacket maxDataLen now keys device).1.fixed = device.fixed := by
  induction keys generalizing device with
  | nil => rfl
  | cons key rest ih =>
    unfold firstPacket
    split
    · exact ih device
    · split
      · exact ih _
      · rfl

theorem rxService_keeps (order : List ConnMapKey) (now : Nat) : (rxService order now).Keeps fixed where
  poll _ := rfl
  serve device memory queue pending headIdx := by
    show (device.serveRx memory queue pending headIdx now).1.fixed = _
    unfold serveRx
    split
    · rfl
    next chain _ =>
      have first := firstPacket_fixed chain.maxDataLen now pending device
      generalize firstPacket chain.maxDataLen now pending device = answer at first ⊢
      obtain ⟨after, _ | _⟩ := answer
      · exact first
      · dsimp only
        split <;> exact first
  settle device memory queue headIdx note := by
    show (device.settleRx note.1 note.2).fixed = _
    unfold settleRx
    repeat' split
    all_goals rfl

end Vsock.VsockDevice

section
open Library Balloon Block Fs Net Rng Vsock BalloonDevice

/-- What tells the devices apart behind the trait. -/
class Backend (Kind : Type) (Host : outParam Type) where
  deviceType : DeviceType
  queues : Kind → List VirtQueue
  mapQueues : Kind → (Nat → VirtQueue → VirtQueue) → Kind
  config : Kind → List U8
  activated : Kind → Bool
  setActivated : Kind → Bool → Kind
  reset : Kind → Kind
  processQueue : Kind → Host → Nat → GuestMemory → Kind × GuestMemory × Bool

structure Featured (Kind : Type) where
  backend : Kind
  availFeatures : U64
  ackedFeatures : U64 := 0

def readConfigBytes (config : List U8) (offset : U64) (data : List U8) : List U8 :=
  (List.range data.length).map fun index => config.getD (offset.toNat + index) 0

instance {Kind Host : Type} [Backend Kind Host] : VirtioDevice (Featured Kind) Host where
  deviceType _ := Backend.deviceType Kind
  availFeatures device := device.availFeatures
  ackedFeatures device := device.ackedFeatures
  setAckedFeatures device features := { device with ackedFeatures := features }
  queues device := Backend.queues device.backend
  mapQueues device change := { device with backend := Backend.mapQueues device.backend change }
  readConfig device := readConfigBytes (Backend.config device.backend)
  writeConfig device _ _ := device
  activate device := ({ device with backend := Backend.setActivated device.backend true }, .ok ())
  isActivated device := Backend.activated device.backend
  reset device := { device with backend := Backend.reset device.backend }
  processQueue device host queueIdx memory :=
    let (backend, memory, processed) := Backend.processQueue device.backend host queueIdx memory
    ({ device with backend := backend }, memory, .ok processed)

instance : Backend BlockDevice Unit where
  deviceType := .block
  queues device := [device.queue]
  mapQueues device change := { device with queue := change 0 device.queue }
  config device := toLeBytes 8 device.numSectors
  activated := BlockDevice.activated
  setActivated device activated := { device with activated := activated }
  reset device := { device with activated := false, queue := device.queue.reset }
  processQueue device _ queueIdx memory :=
    match queueIdx with
    | 0 => device.processQueue memory
    | _ => (device, memory, false)

def virtioBlkFRo : U64 := 1 <<< 5

def blockDevice (diskFile : DiskFile) (readOnly : Bool) (idText : List U8) : Featured BlockDevice where
  backend := .new diskFile readOnly idText
  availFeatures := virtioFVersion1 ||| if readOnly then virtioBlkFRo else 0

instance : Backend RngDevice Unit where
  deviceType := .rng
  queues device := [device.queue]
  mapQueues device change := { device with queue := change 0 device.queue }
  config _ := []
  activated := RngDevice.activated
  setActivated device activated := { device with activated := activated }
  reset device := { device with activated := false, queue := device.queue.reset }
  processQueue device _ queueIdx memory :=
    match queueIdx with
    | 0 => device.processQueue memory
    | _ => (device, memory, false)

def rngDevice (entropySource : EntropySource) : Featured RngDevice where
  backend := .withSource entropySource
  availFeatures := virtioFVersion1

structure NetBackend where
  device : NetDevice
  macAddr : { bytes : List U8 // bytes.length = 6 }

instance : Backend NetBackend Unit where
  deviceType := .net
  queues backend := [backend.device.rxQueue, backend.device.txQueue]
  mapQueues backend change :=
    { backend with device := { backend.device with
      rxQueue := change 0 backend.device.rxQueue
      txQueue := change 1 backend.device.txQueue } }
  config backend := backend.macAddr.val
  activated backend := backend.device.activated
  setActivated backend activated :=
    { backend with device := { backend.device with activated := activated } }
  reset backend :=
    { backend with device := { backend.device with
      activated := false
      rxQueue := backend.device.rxQueue.reset
      txQueue := backend.device.txQueue.reset } }
  processQueue backend _ queueIdx memory :=
    match queueIdx with
    | 0 =>
      let (device, memory, processed) := backend.device.processQueue .rx memory
      ({ backend with device := device }, memory, processed)
    | 1 =>
      let (device, memory, processed) := backend.device.processQueue .tx memory
      ({ backend with device := device }, memory, processed)
    | _ => (backend, memory, false)

def virtioNetFMac : U64 := 1 <<< 5

def netDevice (macAddr : { bytes : List U8 // bytes.length = 6 }) (packetIo : Option PacketIo) :
    Featured NetBackend where
  backend := ⟨.new packetIo, macAddr⟩
  availFeatures := virtioNetFMac ||| virtioFVersion1

def tagLen : Nat := 36

structure FsBackend where
  device : FsDevice
  hiprioQueue : VirtQueue
  tag : { bytes : List U8 // bytes.length = tagLen }

instance : Backend FsBackend HostFs where
  deviceType := .fs
  queues backend := [backend.hiprioQueue, backend.device.requestQueue]
  mapQueues backend change :=
    { backend with
      hiprioQueue := change 0 backend.hiprioQueue
      device := { backend.device with requestQueue := change 1 backend.device.requestQueue } }
  config backend := backend.tag.val ++ toLeBytes 4 1
  activated backend := backend.device.activated
  setActivated backend activated :=
    { backend with device := { backend.device with activated := activated } }
  reset backend :=
    { backend with
      hiprioQueue := backend.hiprioQueue.reset
      device := { backend.device with
        activated := false
        requestQueue := backend.device.requestQueue.reset } }
  processQueue backend host queueIdx memory :=
    match queueIdx with
    | 1 =>
      let (device, memory, processed) := backend.device.processQueue host memory
      ({ backend with device := device }, memory, processed)
    | _ => (backend, memory, false)

/-- The tag is cut or padded to length. -/
def fsDevice (host : HostFs) (sharedDir : Path) (tag : List U8) : Option (Featured FsBackend) :=
  (FsDevice.new host sharedDir).map fun device =>
    { backend := {
      device := device
      hiprioQueue := .new Fs.queueMaxSize
      tag := ⟨(tag ++ List.replicate tagLen 0).take tagLen, by simp⟩ }
      availFeatures := virtioFVersion1 }

structure VsockBackend where
  device : VsockDevice
  eventQueue : VirtQueue

/-- What a pass of the vsock device meets: the order in which the connection table is
walked, and the time. -/
structure VsockHost where
  order : List ConnMapKey
  now : Nat

instance : Backend VsockBackend VsockHost where
  deviceType := .vsock
  queues backend := [backend.device.rxQueue, backend.device.txQueue, backend.eventQueue]
  mapQueues backend change :=
    { backend with
      eventQueue := change 2 backend.eventQueue
      device := { backend.device with
        rxQueue := change 0 backend.device.rxQueue
        txQueue := change 1 backend.device.txQueue } }
  config backend := toLeBytes 8 backend.device.guestCid.toNat
  activated backend := backend.device.activated
  setActivated backend activated :=
    { backend with device := { backend.device with activated := activated } }
  reset backend :=
    { backend with
      eventQueue := backend.eventQueue.reset
      device := backend.device.reset }
  processQueue backend host queueIdx memory :=
    match queueIdx with
    | 0 =>
      let (device, memory, processed) := backend.device.processQueue .rx memory host.order host.now
      ({ backend with device := device }, memory, processed)
    | 1 =>
      let (device, memory, processed) := backend.device.processQueue .tx memory host.order host.now
      ({ backend with device := device }, memory, processed)
    | _ => (backend, memory, false)

def vsockDevice (guestCid : U64) : Featured VsockBackend where
  backend := ⟨.new guestCid, .new Vsock.queueMaxSize⟩
  availFeatures := virtioFVersion1

instance : VirtioDevice BalloonDevice BalloonHost where
  deviceType _ := .balloon
  availFeatures := availFeatures
  ackedFeatures := ackedFeatures
  setAckedFeatures device features := { device with ackedFeatures := features &&& device.availFeatures }
  queues device := [device.inflateQueue, device.deflateQueue]
  mapQueues device change :=
    { device with
      inflateQueue := change 0 device.inflateQueue
      deflateQueue := change 1 device.deflateQueue }
  readConfig device :=
    readConfigBytes (toLeBytes 4 device.targetPages.toNat ++ toLeBytes 4 device.actualPages.toNat)
  writeConfig := writeConfig
  activate device := ({ device with activated := true }, .ok ())
  isActivated := activated
  reset := reset
  processQueue := processQueue

inductive AnyDevice where
  | block (device : Featured BlockDevice)
  | net (device : Featured NetBackend)
  | rng (device : Featured RngDevice)
  | balloon (device : BalloonDevice)
  | fs (device : Featured FsBackend)
  | vsock (device : Featured VsockBackend)

structure AnyHost where
  files : HostFs
  balloon : BalloonHost
  vsock : VsockHost

namespace AnyDevice
variable (device : AnyDevice)

def ask {Answer : Type} (question : {Device Host : Type} → [VirtioDevice Device Host] → Device →
    Answer) : Answer :=
  match device with
  | .block device => question device
  | .net device => question device
  | .rng device => question device
  | .balloon device => question device
  | .fs device => question device
  | .vsock device => question device

def update (change : {Device Host : Type} → [VirtioDevice Device Host] → Device → Device) : AnyDevice :=
  match device with
  | .block device => .block (change device)
  | .net device => .net (change device)
  | .rng device => .rng (change device)
  | .balloon device => .balloon (change device)
  | .fs device => .fs (change device)
  | .vsock device => .vsock (change device)

def processQueue (host : AnyHost) (queueIdx : Nat) (memory : GuestMemory) :
    AnyDevice × GuestMemory × Except VirtioError Bool :=
  match device with
  | .block device =>
    let (device, result) := VirtioDevice.processQueue device () queueIdx memory
    (.block device, result)
  | .net device =>
    let (device, result) := VirtioDevice.processQueue device () queueIdx memory
    (.net device, result)
  | .rng device =>
    let (device, result) := VirtioDevice.processQueue device () queueIdx memory
    (.rng device, result)
  | .balloon device =>
    let (device, result) := VirtioDevice.processQueue device host.balloon queueIdx memory
    (.balloon device, result)
  | .fs device =>
    let (device, result) := VirtioDevice.processQueue device host.files queueIdx memory
    (.fs device, result)
  | .vsock device =>
    let (device, result) := VirtioDevice.processQueue device host.vsock queueIdx memory
    (.vsock device, result)

end AnyDevice

instance : VirtioDevice AnyDevice AnyHost where
  deviceType device := device.ask VirtioDevice.deviceType
  availFeatures device := device.ask VirtioDevice.availFeatures
  ackedFeatures device := device.ask VirtioDevice.ackedFeatures
  setAckedFeatures device features := device.update (VirtioDevice.setAckedFeatures · features)
  queues device := device.ask VirtioDevice.queues
  mapQueues device change := device.update (VirtioDevice.mapQueues · change)
  readConfig device offset data := device.ask (VirtioDevice.readConfig · offset data)
  writeConfig device offset data := device.update (VirtioDevice.writeConfig · offset data)
  activate device :=
    (device.update fun device => (VirtioDevice.activate device).1, device.ask fun device =>
    (VirtioDevice.activate device).2)
  isActivated device := device.ask VirtioDevice.isActivated
  reset device := device.update VirtioDevice.reset
  processQueue := AnyDevice.processQueue

end

open Library Balloon Block Fs Net Rng Vsock VirtioDevice LawfulVirtioDevice VirtioDevice

/-- What the laws of the trait ask of a backend. -/
class LawfulBackend (Kind : Type) {Host : outParam Type} [Backend Kind Host] : Prop where
  mapQueues (backend : Kind) (change : Nat → VirtQueue → VirtQueue) :
    Backend.queues (Backend.mapQueues backend change) =
    (Backend.queues backend).mapIdx change ∧
      Backend.activated (Backend.mapQueues backend change) = Backend.activated backend
  setActivated (backend : Kind) (activated : Bool) :
    Backend.queues (Backend.setActivated backend activated) = Backend.queues backend ∧
    Backend.activated (Backend.setActivated backend activated) = activated
  reset (backend : Kind) : Backend.queues (Backend.reset backend) = (Backend.queues backend).map reset ∧
    Backend.activated (Backend.reset backend) = false
  processQueue (backend : Kind) (host : Host) (queueIdx : Nat) (memory : GuestMemory) :
    List.Forall₂ Passed (Backend.queues backend)
      (Backend.queues (Backend.processQueue backend host queueIdx memory).1) ∧
      Backend.activated (Backend.processQueue backend host queueIdx memory).1 = Backend.activated backend

instance {Kind Host : Type} [Backend Kind Host] [LawfulBackend Kind] :
    LawfulVirtioDevice (Featured Kind) where
  setAckedFeatures_profile _ features := ⟨features, fun _ => rfl, rfl⟩
  mapQueues_profile device change := by
    obtain ⟨queues, activated⟩ := LawfulBackend.mapQueues device.backend change
    simp only [profile, VirtioDevice.mapQueues, VirtioDevice.queues, isActivated, deviceType,
      availFeatures, ackedFeatures, queues, activated]
  writeConfig_profile _ _ _ := rfl
  activate_profile device := by
    obtain ⟨queues, activated⟩ := LawfulBackend.setActivated device.backend true
    simp only [profile, activate, VirtioDevice.queues, isActivated, deviceType, availFeatures,
      ackedFeatures, queues, activated]
  reset_profile device := by
    obtain ⟨queues, activated⟩ := LawfulBackend.reset device.backend
    refine ⟨device.ackedFeatures, .inl rfl, ?_⟩
    simp only [profile, VirtioDevice.reset, VirtioDevice.queues, isActivated, deviceType,
      availFeatures, ackedFeatures, queues, activated]
  processQueue_profile device host queueIdx memory := by
    obtain ⟨queues, activated⟩ := LawfulBackend.processQueue device.backend host queueIdx memory
    refine ⟨_, queues, ?_⟩
    simp only [profile, VirtioDevice.processQueue, VirtioDevice.queues, isActivated, deviceType,
      availFeatures, ackedFeatures, activated]

/-- The queue as a device keeps it: only the indices that the pass reached are written back. -/
theorem QueueService.passed {Device Token Note Error : Type} [DescriptorErrors Error]
    (service : QueueService Device Token Note Error) (device : Device) (memory : GuestMemory)
    (queue : VirtQueue) : queue.Passed { queue with
    lastAvailIdx := (service.processQueue device memory queue).1.queue.lastAvailIdx
    lastUsedIdx := (service.processQueue device memory queue).1.queue.lastUsedIdx } := by
  refine ⟨rfl, fun idle => ?_⟩
  rw [service.processQueue_of_not_live device memory idle]

instance : LawfulBackend BlockDevice where
  mapQueues _ _ := ⟨rfl, rfl⟩
  setActivated _ _ := ⟨rfl, rfl⟩
  reset _ := ⟨rfl, rfl⟩
  processQueue device _ queueIdx memory := by
    cases queueIdx with
    | zero =>
      exact ⟨.cons (BlockDevice.service.passed device memory device.queue) .nil,
        BlockDevice.service_keeps.processQueue device memory device.queue⟩
    | succ _ => exact ⟨.cons (.of_eq rfl) .nil, rfl⟩

instance : LawfulBackend RngDevice where
  mapQueues _ _ := ⟨rfl, rfl⟩
  setActivated _ _ := ⟨rfl, rfl⟩
  reset _ := ⟨rfl, rfl⟩
  processQueue device _ queueIdx memory := by
    cases queueIdx with
    | zero =>
      exact ⟨.cons (RngDevice.service.passed device memory device.queue) .nil,
        RngDevice.service_keeps.processQueue device memory device.queue⟩
    | succ _ => exact ⟨.cons (.of_eq rfl) .nil, rfl⟩

private theorem net_passed (device : NetDevice) (queueIdx : Net.NetDevice.QueueIndex)
    (memory : GuestMemory) : device.rxQueue.Passed (device.processQueue queueIdx memory).1.rxQueue ∧
    device.txQueue.Passed (device.processQueue queueIdx memory).1.txQueue ∧
    (device.processQueue queueIdx memory).1.activated = device.activated := by
  unfold NetDevice.processQueue
  split
  · exact ⟨.of_eq rfl, .of_eq rfl, rfl⟩
  · cases queueIdx with
    | rx =>
      have kept := NetDevice.rxService_keeps.processQueue device memory device.rxQueue
      exact ⟨NetDevice.rxService.passed device memory device.rxQueue,
        .of_eq (congrArg (·.2.1) kept), congrArg (·.2.2) kept⟩
    | tx =>
      have kept := NetDevice.txService_keeps.processQueue device memory device.txQueue
      exact ⟨.of_eq (congrArg (·.1) kept), NetDevice.txService.passed device memory device.txQueue,
        congrArg (·.2.2) kept⟩

instance : LawfulBackend NetBackend where
  mapQueues _ _ := ⟨rfl, rfl⟩
  setActivated _ _ := ⟨rfl, rfl⟩
  reset _ := ⟨rfl, rfl⟩
  processQueue backend _ queueIdx memory := by
    match queueIdx with
    | 0 =>
      obtain ⟨rx, tx, activated⟩ := net_passed backend.device .rx memory
      exact ⟨.cons rx (.cons tx .nil), activated⟩
    | 1 =>
      obtain ⟨rx, tx, activated⟩ := net_passed backend.device .tx memory
      exact ⟨.cons rx (.cons tx .nil), activated⟩
    | _ + 2 => exact ⟨.cons (.of_eq rfl) (.cons (.of_eq rfl) .nil), rfl⟩

instance : LawfulBackend FsBackend where
  mapQueues _ _ := ⟨rfl, rfl⟩
  setActivated _ _ := ⟨rfl, rfl⟩
  reset _ := ⟨rfl, rfl⟩
  processQueue backend host queueIdx memory := by
    match queueIdx with
    | 1 =>
      have kept := (FsDevice.service_keeps host).processQueue backend.device memory
        backend.device.requestQueue
      exact ⟨.cons (.of_eq rfl) (.cons ((FsDevice.service host).passed backend.device memory
        backend.device.requestQueue) .nil), congrArg (·.2.2) kept⟩
    | 0 => exact ⟨.cons (.of_eq rfl) (.cons (.of_eq rfl) .nil), rfl⟩
    | _ + 2 => exact ⟨.cons (.of_eq rfl) (.cons (.of_eq rfl) .nil), rfl⟩

variable (device : VsockDevice) (memory : GuestMemory) (order : List ConnMapKey) (now : Nat)

theorem vsock_passed_rx :
    device.rxQueue.Passed (device.runRx memory order now).1.rxQueue ∧
    (device.runRx memory order now).1.txQueue = device.txQueue ∧
    (device.runRx memory order now).1.activated = device.activated := by
  have kept := (VsockDevice.rxService_keeps order now).processQueue device memory device.rxQueue
  exact ⟨(VsockDevice.rxService order now).passed device memory device.rxQueue,
    congrArg (·.2.2.1) kept, congrArg (·.2.2.2) kept⟩

private theorem vsock_passed_tx :
    device.txQueue.Passed (device.runTx memory now).1.txQueue ∧
    (device.runTx memory now).1.rxQueue = device.rxQueue ∧ (device.runTx memory now).1.activated =
    device.activated := by
  have kept := (VsockDevice.txService_keeps now).processQueue device memory device.txQueue
  exact ⟨(VsockDevice.txService now).passed device memory device.txQueue, congrArg (·.2.1) kept,
    congrArg (·.2.2.2) kept⟩

instance : LawfulBackend VsockBackend where
  mapQueues _ _ := ⟨rfl, rfl⟩
  setActivated _ _ := ⟨rfl, rfl⟩
  reset _ := ⟨rfl, rfl⟩
  processQueue backend host queueIdx memory := by
    match queueIdx with
    | 0 =>
      obtain ⟨rx, tx, activated⟩ := vsock_passed_rx backend.device memory host.order host.now
      exact ⟨.cons rx (.cons (.of_eq tx) (.cons (.of_eq rfl) .nil)), activated⟩
    | 1 =>
        -- The RX queue is filled after the TX queue has been drained.
        obtain ⟨tx, rxKept, first⟩ := vsock_passed_tx backend.device memory host.now
        obtain ⟨rx, txKept, second⟩ := vsock_passed_rx (backend.device.runTx memory host.now).1
          (backend.device.runTx memory host.now).2.1 host.order host.now
        rw [rxKept] at rx
        rw [← txKept] at tx
        exact ⟨.cons rx (.cons tx (.cons (.of_eq rfl) .nil)), second.trans first⟩
    | _ + 2 => exact ⟨.cons (.of_eq rfl) (.cons (.of_eq rfl) (.cons (.of_eq rfl) .nil)), rfl⟩

namespace Balloon
variable (take : Take) (limit : Nat) (queue : VirtQueue) (memory : GuestMemory)

theorem nextAvailDesc_config : (nextAvailDesc queue memory).1.config = queue.config := by
  unfold nextAvailDesc
  split
  · rfl
  · split
    · rfl
    · split
      · rfl
      · dsimp only
        split <;> rfl

private theorem addUsed_config (descIdx : U16) (len : U32) :
    (addUsed queue memory descIdx len).1.config = queue.config := by
  unfold addUsed
  dsimp only
  split
  · rfl
  · split
    · rfl
    · split <;> rfl

private theorem drain_config (take : Take) (limit : Nat) (pass : Pass) :
    (drain take limit pass).1.queue.config = pass.queue.config := by
  induction limit generalizing pass with
  | zero => rfl
  | succ limit ih =>
    have found := nextAvailDesc_config pass.queue pass.memory
    unfold drain
    generalize nextAvailDesc pass.queue pass.memory = answer at found ⊢
    obtain ⟨queue, _ | ⟨descIdx, pfnCount⟩⟩ := answer
    · rfl
    · dsimp only at found ⊢
      split
      · exact found
      · split
        · exact found
        next desc _ _ memory pages _ =>
          have added := addUsed_config queue memory descIdx 0
          generalize addUsed queue memory descIdx 0 = answer at added ⊢
          obtain ⟨queue, memory, _ | _⟩ := answer
          · exact added.trans found
          · exact (ih _).trans (added.trans found)

private theorem runQueue_passed : queue.Passed (runQueue take limit queue memory).1.queue := by
  unfold runQueue
  split
  · exact .of_eq rfl
  next live =>
    refine ⟨drain_config take limit _, fun idle => absurd ?_ idle⟩
    simpa [Live] using live

theorem BalloonDevice.processQueue_passed (device : BalloonDevice) (host : BalloonHost)
    (queueIdx : Nat) (memory : GuestMemory) :
    ∃ inflateQueue deflateQueue, device.inflateQueue.Passed inflateQueue ∧
    device.deflateQueue.Passed deflateQueue ∧
    profile (device.processQueue host queueIdx memory).1 =
    { profile device with queues := [inflateQueue, deflateQueue] } := by
  match queueIdx with
  | 0 =>
    have passed := runQueue_passed (takeInflate host.backing) host.limit device.inflateQueue memory
    refine ⟨_, _, passed, .of_eq rfl, ?_⟩
    show profile (device.processInflate host memory).1 = _
    unfold processInflate
    generalize runQueue _ _ _ _ = answer
    obtain ⟨pass, _ | _⟩ := answer <;> rfl
  | 1 =>
    have passed := runQueue_passed takeDeflate host.limit device.deflateQueue memory
    refine ⟨_, _, .of_eq rfl, passed, ?_⟩
    show profile (device.processDeflate host memory).1 = _
    unfold processDeflate
    generalize runQueue _ _ _ _ = answer
    obtain ⟨pass, _ | _⟩ := answer <;> rfl
  | _ + 2 => exact ⟨_, _, .of_eq rfl, .of_eq rfl, rfl⟩

end Balloon

instance : LawfulVirtioDevice BalloonDevice where
  setAckedFeatures_profile device features :=
    ⟨features &&& device.availFeatures, fun offered => offered, rfl⟩
  mapQueues_profile _ _ := rfl
  writeConfig_profile device offset data := by
    show profile (device.writeConfig offset data) = _
    unfold BalloonDevice.writeConfig
    split <;> rfl
  activate_profile _ := rfl
  reset_profile _ := ⟨0, .inr rfl, rfl⟩
  processQueue_profile device host queueIdx memory := by
    obtain ⟨_, _, inflate, deflate, seen⟩ := device.processQueue_passed host queueIdx memory
    exact ⟨_, .cons inflate (.cons deflate .nil), seen⟩

instance : LawfulVirtioDevice AnyDevice where
  setAckedFeatures_profile device features := by
    rcases device with device | device | device | device | device | device
    all_goals exact setAckedFeatures_profile device features
  mapQueues_profile device change := by
    rcases device with device | device | device | device | device | device
    all_goals exact mapQueues_profile device change
  writeConfig_profile device offset data := by
    rcases device with device | device | device | device | device | device
    all_goals exact writeConfig_profile device offset data
  activate_profile device := by
    rcases device with device | device | device | device | device | device
    all_goals exact activate_profile device
  reset_profile device := by
    rcases device with device | device | device | device | device | device
    all_goals exact reset_profile device
  processQueue_profile device host queueIdx memory := by
    cases device with
    | block device | net device | rng device => exact processQueue_profile device () queueIdx memory
    | balloon device => exact processQueue_profile device host.balloon queueIdx memory
    | fs device => exact processQueue_profile device host.files queueIdx memory
    | vsock device => exact processQueue_profile device host.vsock queueIdx memory

end Visor
