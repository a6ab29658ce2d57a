import Visor.Transport.VirtQueue

/-! The registers through which a guest driver discovers, configures and notifies a virtio device.
The transport also records each call of the device's `process_queue`, the last one first; no
register shows that record. -/

namespace Visor
open Library VirtioDevice

def mmioMagic : U32 := 0x74726976
def mmioVersion : U32 := 2
def vendorId : U32 := 0
def virtioMmioIntVring : U32 := 1

namespace DeviceStatus
def init : U32 := 0
def acknowledge : U32 := 1
def driver : U32 := 2
def featuresOk : U32 := 8
def driverOk : U32 := 4
def failed : U32 := 128

end DeviceStatus

open DeviceStatus

/-- A call of `process_queue`, with the status and the device it was made in. -/
structure QueueCall where
  queueIdx : Nat
  deviceStatus : U32
  activated : Bool
  before : List VirtQueue
  after : List VirtQueue

/-- `irqEvt` and `irqDeassert` count the signals sent, if there is anyone to send them to. -/
structure MmioTransport (Device : Type) where
  device : Device
  featuresSelect : U32
  ackedFeaturesSelect : U32
  queueSelect : U32
  deviceStatus : U32
  configGeneration : U32
  interruptStatus : U32
  memory : Option GuestMemory
  irqEvt : Option Nat
  irqDeassert : Option Nat
  calls : List QueueCall := []

namespace MmioTransport
variable {Device Host : Type} [VirtioDevice Device Host] (transport : MmioTransport Device)
  (host : Host) (offset : U64) (value : U32)

def new (device : Device) : MmioTransport Device where
  device := device
  featuresSelect := 0
  ackedFeaturesSelect := 0
  queueSelect := 0
  deviceStatus := init
  configGeneration := 0
  interruptStatus := 0
  memory := none
  irqEvt := none
  irqDeassert := none

def setMemory (memory : GuestMemory) : MmioTransport Device := { transport with memory := some memory }
def setIrqEvt : MmioTransport Device := { transport with irqEvt := some 0 }
def setIrqDeassert : MmioTransport Device := { transport with irqDeassert := some 0 }
def triggerInterrupt (flags : U32) : MmioTransport Device :=
  { transport with interruptStatus := transport.interruptStatus ||| flags }

def processQueue (transport : MmioTransport Device) (host : Host) (queueIdx : Nat)
    (memory : GuestMemory) : MmioTransport Device × Bool :=
  let (device, memory, result) := VirtioDevice.processQueue transport.device host queueIdx memory
  let call : QueueCall := {
    queueIdx := queueIdx
    deviceStatus := transport.deviceStatus
    activated := isActivated transport.device
    before := queues transport.device
    after := queues device }
  let transport := { transport with
    device := device
    memory := some memory
    calls := call :: transport.calls }
  if result.toOption.getD false then
    ({ transport.triggerInterrupt virtioMmioIntVring with
      irqEvt := transport.irqEvt.map (· + 1) }, true)
  else (transport, false)

def processExternalQueue (queueIdx : Nat) : MmioTransport Device × Bool :=
  match transport.memory with
  | none => (transport, false)
  | some memory =>
    if !isActivated transport.device then (transport, false)
    else transport.processQueue host queueIdx memory

/-- `QueueNotify`: unlike a call from outside, it does not ask whether the device is active. -/
def queueNotify (queueIdx : Nat) : MmioTransport Device :=
  match transport.memory with
  | none => transport
  | some memory => (transport.processQueue host queueIdx memory).1

def checkStatus (required forbidden : U32) : Bool :=
  transport.deviceStatus &&& (required ||| forbidden) == required

def withQueue (read : VirtQueue → U32) : U32 :=
  match (queues transport.device)[transport.queueSelect.toNat]? with
  | some queue => read queue
  | none => 0

def updateQueueField (change : VirtQueue → VirtQueue) : MmioTransport Device :=
  if !transport.checkStatus featuresOk (driverOk ||| failed) then transport
  else
    { transport with
      device :=
        mapQueues transport.device fun index queue => if index = transport.queueSelect.toNat then
        change queue else queue }

def reset (transport : MmioTransport Device) : MmioTransport Device :=
  { transport with
    featuresSelect := 0
    ackedFeaturesSelect := 0
    queueSelect := 0
    deviceStatus := init
    interruptStatus := 0
    device := mapQueues (VirtioDevice.reset transport.device) fun _ queue => queue.reset }

/-- Activation at DRIVER_OK, and whether the RX queue of a vsock device is to be drained. -/
def activateDevice : MmioTransport Device × Bool :=
  if isActivated transport.device then (transport, false)
  else
    match activate transport.device with
    | (device, .error _) =>
      ({ transport with
        device := device
        deviceStatus := transport.deviceStatus ||| failed }, false)
    | (device, .ok ()) =>
      ({ transport with device := device }, decide (deviceType transport.device = .vsock))

/-- The status machine. A transition is chosen by the bits that the written value adds, and
the value is then stored as it was written. -/
def setDeviceStatus (status : U32) : MmioTransport Device :=
  if status = 0 then transport.reset
  else if status &&& failed ≠ 0 then
    { transport with deviceStatus := transport.deviceStatus ||| failed }
  else
    let current := transport.deviceStatus
    let changed := ~~~current &&& status
    let stored := { transport with deviceStatus := status }
    if changed = acknowledge ∧ current = init then stored
    else if changed = driver ∧ current = acknowledge then stored
    else if changed = featuresOk ∧
      current = acknowledge ||| driver then stored
    else if changed = driverOk ∧
      current = acknowledge ||| driver ||| featuresOk then
      let (activated, kickVsockRx) := stored.activateDevice
      if kickVsockRx then (activated.processExternalQueue host 0).1 else activated
    else transport

/-- `DriverFeatures`: accepted bits are added to those acknowledged before. -/
def ackFeatures : MmioTransport Device :=
  let page : Option U64 :=
    if transport.ackedFeaturesSelect = 0 then some (value.setWidth 64)
    else if transport.ackedFeaturesSelect = 1 then some (value.setWidth 64 <<< 32)
    else none
  match page with
  | none => transport
  | some pageFeatures =>
    let available := availFeatures transport.device
    let alreadyAcked := ackedFeatures transport.device
    let newAcked := alreadyAcked ||| (pageFeatures &&& available)
    { transport with device := setAckedFeatures transport.device newAcked }

def ackInterrupt : MmioTransport Device :=
  let pending := transport.interruptStatus &&& ~~~value
  { transport with
    interruptStatus := pending
    irqDeassert := if pending = 0 then transport.irqDeassert.map (· + 1)
      else transport.irqDeassert }

def lowHalf (addr : U64) (value : U32) : U64 := (addr &&& ~~~0xffffffff) ||| value.setWidth 64
def highHalf (addr : U64) (value : U32) : U64 := (addr &&& 0xffffffff) ||| (value.setWidth 64 <<< 32)

def readRegister : U32 :=
  match offset.toNat with
  | 0x00 => mmioMagic
  | 0x04 => mmioVersion
  | 0x08 => (deviceType transport.device).toU32
  | 0x0c => vendorId
  | 0x10 =>
    let features := availFeatures transport.device
    if transport.featuresSelect = 0 then (features &&& 0xffffffff).setWidth 32
    else if transport.featuresSelect = 1 then (features >>> 32).setWidth 32
    else 0
  | 0x34 => transport.withQueue fun queue => queue.maxSize.setWidth 32
  | 0x44 => transport.withQueue fun queue => if queue.ready then 1 else 0
  | 0x60 => transport.interruptStatus
  | 0x70 => transport.deviceStatus
  | 0xfc => transport.configGeneration
  | _ => 0

def writeRegister : MmioTransport Device :=
  match offset.toNat with
  | 0x14 => { transport with featuresSelect := value }
  | 0x20 =>
    if transport.checkStatus driver featuresOk then
      transport.ackFeatures value
    else transport
  | 0x24 => { transport with ackedFeaturesSelect := value }
  | 0x30 => { transport with queueSelect := value }
  | 0x38 => transport.updateQueueField fun queue => { queue with size := value.setWidth 16 }
  | 0x44 => transport.updateQueueField fun queue => { queue with ready := value == 1 }
  | 0x50 => transport.queueNotify host value.toNat
  | 0x64 =>
    if transport.checkStatus driverOk 0 then transport.ackInterrupt value
    else transport
  | 0x70 => transport.setDeviceStatus host value
  | 0x80 =>
    transport.updateQueueField fun queue =>
      { queue with descTableAddr := lowHalf queue.descTableAddr value }
  | 0x84 =>
    transport.updateQueueField fun queue =>
      { queue with descTableAddr := highHalf queue.descTableAddr value }
  | 0x90 =>
    transport.updateQueueField fun queue =>
      { queue with availRingAddr := lowHalf queue.availRingAddr value }
  | 0x94 =>
    transport.updateQueueField fun queue =>
      { queue with availRingAddr := highHalf queue.availRingAddr value }
  | 0xa0 =>
    transport.updateQueueField fun queue => { queue with usedRingAddr := lowHalf queue.usedRingAddr value }
  | 0xa4 =>
    transport.updateQueueField fun queue => { queue with usedRingAddr := highHalf queue.usedRingAddr value }
  | _ => transport

def read (data : List U8) : List U8 :=
  if offset.toNat ≤ 0xff ∧ data.length = 4 then
    toLeBytes 4 (transport.readRegister offset).toNat
  else if 0x100 ≤ offset.toNat ∧ offset.toNat ≤ 0xfff then
    readConfig transport.device (offset - 0x100) data
  else data

def write (data : List U8) : MmioTransport Device :=
  if offset.toNat ≤ 0xff ∧ data.length = 4 then
    transport.writeRegister host offset (BitVec.ofNat 32 (leField data 0 4))
  else if 0x100 ≤ offset.toNat ∧ offset.toNat ≤ 0xfff then
    { transport with
      device := writeConfig transport.device (offset - 0x100) data }
  else transport

end MmioTransport

/-- Something that the host does to a device behind the transport, such as a packet that
arrives. It leaves what the transport sees of the device. -/
structure HostAction (Device : Type) {Host : outParam Type} [VirtioDevice Device Host] where
  act : Device → Device
  kept : ∀ device, profile (act device) = profile device

/-- What can happen to a transport: accesses of the guest to the bus and to its own memory,
and the host's part. -/
inductive Access (Device : Type) {Host : outParam Type} [VirtioDevice Device Host] where
  | read (offset : U64) (data : List U8)
  | write (host : Host) (offset : U64) (data : List U8)
  | guest (memory : GuestMemory)
  | poll (host : Host) (queueIdx : Nat)
  | interrupt (flags : U32)
  | host (action : HostAction Device)

/-- The value that the access writes to the register at the offset, if it does. -/
def Access.wrote {Device Host : Type} [VirtioDevice Device Host] (access : Access Device)
    (register : Nat) : Option U32 :=
  match access with
  | .write _ offset data =>
    if offset.toNat ≤ 0xff ∧ data.length = 4 ∧ offset.toNat = register then
      some (BitVec.ofNat 32 (leField data 0 4))
    else none
  | _ => none

def MmioTransport.step {Device Host : Type} [VirtioDevice Device Host]
    (transport : MmioTransport Device) : Access Device → MmioTransport Device
  | .read _ _ => transport
  | .write host offset data => transport.write host offset data
  | .guest memory => { transport with memory := transport.memory.map fun _ => memory }
  | .poll host queueIdx => (transport.processExternalQueue host queueIdx).1
  | .interrupt flags => transport.triggerInterrupt flags
  | .host action => { transport with device := action.act transport.device }

end Visor
