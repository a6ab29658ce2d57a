import Visor.Memory.GuestMemory

/-! Split virtqueue state and the accesses to its rings in guest memory that every device backend
makes. Guest addresses are 64-bit and wrap. A write that succeeds stays in guest memory when a later
one of the same operation fails, so operations that write return the memory beside their result. -/

namespace Visor
open Library

def virtqDescFNext : U16 := 1
def virtqDescFWrite : U16 := 2

structure VirtqDesc where
  addr : U64
  len : U32
  flags : U16
  next : U16
deriving DecidableEq

namespace VirtqDesc
def hasNext (desc : VirtqDesc) : Bool := desc.flags &&& virtqDescFNext != 0
def isWritable (desc : VirtqDesc) : Bool := desc.flags &&& virtqDescFWrite != 0

end VirtqDesc

structure VirtQueue where
  maxSize : U16
  size : U16
  ready : Bool
  descTableAddr : U64
  availRingAddr : U64
  usedRingAddr : U64
  lastAvailIdx : U16
  lastUsedIdx : U16
deriving DecidableEq

/-- The two errors that every device's error type has for queue accesses. -/
class DescriptorErrors (Error : Type) where
  memory : MemoryError → Error
  invalidDescriptor : String → Error

variable (memory : GuestMemory) (addr : U64) (queue : VirtQueue)

def GuestMemory.tryWrite {Error : Type} [DescriptorErrors Error] (data : List U8) :
    GuestMemory × Except Error Unit :=
  match memory.writeBytes addr data with
  | .error error => (memory, .error (DescriptorErrors.memory error))
  | .ok memory => (memory, .ok ())

def GuestMemory.tryRead {Error : Type} [DescriptorErrors Error] (len : Nat) : Except Error (List U8) :=
  match memory.readBytes addr len with
  | .error error => .error (DescriptorErrors.memory error)
  | .ok bytes => .ok bytes

namespace VirtQueue
def new (maxSize : U16) : VirtQueue where
  maxSize := maxSize
  size := 0
  ready := false
  descTableAddr := 0
  availRingAddr := 0
  usedRingAddr := 0
  lastAvailIdx := 0
  lastUsedIdx := 0

variable (queue : VirtQueue)

def reset : VirtQueue := new queue.maxSize
def descAddr (idx : U16) : U64 := queue.descTableAddr + idx.setWidth 64 * 16
def availEntryAddr : U64 := queue.availRingAddr + (4 + (queue.lastAvailIdx % queue.size).setWidth 64 * 2)
def usedEntryAddr : U64 := queue.usedRingAddr + (4 + (queue.lastUsedIdx % queue.size).setWidth 64 * 8)

section
variable {Error : Type} [DescriptorErrors Error]
variable (memory : GuestMemory) (queue : VirtQueue)

def readDesc (idx : U16) : Except Error VirtqDesc :=
  if idx ≥ queue.size then
    let index := idx.toNat
    let size := queue.size.toNat
    .error (DescriptorErrors.invalidDescriptor s!"descriptor index {index} >= queue size {size}")
  else
    match memory.tryRead (queue.descAddr idx) 16 with
    | .error error => .error error
    | .ok bytes => .ok {
      addr := BitVec.ofNat 64 (leField bytes 0 8)
      len := BitVec.ofNat 32 (leField bytes 8 4)
      flags := BitVec.ofNat 16 (leField bytes 12 2)
      next := BitVec.ofNat 16 (leField bytes 14 2) }

def readAvailIdx : Except Error U16 :=
  match memory.tryRead (queue.availRingAddr + 2) 2 with
  | .error error => .error error
  | .ok bytes => .ok (BitVec.ofNat 16 (leField bytes 0 2))

def readAvailEntry : Except Error U16 :=
  match memory.tryRead queue.availEntryAddr 2 with
  | .error error => .error error
  | .ok bytes => .ok (BitVec.ofNat 16 (leField bytes 0 2))

def writeUsedEntry (headIdx : U16) (written : U32) : GuestMemory × Except Error Unit :=
  match memory.tryWrite queue.usedEntryAddr (toLeBytes 4 headIdx.toNat) with
  | (memory, .error error) => (memory, .error error)
  | (memory, .ok ()) => memory.tryWrite (queue.usedEntryAddr + 4) (toLeBytes 4 written.toNat)

def writeUsedIdx : GuestMemory × Except Error Unit :=
  memory.tryWrite (queue.usedRingAddr + 2) (toLeBytes 2 queue.lastUsedIdx.toNat)

end

def advance : VirtQueue :=
  { queue with
    lastAvailIdx := queue.lastAvailIdx + 1
    lastUsedIdx := queue.lastUsedIdx + 1 }

end VirtQueue

/-! What a device backend offers to its transport. A transport reads and changes a device only
through this interface, so the laws at the end say all that it can rely on. -/

inductive DeviceType where
  | net
  | block
  | console
  | rng
  | balloon
  | vsock
  | fs
deriving DecidableEq

def DeviceType.toU32 : DeviceType → U32
  | .net => 1
  | .block => 2
  | .console => 3
  | .rng => 4
  | .balloon => 5
  | .vsock => 19
  | .fs => 26

def virtioFVersion1 : U64 := 1 <<< 32

inductive VirtioError where
  | activationFailed

/-- The trait of the device backends. `Host` is what a pass over a queue finds on the host:
a clock, a file system, an iteration order. -/
class VirtioDevice (Device : Type) (Host : outParam Type) where
  deviceType : Device → DeviceType
  availFeatures : Device → U64
  ackedFeatures : Device → U64
  setAckedFeatures : Device → U64 → Device
  queues : Device → List VirtQueue
  /-- `queues_mut`: the queues changed in place, each by its index. -/
  mapQueues : Device → (Nat → VirtQueue → VirtQueue) → Device
  /-- The caller's buffer, filled from the configuration space. -/
  readConfig : Device → U64 → List U8 → List U8
  writeConfig : Device → U64 → List U8 → Device
  activate : Device → Device × Except VirtioError Unit
  isActivated : Device → Bool
  reset : Device → Device
  processQueue : Device → Host → Nat → GuestMemory → Device × GuestMemory × Except VirtioError Bool

def VirtQueue.config : VirtQueue := { queue with lastAvailIdx := 0, lastUsedIdx := 0 }
def VirtQueue.Live : Prop := queue.ready = true ∧ queue.size ≠ 0

instance : Decidable queue.Live := inferInstanceAs (Decidable (_ ∧ _))

/-- What a pass may do to a queue: move its indices, if the queue is live. -/
structure VirtQueue.Passed (before after : VirtQueue) : Prop where
  config : after.config = before.config
  idle : ¬ before.Live → after = before

theorem VirtQueue.Passed.of_eq {before after : VirtQueue} (same : after = before) :
    before.Passed after := ⟨congrArg VirtQueue.config same, fun _ => same⟩

/-- All that a transport can tell about a device, its configuration space apart. -/
structure Profile where
  deviceType : DeviceType
  availFeatures : U64
  ackedFeatures : U64
  queues : List VirtQueue
  activated : Bool

namespace VirtioDevice
variable {Device Host : Type} [VirtioDevice Device Host]

def profile (device : Device) : Profile where
  deviceType := deviceType device
  availFeatures := availFeatures device
  ackedFeatures := ackedFeatures device
  queues := queues device
  activated := isActivated device

end VirtioDevice

open VirtioDevice in
/-- What each operation does to the profile. A device may refuse to acknowledge features that
it does not offer, and may keep those acknowledged over a reset. -/
class LawfulVirtioDevice (Device : Type) {Host : outParam Type} [VirtioDevice Device Host] : Prop where
  setAckedFeatures_profile (device : Device) (features : U64) :
    ∃ acked, (features &&& availFeatures device = features → acked = features) ∧
    profile (setAckedFeatures device features) = { profile device with ackedFeatures := acked }
  mapQueues_profile (device : Device) (change : Nat → VirtQueue → VirtQueue) :
    profile (mapQueues device change) =
    { profile device with queues := (queues device).mapIdx change }
  writeConfig_profile (device : Device) (offset : U64) (data : List U8) :
    profile (writeConfig device offset data) = profile device
  activate_profile (device : Device) : profile (activate device).1 =
    match (activate device).2 with
    | .ok () => { profile device with activated := true }
    | .error _ => profile device
  reset_profile (device : Device) : ∃ acked, (acked = ackedFeatures device ∨ acked = 0) ∧
    profile (reset device) =
      { profile device with
        ackedFeatures := acked
        queues := (queues device).map VirtQueue.reset
        activated := false }
  processQueue_profile (device : Device) (host : Host) (queueIdx : Nat) (memory : GuestMemory) :
    ∃ passed, List.Forall₂ VirtQueue.Passed (queues device) passed ∧
      profile (processQueue device host queueIdx memory).1 = { profile device with queues := passed }

end Visor
