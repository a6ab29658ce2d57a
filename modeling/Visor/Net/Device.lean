import Visor.Transport.AvailLoop

/-! The TX queue takes frames from the guest and the RX queue gives frames to it, through a
packet backend. Every frame has a virtio header in front in guest memory. -/

namespace Visor.Net
open Library VirtQueue QueueService

inductive NetError where
  | memory (error : MemoryError)
  | invalidDescriptor (text : String)

instance : DescriptorErrors NetError where
  memory := .memory
  invalidDescriptor := .invalidDescriptor

def vnetHdrSize : Nat := 12
def maxFrameSize : Nat := 1514
def queueMaxSize : U16 := 256

/-- A packet backend: the frames it was given, and its next answers to `try_recv`. -/
structure PacketIo where
  sent : List (List U8)
  incoming : List (Except IoError (List U8))

namespace PacketIo
def send (io : PacketIo) (frame : List U8) : PacketIo := { io with sent := io.sent ++ [frame] }

def tryRecv (io : PacketIo) (capacity : Nat) : PacketIo × Except IoError (List U8) :=
  match io.incoming with
  | [] => (io, .error .wouldBlock)
  | answer :: rest => ({ io with incoming := rest }, answer.map (·.take capacity))

end PacketIo

structure NetDevice where
  rxQueue : VirtQueue
  txQueue : VirtQueue
  activated : Bool
  packetIo : Option PacketIo

namespace NetDevice
def new (packetIo : Option PacketIo) : NetDevice where
  rxQueue := .new queueMaxSize
  txQueue := .new queueMaxSize
  activated := false
  packetIo := packetIo

def gatherFrom (memory : GuestMemory) (queue : VirtQueue) : Nat → VirtqDesc → Except NetError (List U8)
  | allowed, current =>
    if !current.hasNext then .ok []
    else
      match allowed with
      | 0 => .error (.invalidDescriptor "descriptor chain cycle detected")
      | allowed + 1 => do
        let next ← queue.readDesc memory current.next
        let bytes ← memory.tryRead next.addr next.len.toNat
        let rest ← gatherFrom memory queue allowed next
        return bytes ++ rest

variable (device : NetDevice) (memory : GuestMemory) (queue : VirtQueue) (headIdx : U16)

def readChain : Except NetError (List U8) := do
  let headerDesc ← queue.readDesc memory headIdx
  let firstBytes ← memory.tryRead headerDesc.addr headerDesc.len.toNat
  let rest ← gatherFrom memory queue (queue.size.toNat - 1) headerDesc
  return firstBytes ++ rest

def handleTxChain : NetDevice :=
  match readChain memory queue headIdx with
  | .error _ => device
  | .ok chainData =>
    if chainData.length < vnetHdrSize then device
    else
      let frame := chainData.drop vnetHdrSize
      if frame.isEmpty then device
      else { device with packetIo := device.packetIo.map (·.send frame) }

def txService : QueueService NetDevice Unit Unit NetError where
  poll device := (device, some ())
  serve device memory queue _ headIdx :=
    (device.handleTxChain memory queue headIdx, memory, .ok (some (0, ())))
  settle device memory _ _ _ := (device, memory, .ok ())

def recvFrame : NetDevice × Option (List U8) :=
  match device.packetIo with
  | none => (device, none)
  | some io =>
    match io.tryRecv maxFrameSize with
    | (io, .error _) => ({ device with packetIo := some io }, none)
    | (io, .ok frame) => ({ device with packetIo := some io }, if frame.isEmpty then none else some frame)

def writeRxFrom (queue : VirtQueue) : Nat → VirtqDesc → GuestMemory → List U8 → U32 →
    GuestMemory × Except NetError U32
  | 0, _, memory, _, _ => (memory, .error (.invalidDescriptor "descriptor chain cycle detected"))
  | allowed + 1, desc, memory, remaining, written =>
    let writeLen := min remaining.length desc.len.toNat
    let wrote : GuestMemory × Except NetError Unit :=
      if writeLen > 0 then memory.tryWrite desc.addr (remaining.take writeLen)
      else (memory, .ok ())
    match wrote with
    | (memory, .error error) => (memory, .error error)
    | (memory, .ok ()) =>
      let written := saturateU32 (written.toNat + (saturateU32 writeLen).toNat)
      let remaining := remaining.drop writeLen
      if remaining.isEmpty || !desc.hasNext then (memory, .ok written)
      else
        match queue.readDesc memory desc.next with
        | .error error => (memory, .error error)
        | .ok desc => writeRxFrom queue allowed desc memory remaining written

def writeRxChain (firstDesc : VirtqDesc) (vnetHdr frame : List U8) : GuestMemory × Except NetError U32 :=
  writeRxFrom queue queue.size.toNat firstDesc memory (vnetHdr ++ frame) 0

/-- A chain that is not writable, or that takes nothing, ends the pass. -/
def serveRx (frame : List U8) (headIdx : U16) : GuestMemory × Except NetError (Option (U32 × Unit)) :=
  match queue.readDesc memory headIdx with
  | .error error => (memory, .error error)
  | .ok headerDesc =>
    if !headerDesc.isWritable then (memory, .ok none)
    else
      match writeRxChain memory queue headerDesc (List.replicate vnetHdrSize 0) frame with
      | (memory, .error error) => (memory, .error error)
      | (memory, .ok totalWritten) =>
        if totalWritten = 0 then (memory, .ok none)
        else (memory, .ok (some (totalWritten, ())))

def rxService : QueueService NetDevice (List U8) Unit NetError where
  poll device := device.recvFrame
  serve device memory queue frame headIdx :=
    let (memory, result) := serveRx memory queue frame headIdx
    (device, memory, result)
  settle device memory _ _ _ := (device, memory, .ok ())

inductive QueueIndex where
  | rx
  | tx

def runTx : NetDevice × GuestMemory × Bool :=
  let (progress, result) := txService.processQueue device memory device.txQueue
  ({ progress.device with
    txQueue := { device.txQueue with
      lastAvailIdx := progress.queue.lastAvailIdx
      lastUsedIdx := progress.queue.lastUsedIdx } }, progress.memory, result.toOption.getD false)

def runRx : NetDevice × GuestMemory × Bool :=
  let (progress, result) := rxService.processQueue device memory device.rxQueue
  ({ progress.device with
    rxQueue := { device.rxQueue with
      lastAvailIdx := progress.queue.lastAvailIdx
      lastUsedIdx := progress.queue.lastUsedIdx } }, progress.memory, result.toOption.getD false)

def processQueue (queueIdx : QueueIndex) (memory : GuestMemory) : NetDevice × GuestMemory × Bool :=
  if device.packetIo.isNone then (device, memory, false)
  else
    match queueIdx with
    | .tx => device.runTx memory
    | .rx => device.runRx memory

end NetDevice
end Visor.Net
