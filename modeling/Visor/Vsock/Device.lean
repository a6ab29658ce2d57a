import Visor.Library.KeyedMap
import Visor.Transport.AvailLoop
import Visor.Vsock.Connection

/-! The connection table and the processing of the TX and RX queues. One pass over a queue reads the
clock once and meets the connection table in one iteration order. The ledger records what crossed
each connection since it was opened; the device never reads it. -/

namespace Visor.Vsock
open Library Function

instance : DescriptorErrors VsockError where
  memory := .memory
  invalidDescriptor := .invalidDescriptor

structure ConnMapKey where
  localPort : U32
  peerPort : U32
deriving DecidableEq

def ConnMapKey.ofGuest (pkt : VsockPacket) : ConnMapKey where
  localPort := pkt.dstPort
  peerPort := pkt.srcPort

/-- Payload bytes that `send_pkt` stored, and packets placed in the guest's buffers. -/
structure Ledger where
  sent : List U8 := []
  delivered : List (VsockPacket × List U8) := []

structure Delivery where
  key : ConnMapKey
  pkt : VsockPacket
  payload : List U8

structure VsockDevice where
  guestCid : U64
  rxQueue : VirtQueue
  txQueue : VirtQueue
  activated : Bool
  connections : KeyedMap ConnMapKey VsockConnection
  /-- The stored permit of the notification that wakes the muxer. -/
  txPermit : Bool
  ledger : ConnMapKey → Ledger

def queueMaxSize : U16 := 256

namespace VsockDevice
def new (guestCid : U64) : VsockDevice where
  guestCid := guestCid
  rxQueue := .new queueMaxSize
  txQueue := .new queueMaxSize
  activated := false
  connections := ∅
  txPermit := false
  ledger := fun _ => {}

variable (device : VsockDevice) (memory : GuestMemory) (queue : VirtQueue) (headIdx : U16)
  (now : Nat) (key : ConnMapKey) (order : List ConnMapKey)

def addConnection (conn : VsockConnection) : VsockDevice :=
  { device with
    connections := device.connections.insert key conn
    ledger := update device.ledger key {} }

def removeConnection : VsockDevice := { device with connections := device.connections.erase key }

def updateConnection (update : VsockConnection → VsockConnection) :
    VsockDevice := { device with connections := device.connections.modify key update }

def record (entry : Ledger → Ledger) : VsockDevice :=
  { device with ledger := update device.ledger key (entry (device.ledger key)) }

def expireConnections : VsockDevice :=
  let expired := device.connections.keys.filter fun key =>
    (device.connections.lookup key).any (·.hasExpired now)
  expired.foldl removeConnection device

/-- The packet in a TX chain; `none` if the header descriptor is too small. -/
def readPacket : Except VsockError (Option (VsockPacket × List U8)) := do
  let headerDesc ← queue.readDesc memory headIdx
  if headerDesc.len.toNat < vsockPktHdrSize then return none
  let hdrBytes ← memory.tryRead headerDesc.addr vsockPktHdrSize
  let some pkt := VsockPacket.fromBytes hdrBytes | return none
  if headerDesc.hasNext then
    let dataDesc ← queue.readDesc memory headerDesc.next
    let len := min dataDesc.len.toNat pkt.len.toNat
    if len > 0 then
      let payload ← memory.tryRead dataDesc.addr len
      return some (pkt, payload)
    else return some (pkt, [])
  else return some (pkt, [])

def stored (conn : VsockConnection) (pkt : VsockPacket) (payload : List U8) (now : Nat) : List U8 :=
  if conn.txBuf.len < (conn.sendPkt pkt payload now).1.txBuf.len then payload else []

def sendPkt (device : VsockDevice) (key : ConnMapKey) (pkt : VsockPacket) (payload : List U8)
    (now : Nat) : VsockDevice :=
  match device.connections.lookup key with
  | none => device
  | some conn =>
    (device.updateConnection key fun conn => (conn.sendPkt pkt payload now).1).record key
      fun ledger => { ledger with sent := ledger.sent ++ stored conn pkt payload now }

/-- Hand a guest packet to its connection: REQUEST opens one, RST removes it. -/
def dispatch (pkt : VsockPacket) (payload : List U8) (now : Nat) : VsockDevice :=
  let key := ConnMapKey.ofGuest pkt
  match VsockOp.fromU16 pkt.op with
  | some .request =>
    if (device.connections.lookup key).isSome then device
    else
      device.addConnection key (.newPeerInit hostCid device.guestCid pkt.dstPort pkt.srcPort pkt.bufAlloc)
  | some .rst => device.removeConnection key
  | _ => device.sendPkt key pkt payload now

def handleTxChain : VsockDevice :=
  match readPacket memory queue headIdx with
  | .ok (some (pkt, payload)) => device.dispatch pkt payload now
  | .ok none => device
  | .error _ => device

def txService (now : Nat) : QueueService VsockDevice Unit Unit VsockError where
  poll device := (device, some ())
  serve device memory queue _ headIdx :=
    (device.handleTxChain memory queue headIdx now, memory, .ok (some (0, ())))
  settle device memory _ _ _ := (device, memory, .ok ())

def pendingKeys : List ConnMapKey :=
  (device.connections.iterate order).filter fun key => (device.connections.lookup key).any (·.hasPendingRx)

/-- Where the payload of an RX chain goes, and how much of it fits. -/
structure RxChain where
  headerDesc : VirtqDesc
  payloadAddr : Option U64
  maxDataLen : Nat

def readRxChain : Except VsockError RxChain := do
  let headerDesc ← queue.readDesc memory headIdx
  if headerDesc.hasNext then
    let dataDesc ← queue.readDesc memory headerDesc.next
    return {
      headerDesc := headerDesc
      payloadAddr := some dataDesc.addr
      maxDataLen := dataDesc.len.toNat }
  else
    let inlineCapacity := headerDesc.len.toNat - vsockPktHdrSize
    return {
      headerDesc := headerDesc
      payloadAddr :=
        if inlineCapacity > 0 then some (headerDesc.addr + BitVec.ofNat 64 vsockPktHdrSize)
        else none
      maxDataLen := inlineCapacity }

def firstPacket (maxDataLen now : Nat) : List ConnMapKey → VsockDevice → VsockDevice × Option Delivery
  | [], device => (device, none)
  | key :: rest, device =>
    match device.connections.lookup key with
    | none => firstPacket maxDataLen now rest device
    | some conn =>
      let after := device.updateConnection key fun conn => (conn.recvPkt maxDataLen now).1
      match (conn.recvPkt maxDataLen now).2 with
      | .error _ => firstPacket maxDataLen now rest after
      | .ok (pkt, payload) => (after, some ⟨key, pkt, payload⟩)

/-- Place a packet in the guest's buffers. A header that does not fit is left out, and
still counted. -/
def writePacket (chain : RxChain) (pkt : VsockPacket) (payload : List U8) :
    GuestMemory × Except VsockError U32 :=
  let header : GuestMemory × Except VsockError Unit :=
    if chain.headerDesc.len.toNat ≥ vsockPktHdrSize then
      memory.tryWrite chain.headerDesc.addr pkt.toBytes
    else (memory, .ok ())
  match header with
  | (memory, .error error) => (memory, .error error)
  | (memory, .ok ()) =>
    let totalWritten : U32 := BitVec.ofNat 32 vsockPktHdrSize
    if payload.isEmpty then (memory, .ok totalWritten)
    else
      let writeLen := min payload.length chain.maxDataLen
      let total := totalWritten.toNat + (saturateU32 writeLen).toNat
      match chain.payloadAddr with
      | none => (memory, .ok (saturateU32 total))
      | some addr =>
        match memory.tryWrite addr (payload.take writeLen) with
        | (memory, .error error) => (memory, .error error)
        | (memory, .ok ()) => (memory, .ok (saturateU32 total))

def serveRx (pending : List ConnMapKey) (headIdx : U16) (now : Nat) :
    VsockDevice × GuestMemory × Except VsockError (Option (U32 × Delivery × Bool)) :=
  match readRxChain memory queue headIdx with
  | .error error => (device, memory, .error error)
  | .ok chain =>
    match firstPacket chain.maxDataLen now pending device with
    | (device, none) => (device, memory, .ok none)
    | (device, some delivery) =>
      match writePacket memory chain delivery.pkt delivery.payload with
      | (memory, .error error) => (device, memory, .error error)
      | (memory, .ok totalWritten) =>
        let placed := decide (chain.headerDesc.len.toNat ≥ vsockPktHdrSize)
        (device, memory, .ok (some (totalWritten, delivery, placed)))

/-- Once its packet is in the used ring: a connection that sent RST is removed. -/
def settleRx (delivery : Delivery) (placed : Bool) : VsockDevice :=
  let device :=
    if placed then
      device.record delivery.key fun ledger =>
        { ledger with delivered := ledger.delivered ++ [(delivery.pkt, delivery.payload)] }
    else device
  if delivery.pkt.op = VsockOp.rst.toU16 then device.removeConnection delivery.key else device

def rxService (now : Nat) : QueueService VsockDevice (List ConnMapKey) (Delivery × Bool) VsockError where
  poll device :=
    let pending := device.pendingKeys order
    (device, if pending.isEmpty then none else some pending)
  serve device memory queue pending headIdx := device.serveRx memory queue pending headIdx now
  settle device memory _ _ note := (device.settleRx note.1 note.2, memory, .ok ())

/-- Pass over the TX queue; only the indices of the queue are written back. -/
def runTx : VsockDevice × GuestMemory × Bool :=
  let (progress, result) := (txService now).processQueue device memory device.txQueue
  ({ progress.device with
    txQueue := { device.txQueue with
      lastAvailIdx := progress.queue.lastAvailIdx
      lastUsedIdx := progress.queue.lastUsedIdx } }, progress.memory, result.toOption.getD false)

def runRx (now : Nat) : VsockDevice × GuestMemory × Bool :=
  let (progress, result) := (rxService order now).processQueue device memory device.rxQueue
  ({ progress.device with
    rxQueue := { device.rxQueue with
      lastAvailIdx := progress.queue.lastAvailIdx
      lastUsedIdx := progress.queue.lastUsedIdx } }, progress.memory, result.toOption.getD false)

/-- The queues the guest can notify; the event queue has no work. -/
inductive QueueIndex where
  | rx
  | tx
  | event

def processQueue (queueIdx : QueueIndex) (memory : GuestMemory) (order : List ConnMapKey)
    (now : Nat) : VsockDevice × GuestMemory × Bool :=
  match queueIdx with
  | .tx =>
    let (device, memory, txOk) := device.runTx memory now
    let (device, memory, rxOk) := device.runRx memory order now
    ({ device with txPermit := device.txPermit || txOk }, memory, txOk || rxOk)
  | .rx => device.runRx memory order now
  | .event => (device, memory, false)

/-- Driver reset. Connections made before the first activation are kept. -/
def reset (device : VsockDevice) : VsockDevice :=
  { device with
    activated := false
    connections := if device.activated then ∅ else device.connections
    rxQueue := device.rxQueue.reset
    txQueue := device.txQueue.reset }

end VsockDevice
end Visor.Vsock
