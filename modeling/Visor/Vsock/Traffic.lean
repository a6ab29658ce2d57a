import Visor.Vsock.Device

/-! The queue passes without the rings: the packets a TX pass takes from the guest, and the buffers
an RX pass meets. Every pass over the rings is one of these. -/

namespace Visor.Vsock
open Library ConnMapKey

/-- Packets that one TX pass takes, and whether it ends without an error after taking
a chain. -/
structure TxPass where
  packets : List (VsockPacket × List U8)
  completed : Bool
  now : Nat

/-- A guest buffer as an RX pass meets it. A packet whose header does not fit is
completed all the same. A packet that cannot be written, or whose used entry cannot,
is lost and ends the pass. -/
structure RxBuffer where
  maxDataLen : Nat
  headerFits : Bool
  writable : Bool

structure RxPass where
  buffers : List RxBuffer
  order : List ConnMapKey
  now : Nat

namespace VsockDevice
def transmit (device : VsockDevice) (packets : List (VsockPacket × List U8)) (now : Nat) :
    VsockDevice := packets.foldl (fun device packet => device.dispatch packet.1 packet.2 now) device

def fillBuffers (order : List ConnMapKey) (now : Nat) : List RxBuffer → VsockDevice → VsockDevice
  | [], device => device
  | buffer :: rest, device =>
    match firstPacket buffer.maxDataLen now (device.pendingKeys order) device with
    | (device, none) => device
    | (device, some delivery) =>
      if buffer.writable then
        fillBuffers order now rest (device.settleRx delivery buffer.headerFits)
      else device

def fill (device : VsockDevice) (pass : RxPass) : VsockDevice :=
  fillBuffers pass.order pass.now pass.buffers device

def processTx (device : VsockDevice) (tx : TxPass) (rx : RxPass) : VsockDevice :=
  let device := (device.transmit tx.packets tx.now).fill rx
  { device with txPermit := device.txPermit || tx.completed }

variable (device : VsockDevice) (rxQueue txQueue : VirtQueue) (pass : RxPass)

@[simp] theorem txPermit_dispatch (pkt : VsockPacket) (payload : List U8) (now : Nat) :
    (device.dispatch pkt payload now).txPermit = device.txPermit := by
  unfold dispatch sendPkt
  dsimp only
  split
  · split <;> rfl
  · rfl
  · split <;> rfl

@[simp] theorem txPermit_transmit (packets : List (VsockPacket × List U8)) (now : Nat) :
    (device.transmit packets now).txPermit = device.txPermit := by
  induction packets generalizing device with
  | nil => rfl
  | cons packet rest ih =>
    have later := ih (device.dispatch packet.1 packet.2 now)
    rwa [txPermit_dispatch] at later

private theorem txPermit_firstPacket (maxDataLen now : Nat) (keys : List ConnMapKey)
    (device : VsockDevice) : (firstPacket maxDataLen now keys device).1.txPermit = device.txPermit := by
  induction keys generalizing device with
  | nil => rfl
  | cons key rest ih =>
    unfold firstPacket
    split
    · exact ih device
    · split
      · exact ih _
      · rfl

@[simp] theorem txPermit_fill : (device.fill pass).txPermit = device.txPermit := by
  obtain ⟨buffers, order, now⟩ := pass
  simp only [fill]
  induction buffers generalizing device with
  | nil => rfl
  | cons buffer rest ih =>
    have tried := txPermit_firstPacket buffer.maxDataLen now (device.pendingKeys order) device
    unfold fillBuffers
    generalize firstPacket buffer.maxDataLen now (device.pendingKeys order) device = outcome at tried ⊢
    obtain ⟨after, _ | delivery⟩ := outcome
    · exact tried
    · dsimp only at tried ⊢
      split
      · rw [ih, ← tried]
        unfold settleRx
        split <;> split <;> rfl
      · exact tried

/-- The packet in a chain. A chain that is too short or cannot be read has none. -/
def chainPackets (memory : GuestMemory) (queue : VirtQueue) (headIdx : U16) :
    List (VsockPacket × List U8) :=
  match readPacket memory queue headIdx with
  | .ok (some packet) => [packet]
  | .ok none => []
  | .error _ => []

/-- The packets in that many chains of the ring. The pass ends early where the ring cannot be read
or written. -/
def ringPackets : Nat → GuestMemory → VirtQueue → List (VsockPacket × List U8)
  | 0, _, _ => []
  | remaining + 1, memory, queue =>
    match (queue.readAvailEntry memory : Except VsockError U16) with
    | .error _ => []
    | .ok headIdx =>
      chainPackets memory queue headIdx ++
        match (queue.writeUsedEntry memory headIdx 0 : GuestMemory × Except VsockError Unit) with
        | (_, .error _) => []
        | (memory, .ok ()) => ringPackets remaining memory queue.advance

/-- The packets that the guest has put into the TX ring. -/
def txPackets (device : VsockDevice) (memory : GuestMemory) : List (VsockPacket × List U8) :=
  if !device.txQueue.ready || device.txQueue.size == 0 then []
  else
    match (device.txQueue.readAvailIdx memory : Except VsockError U16) with
    | .error _ => []
    | .ok availIdx =>
      ringPackets (availIdx - device.txQueue.lastAvailIdx).toNat memory device.txQueue

private theorem handleTxChain_eq (device : VsockDevice) (memory : GuestMemory) (queue : VirtQueue)
    (headIdx : U16) (now : Nat) :
    device.handleTxChain memory queue headIdx now =
      device.transmit (chainPackets memory queue headIdx) now := by
  unfold handleTxChain chainPackets
  rcases readPacket memory queue headIdx with _ | _ | ⟨_, _⟩
  · rfl
  · rfl
  · rfl

theorem step_txService (now : Nat) (progress : Progress VsockDevice) :
    (txService now).step progress =
      match (progress.queue.readAvailEntry progress.memory : Except VsockError U16) with
      | .error error => (progress, .error error)
      | .ok headIdx =>
        let device := progress.device.transmit
          (chainPackets progress.memory progress.queue headIdx) now
        match (progress.queue.writeUsedEntry progress.memory headIdx 0 :
          GuestMemory × Except VsockError Unit) with
        | (memory, .error error) =>
          ({ progress with device := device, memory := memory }, .error error)
        | (memory, .ok ()) => (⟨device, memory, progress.queue.advance, true⟩, .ok (some ())) := by
  simp only [QueueService.step, txService, handleTxChain_eq]
  cases (progress.queue.readAvailEntry progress.memory : Except VsockError U16) with
  | error => rfl
  | ok headIdx =>
    dsimp only
    generalize (progress.queue.writeUsedEntry progress.memory headIdx 0 :
      GuestMemory × Except VsockError Unit) = written
    obtain ⟨memory, _ | ⟨⟩⟩ := written
    · rfl
    · rfl

theorem drain_txService (now remaining : Nat) (progress : Progress VsockDevice) :
    ((txService now).drain remaining progress).1.device =
      progress.device.transmit (ringPackets remaining progress.memory progress.queue) now := by
  induction remaining generalizing progress with
  | zero => rfl
  | succ remaining ih =>
    rw [QueueService.drain, ringPackets, step_txService]
    cases (progress.queue.readAvailEntry progress.memory : Except VsockError U16) with
    | error => rfl
    | ok headIdx =>
      dsimp only
      generalize (progress.queue.writeUsedEntry progress.memory headIdx 0 :
        GuestMemory × Except VsockError Unit) = written
      obtain ⟨memory, _ | ⟨⟩⟩ := written
      · dsimp only
        rw [List.append_nil]
      · refine (ih _).trans ?_
        simp [transmit]

/-- What `serve_rx` does to the device, and how it ends. -/
inductive ServedRx (device : VsockDevice) (pending : List ConnMapKey) (now : Nat) :
    VsockDevice → Except VsockError (Option (U32 × Delivery × Bool)) → Prop where
  | unread {error : VsockError} : ServedRx device pending now device (.error error)
  | nothing {maxDataLen : Nat} {after : VsockDevice}
    (tried : firstPacket maxDataLen now pending device = (after, none)) :
    ServedRx device pending now after (.ok none)
  | lost {maxDataLen : Nat} {after : VsockDevice} {delivery : Delivery} {error : VsockError}
    (tried : firstPacket maxDataLen now pending device = (after, some delivery)) :
    ServedRx device pending now after (.error error)
  | placed {maxDataLen : Nat} {after : VsockDevice} {delivery : Delivery} {written : U32}
    {headerFits : Bool}
    (tried : firstPacket maxDataLen now pending device = (after, some delivery)) :
    ServedRx device pending now after (.ok (some (written, delivery, headerFits)))

theorem serveRx_served (device : VsockDevice) (memory : GuestMemory) (queue : VirtQueue)
    (pending : List ConnMapKey) (headIdx : U16) (now : Nat) :
    ServedRx device pending now (device.serveRx memory queue pending headIdx now).1
      (device.serveRx memory queue pending headIdx now).2.2 := by
  unfold serveRx
  split
  · exact .unread
  · split
    · next tried => exact .nothing tried
    · next tried =>
        split
        · exact .lost tried
        · exact .placed tried

/-- One entry of the RX queue: the pass ends, or a packet was placed in a buffer. -/
inductive SteppedRx (order : List ConnMapKey) (now : Nat) (device : VsockDevice) :
    VsockDevice → Except VsockError (Option Unit) → Prop where
  | ended {after : VsockDevice} {result : Except VsockError (Option Unit)} (buffers : List RxBuffer)
    (filled : fillBuffers order now buffers device = after) (stops : result ≠ .ok (some ())) :
    SteppedRx order now device after result
  | placed {between after : VsockDevice} {delivery : Delivery} (buffer : RxBuffer)
    (writable : buffer.writable = true)
    (tried : firstPacket buffer.maxDataLen now (device.pendingKeys order) device = (between, some delivery))
    (settled : between.settleRx delivery buffer.headerFits = after) :
    SteppedRx order now device after (.ok (some ()))

theorem step_rxService (order : List ConnMapKey) (now : Nat) (progress : Progress VsockDevice) :
    SteppedRx order now progress.device ((rxService order now).step progress).1.device
    ((rxService order now).step progress).2 := by
  simp only [QueueService.step, rxService]
  by_cases empty : (progress.device.pendingKeys order).isEmpty = true
  · simp only [empty, ↓reduceIte]
    exact .ended [] rfl (by simp)
  · simp only [empty, Bool.false_eq_true, ↓reduceIte]
    split
    · exact .ended [] rfl (by simp)
    · next headIdx _ =>
        have served := serveRx_served progress.device progress.memory progress.queue
          (progress.device.pendingKeys order) headIdx now
        generalize progress.device.serveRx progress.memory progress.queue
          (progress.device.pendingKeys order) headIdx now = outcome at served ⊢
        obtain ⟨after, memory, result⟩ := outcome
        cases served with
        | unread => exact .ended [] rfl (by simp)
        | @nothing maxDataLen _ tried =>
          exact .ended [⟨maxDataLen, true, true⟩] (by simp [fillBuffers, tried]) (by simp)
        | @lost maxDataLen _ _ _ tried =>
          exact .ended [⟨maxDataLen, true, false⟩] (by simp [fillBuffers, tried]) (by simp)
        | @placed maxDataLen _ _ _ headerFits tried =>
          dsimp only
          split
          · exact .ended [⟨maxDataLen, true, false⟩] (by simp [fillBuffers, tried]) (by simp)
          · exact .placed ⟨maxDataLen, headerFits, true⟩ rfl tried rfl

theorem drain_rxService (order : List ConnMapKey) (now remaining : Nat)
    (progress : Progress VsockDevice) : ∃ buffers,
    ((rxService order now).drain remaining progress).1.device =
      fillBuffers order now buffers progress.device := by
  induction remaining generalizing progress with
  | zero => exact ⟨[], rfl⟩
  | succ remaining ih =>
    have stepped := step_rxService order now progress
    rw [QueueService.drain]
    generalize (rxService order now).step progress = outcome at stepped
    obtain ⟨next, result⟩ := outcome
    cases stepped with
    | ended buffers filled stops =>
      refine ⟨buffers, ?_⟩
      match result with
      | .error _ => exact filled.symm
      | .ok none => exact filled.symm
      | .ok (some ()) => exact absurd rfl stops
    | placed buffer writable tried settled =>
      obtain ⟨later, rest⟩ := ih next
      refine ⟨buffer :: later, ?_⟩
      simp only [fillBuffers, tried, writable, ↓reduceIte, settled]
      exact rest

def withQueues (device : VsockDevice) (rxQueue txQueue : VirtQueue) : VsockDevice :=
  { device with rxQueue := rxQueue, txQueue := txQueue }

theorem runTx_transmits (device : VsockDevice) (memory : GuestMemory) (now : Nat) :
    ∃ txQueue, (device.runTx memory now).1 =
      (device.transmit (device.txPackets memory) now).withQueues
        (device.transmit (device.txPackets memory) now).rxQueue txQueue := by
  refine ⟨(device.runTx memory now).1.txQueue, ?_⟩
  have sent : ((txService now).processQueue device memory device.txQueue).1.device =
      device.transmit (device.txPackets memory) now := by
    rw [QueueService.processQueue_device, txPackets]
    split
    · rfl
    · cases (device.txQueue.readAvailIdx memory : Except VsockError U16) with
      | error => rfl
      | ok => exact drain_txService ..
  simp only [runTx, sent, withQueues]

theorem runRx_fills (device : VsockDevice) (memory : GuestMemory) (order : List ConnMapKey)
    (now : Nat) : ∃ buffers rxQueue,
    (device.runRx memory order now).1 =
      (device.fill ⟨buffers, order, now⟩).withQueues rxQueue
        (device.fill ⟨buffers, order, now⟩).txQueue := by
  have filled : ∃ buffers,
      ((rxService order now).processQueue device memory device.rxQueue).1.device =
        fillBuffers order now buffers device := by
    rw [QueueService.processQueue_device]
    split
    · exact ⟨[], rfl⟩
    · cases (device.rxQueue.readAvailIdx memory : Except VsockError U16) with
      | error => exact ⟨[], rfl⟩
      | ok => exact drain_rxService ..
  obtain ⟨buffers, filled⟩ := filled
  refine ⟨buffers, (device.runRx memory order now).1.rxQueue, ?_⟩
  simp only [runRx, filled, withQueues, fill]

theorem firstPacket_withQueues (maxDataLen now : Nat) (rxQueue txQueue : VirtQueue)
    (keys : List ConnMapKey) (device : VsockDevice) :
    firstPacket maxDataLen now keys (device.withQueues rxQueue txQueue) =
    ((firstPacket maxDataLen now keys device).1.withQueues rxQueue txQueue,
      (firstPacket maxDataLen now keys device).2) := by
  induction keys generalizing device with
  | nil => rfl
  | cons key rest ih =>
    simp only [firstPacket]
    have same : (device.withQueues rxQueue txQueue).connections = device.connections := rfl
    rw [same]
    split
    · exact ih device
    · split
      · exact ih (device.updateConnection key fun conn => (conn.recvPkt maxDataLen now).1)
      · rfl

private theorem settleRx_withQueues (delivery : Delivery) (placed : Bool) :
    (device.withQueues rxQueue txQueue).settleRx delivery placed =
    (device.settleRx delivery placed).withQueues rxQueue txQueue := by
  unfold settleRx
  by_cases isRst : delivery.pkt.op = VsockOp.rst.toU16 <;> cases placed <;> simp only [isRst] <;> rfl

private theorem fill_withQueues :
    (device.withQueues rxQueue txQueue).fill pass = (device.fill pass).withQueues rxQueue txQueue := by
  obtain ⟨buffers, order, now⟩ := pass
  simp only [fill]
  induction buffers generalizing device with
  | nil => rfl
  | cons buffer rest ih =>
    have same : (device.withQueues rxQueue txQueue).pendingKeys order = device.pendingKeys order := rfl
    simp only [fillBuffers, same, firstPacket_withQueues]
    generalize firstPacket buffer.maxDataLen now (device.pendingKeys order) device = outcome
    obtain ⟨after, _ | delivery⟩ := outcome
    · rfl
    · dsimp only
      split
      · rw [settleRx_withQueues, ih]
      · rfl

/-- A pass over the TX queue hands the packets in the ring to the dispatch, one after the other, and
notifies if it takes a chain without an error; an RX pass over some buffers follows. -/
theorem processQueue_tx (device : VsockDevice) (memory : GuestMemory) (order : List ConnMapKey)
    (now : Nat) : ∃ buffers rxQueue txQueue,
    (device.processQueue .tx memory order now).1 =
      (device.processTx ⟨device.txPackets memory, (device.runTx memory now).2.2, now⟩
        ⟨buffers, order, now⟩).withQueues rxQueue txQueue := by
  obtain ⟨txQueue, transmitted⟩ := device.runTx_transmits memory now
  simp only [processQueue]
  generalize device.runTx memory now = sent at transmitted ⊢
  obtain ⟨middle, between, txOk⟩ := sent
  obtain ⟨buffers, rxQueue, filled⟩ := middle.runRx_fills between order now
  dsimp only at transmitted
  rw [transmitted, fill_withQueues] at filled
  refine ⟨buffers, rxQueue, txQueue, ?_⟩
  simp only [transmitted] at filled ⊢
  simp only [filled]
  rfl

end VsockDevice

/-! What the device holds under one key, and what the operations of the device do to
it. A pass over a queue is a sequence of calls on the connection, so a property of
one connection is proved of a pass by looking at one packet or one buffer. -/

structure ConnView where
  conn : Option VsockConnection
  ledger : Ledger

namespace ConnView
def dispatch (view : ConnView) (guestCid : U64) (pkt : VsockPacket) (payload : List U8)
    (now : Nat) : ConnView :=
  match VsockOp.fromU16 pkt.op, view.conn with
  | some .request, some _ => view
  | some .request, none =>
    { conn := some (.newPeerInit hostCid guestCid pkt.dstPort pkt.srcPort pkt.bufAlloc)
      ledger := {} }
  | some .rst, _ => { view with conn := none }
  | _, none => view
  | _, some conn =>
    { conn := some (conn.sendPkt pkt payload now).1
      ledger := { view.ledger with
        sent := view.ledger.sent ++ VsockDevice.stored conn pkt payload now } }

def receive (view : ConnView) (now : Nat) (buffer : RxBuffer) : ConnView :=
  match view.conn with
  | none => view
  | some conn =>
    match conn.recvPkt buffer.maxDataLen now with
    | (after, .error _) => { view with conn := some after }
    | (after, .ok (pkt, payload)) =>
      if buffer.writable then
        { conn := if pkt.op = VsockOp.rst.toU16 then none else some after
          ledger :=
            if buffer.headerFits then
              { view.ledger with delivered := view.ledger.delivered ++ [(pkt, payload)] }
            else view.ledger }
      else { view with conn := some after }

theorem present_of_dispatch {view : ConnView} {guestCid : U64} {pkt : VsockPacket}
    {payload : List U8} {now : Nat} (notRequest : VsockOp.fromU16 pkt.op ≠ some .request)
    (present : (view.dispatch guestCid pkt payload now).conn.isSome = true) : view.conn.isSome = true := by
  unfold dispatch at present
  split at present
  · exact present
  · next isRequest _ => exact absurd isRequest notRequest
  · cases present
  · exact present
  · next had _ _ => simp [had]

theorem present_of_receive {view : ConnView} {now : Nat} {buffer : RxBuffer}
    (present : (view.receive now buffer).conn.isSome = true) : view.conn.isSome = true := by
  unfold receive at present
  split at present
  · exact present
  · next had => simp [had]

end ConnView

namespace VsockDevice
def view (device : VsockDevice) (key : ConnMapKey) : ConnView where
  conn := device.connections.lookup key
  ledger := device.ledger key

section
variable (device : VsockDevice)
variable (key : ConnMapKey)

@[simp] theorem view_conn : (device.view key).conn = device.connections.lookup key := rfl

section
variable (key other : ConnMapKey)

@[simp] theorem view_addConnection (conn : VsockConnection) :
    (device.addConnection key conn).view other = if other = key then ⟨some conn, {}⟩ else
    device.view other := by
  by_cases same : other = key <;> simp [view, addConnection, same]

@[simp] theorem view_removeConnection : (device.removeConnection key).view other =
    if other = key then { device.view key with conn := none } else device.view other := by
  by_cases same : other = key <;> simp [view, removeConnection, same]

@[simp] theorem view_updateConnection (update : VsockConnection → VsockConnection) :
    (device.updateConnection key update).view other = if other = key then
      { device.view key with conn := (device.view key).conn.map update }
    else device.view other := by by_cases same : other = key <;> simp [view, updateConnection, same]

@[simp] theorem view_record (entry : Ledger → Ledger) : (device.record key entry).view other =
    if other = key then { device.view key with ledger := entry (device.view key).ledger }
    else device.view other := by
  by_cases same : other = key
  · subst same
    simp [view, record]
  · simp [view, record, same]

theorem view_sendPkt (pkt : VsockPacket) (payload : List U8) (now : Nat) :
    (device.sendPkt key pkt payload now).view other = if other = key then
    match (device.view key).conn with
    | none => device.view key
    | some conn =>
      { conn := some (conn.sendPkt pkt payload now).1
        ledger := { (device.view key).ledger with
          sent := (device.view key).ledger.sent ++ stored conn pkt payload now } }
    else device.view other := by
  unfold sendPkt
  by_cases same : other = key
  · subst same
    cases present : device.connections.lookup other with
    | none | some => simp [present]
  · cases present : device.connections.lookup key with
    | none | some => simp [same]

end

variable (pkt : VsockPacket) (payload : List U8) (now : Nat)

theorem view_dispatch : (device.dispatch pkt payload now).view key = if key = ofGuest pkt then
    (device.view key).dispatch device.guestCid pkt payload now else device.view key := by
  unfold dispatch ConnView.dispatch
  by_cases same : key = ofGuest pkt
  · subst same
    generalize VsockOp.fromU16 pkt.op = op
    cases present : device.connections.lookup (.ofGuest pkt) with
    | none | some =>
      match op with
      | some .request | some .rst | some .response | some .shutdown | some .rw
      | some .creditUpdate | some .creditRequest | none => simp [view_sendPkt, present]
  · dsimp only
    split
    · split <;> simp [same]
    · simp [same]
    · simp [view_sendPkt, same]

@[simp] theorem guestCid_dispatch : (device.dispatch pkt payload now).guestCid = device.guestCid := by
  unfold dispatch sendPkt
  dsimp only
  split
  · split <;> rfl
  · rfl
  · split <;> rfl

end

variable {key : ConnMapKey} {now : Nat} {device : VsockDevice} (property : ConnView → Prop)
  {packets : List (VsockPacket × List U8)}

theorem view_transmit_induction (preserved : ∀ packet ∈ packets, ofGuest packet.1 = key →
    ∀ view, property view → property (view.dispatch device.guestCid packet.1 packet.2 now))
    (initial : property (device.view key)) : property ((device.transmit packets now).view key) := by
  induction packets generalizing device with
  | nil => exact initial
  | cons packet rest ih =>
    refine ih (fun later member => ?_) ?_
    · rw [guestCid_dispatch]
      exact preserved later (.tail _ member)
    · rw [view_dispatch]
      split
      · next same => exact preserved packet (.head _) same.symm _ initial
      · exact initial

private theorem view_settleRx (device : VsockDevice) (delivery : Delivery) (placed : Bool)
    (key : ConnMapKey) :
    (device.settleRx delivery placed).view key = if key = delivery.key then
    { conn :=
      if delivery.pkt.op = VsockOp.rst.toU16 then none else (device.view key).conn
      ledger :=
        if placed then
          { (device.view key).ledger with
            delivered := (device.view key).ledger.delivered ++ [(delivery.pkt, delivery.payload)] }
        else (device.view key).ledger }
    else device.view key := by
  unfold settleRx
  by_cases same : key = delivery.key
  · subst same
    by_cases isRst : delivery.pkt.op = VsockOp.rst.toU16
    · cases placed <;> simp [isRst]
    · cases placed with
      | false => simp only [isRst, Bool.false_eq_true, ↓reduceIte]
      | true => simp [isRst]
  · cases placed <;> by_cases isRst : delivery.pkt.op = VsockOp.rst.toU16 <;> simp [isRst, same]

private theorem view_firstPacket {buffer : RxBuffer}
    (preserved : ∀ view, property view → property (view.receive now buffer))
    (keys : List ConnMapKey) (device : VsockDevice) (initial : property (device.view key)) :
    match firstPacket buffer.maxDataLen now keys device with
    | (after, none) => property (after.view key)
    | (after, some delivery) =>
    property ((if buffer.writable then after.settleRx delivery buffer.headerFits else after).view key)
    := by
  induction keys generalizing device with
  | nil => exact initial
  | cons tried rest ih =>
    unfold firstPacket
    cases present : device.connections.lookup tried with
    | none => exact ih device initial
    | some conn =>
      have received := preserved _ initial
      dsimp only
      generalize outcome : conn.recvPkt buffer.maxDataLen now = result
      obtain ⟨after, failed | ⟨pkt, payload⟩⟩ := result
      · refine ih _ ?_
        by_cases same : key = tried
        · subst same
          simpa [ConnView.receive, present, outcome] using received
        · simpa [same] using initial
      · dsimp only
        by_cases same : key = tried
        · subst same
          split
          · next writable =>
              simpa [ConnView.receive, present, outcome, writable, view_settleRx] using received
          · next faulty => simpa [ConnView.receive, present, outcome, faulty] using received
        · split
          · simpa [view_settleRx, same] using initial
          · simpa [same] using initial

theorem view_fill_induction {pass : RxPass}
    (preserved : ∀ buffer ∈ pass.buffers, ∀ view, property view → property (view.receive pass.now buffer))
    (initial : property (device.view key)) : property ((device.fill pass).view key) := by
  obtain ⟨buffers, order, now⟩ := pass
  simp only [fill] at preserved ⊢
  induction buffers generalizing device with
  | nil => exact initial
  | cons buffer rest ih =>
    have kept := view_firstPacket property (preserved buffer (.head _)) (device.pendingKeys order)
      device initial
    unfold fillBuffers
    generalize firstPacket buffer.maxDataLen now (device.pendingKeys order) device = outcome at kept ⊢
    obtain ⟨after, _ | delivery⟩ := outcome
    · exact kept
    · dsimp only at kept ⊢
      split
      · next writable =>
          rw [if_pos writable] at kept
          exact ih kept fun later member => preserved later (.tail _ member)
      · next faulty =>
          rw [if_neg faulty] at kept
          exact kept

theorem present_of_transmit (noRequest : ∀ packet ∈ packets, ofGuest packet.1 = key →
      VsockOp.fromU16 packet.1.op ≠ some .request)
    (present : ((device.transmit packets now).view key).conn.isSome = true) :
    (device.view key).conn.isSome = true :=
  view_transmit_induction
    (fun view => view.conn.isSome = true → (device.view key).conn.isSome = true)
    (fun packet member mine _ before after =>
      before (ConnView.present_of_dispatch (noRequest packet member mine) after))
    id present

theorem present_of_fill {pass : RxPass}
    (present : ((device.fill pass).view key).conn.isSome = true) : (device.view key).conn.isSome = true :=
  view_fill_induction
    (fun view => view.conn.isSome = true → (device.view key).conn.isSome = true)
    (fun _ _ _ before after => before (ConnView.present_of_receive after)) id present

end VsockDevice
end Visor.Vsock
