import Visor.Vsock.TxBufProperties

/-! Per-connection protocol state: handshake, data transfer in both directions, credit flow control
and teardown. Reading the clock is an argument in milliseconds; a kill timer is the time at which it
fires. -/

namespace Visor.Vsock
/-! The 44-byte header that precedes every vsock packet, its operation codes and the
protocol constants shared by the connection, the device and the muxer. -/

open Library

def vsockPktHdrSize : Nat := 44
def hostCid : U64 := 2
def vsockTypeStream : U16 := 1
def vsockFlagsShutdownRcv : U32 := 1
def vsockFlagsShutdownSend : U32 := 2

inductive VsockOp where
  | request
  | response
  | rst
  | shutdown
  | rw
  | creditUpdate
  | creditRequest
deriving DecidableEq

open VsockOp
namespace VsockOp
def toU16 : VsockOp → U16
  | .request => 1
  | .response => 2
  | .rst => 3
  | .shutdown => 4
  | .rw => 5
  | .creditUpdate => 6
  | .creditRequest => 7

def fromU16 (value : U16) : Option VsockOp :=
  if value = 1 then some .request
  else if value = 2 then some .response
  else if value = 3 then some .rst
  else if value = 4 then some .shutdown
  else if value = 5 then some .rw
  else if value = 6 then some .creditUpdate
  else if value = 7 then some .creditRequest
  else none

@[simp] theorem fromU16_toU16 (op : VsockOp) : fromU16 op.toU16 = some op := by cases op <;> rfl

theorem fromU16_eq_some_iff {value : U16} {op : VsockOp} : fromU16 value = some op ↔ value = op.toU16 := by
  constructor
  · intro decoded
    unfold fromU16 at decoded
    repeat' split at decoded
    all_goals cases decoded
    all_goals assumption
  · intro encoded
    rw [encoded, fromU16_toU16]

@[simp] theorem toU16_inj {first second : VsockOp} : first.toU16 = second.toU16 ↔ first = second := by
  constructor
  · intro same
    have decoded := congrArg fromU16 same
    simpa using decoded
  · rintro rfl
    rfl

end VsockOp

structure VsockPacket where
  srcCid : U64
  dstCid : U64
  srcPort : U32
  dstPort : U32
  len : U32
  pktType : U16
  op : U16
  flags : U32
  bufAlloc : U32
  fwdCnt : U32
deriving DecidableEq

namespace VsockPacket
def fromBytes (buf : List U8) : Option VsockPacket :=
  if buf.length < vsockPktHdrSize then none
  else some {
    srcCid := BitVec.ofNat 64 (leField buf 0 8)
    dstCid := BitVec.ofNat 64 (leField buf 8 8)
    srcPort := BitVec.ofNat 32 (leField buf 16 4)
    dstPort := BitVec.ofNat 32 (leField buf 20 4)
    len := BitVec.ofNat 32 (leField buf 24 4)
    pktType := BitVec.ofNat 16 (leField buf 28 2)
    op := BitVec.ofNat 16 (leField buf 30 2)
    flags := BitVec.ofNat 32 (leField buf 32 4)
    bufAlloc := BitVec.ofNat 32 (leField buf 36 4)
    fwdCnt := BitVec.ofNat 32 (leField buf 40 4) }

def toBytes (pkt : VsockPacket) : List U8 :=
  toLeBytes 8 pkt.srcCid.toNat ++ (toLeBytes 8 pkt.dstCid.toNat ++
    (toLeBytes 4 pkt.srcPort.toNat ++ (toLeBytes 4 pkt.dstPort.toNat ++
      (toLeBytes 4 pkt.len.toNat ++ (toLeBytes 2 pkt.pktType.toNat ++
        (toLeBytes 2 pkt.op.toNat ++
          (toLeBytes 4 pkt.flags.toNat ++
          (toLeBytes 4 pkt.bufAlloc.toNat ++ toLeBytes 4 pkt.fwdCnt.toNat))))))))

@[simp] theorem length_toBytes (pkt : VsockPacket) : pkt.toBytes.length = vsockPktHdrSize := by
  simp [toBytes, vsockPktHdrSize]

end VsockPacket

/-! The set of indications by which a connection schedules packets for the guest,
kept as a bit mask in which only the five known bits can be set. -/

section
open BitVec

/-- An indication that schedules a future packet for the guest. -/
inductive PendingRx where
  | request
  | response
  | rst
  | rw
  | creditUpdate
deriving DecidableEq

namespace PendingRx
def index : PendingRx → Nat
  | .request => 0
  | .response => 1
  | .rst => 2
  | .rw => 3
  | .creditUpdate => 4

def intoMask (it : PendingRx) : U16 := 1#16 <<< it.index

variable (it : PendingRx)

theorem index_lt : it.index < 5 := by cases it <;> decide

theorem index_inj {first second : PendingRx} : first.index = second.index ↔ first = second := by
  cases first <;> cases second <;> decide

theorem intoMask_eq : it.intoMask = twoPow 16 it.index := rfl

theorem getLsbD_intoMask (position : Nat) :
    it.intoMask.getLsbD position = decide (it.index = position) := by
  have bound := it.index_lt
  rw [intoMask_eq, getLsbD_twoPow]
  by_cases same : it.index = position
  · subst same
    simp only [decide_true, Bool.and_true, decide_eq_true_eq]
    omega
  · simp [same]

end PendingRx

structure PendingRxSet where
  data : U16
  known : ∀ position, 5 ≤ position → data.getLsbD position = false

namespace PendingRxSet
def contains (set : PendingRxSet) (it : PendingRx) : Bool := set.data &&& it.intoMask != 0

def insert (set : PendingRxSet) (it : PendingRx) : PendingRxSet where
  data := set.data ||| it.intoMask
  known := by
    intro position large
    have bound := it.index_lt
    rw [getLsbD_or, set.known position large, it.getLsbD_intoMask]
    simp only [Bool.false_or, decide_eq_false_iff_not]
    omega

def insertIf (set : PendingRxSet) (condition : Bool) (it : PendingRx) : PendingRxSet :=
  if condition then set.insert it else set

def remove (set : PendingRxSet) (it : PendingRx) : PendingRxSet × Bool :=
  ({ data := set.data &&& ~~~it.intoMask
     known := by
      intro position large
      rw [getLsbD_and, set.known position large, Bool.false_and] }, set.contains it)

def isEmpty (set : PendingRxSet) : Bool := set.data == 0

def ofPendingRx (it : PendingRx) : PendingRxSet where
  data := it.intoMask
  known := by
    intro position large
    have bound := it.index_lt
    rw [it.getLsbD_intoMask]
    simp only [decide_eq_false_iff_not]
    omega

variable (set : PendingRxSet)

theorem contains_eq (it : PendingRx) : set.contains it = set.data.getLsbD it.index := by
  unfold contains
  rw [PendingRx.intoMask_eq, and_twoPow]
  cases present : set.data.getLsbD it.index with
  | false => simp
  | true =>
    have nonzero : twoPow 16 it.index ≠ 0 := by cases it <;> decide
    simpa using nonzero

@[simp] theorem contains_insert (added it : PendingRx) :
    (set.insert added).contains it = (set.contains it || decide (added = it)) := by
  rw [contains_eq, contains_eq, insert, getLsbD_or, added.getLsbD_intoMask]
  simp only [PendingRx.index_inj]

@[simp] theorem contains_insertIf (condition : Bool) (added it : PendingRx) :
    (set.insertIf condition added).contains it =
    (set.contains it || (condition && decide (added = it))) := by
  cases condition with
  | false | true => simp [insertIf]

@[simp] theorem contains_remove (dropped it : PendingRx) :
    (set.remove dropped).1.contains it = (set.contains it && !decide (dropped = it)) := by
  have bound := it.index_lt
  rw [contains_eq, contains_eq, remove, getLsbD_and, getLsbD_not, dropped.getLsbD_intoMask]
  simp only [PendingRx.index_inj]
  have inWidth : it.index < 16 := by omega
  simp [inWidth]

@[simp] theorem contains_ofPendingRx (only it : PendingRx) :
    (ofPendingRx only).contains it = decide (only = it) := by
  rw [contains_eq, ofPendingRx, only.getLsbD_intoMask]
  simp only [PendingRx.index_inj]

theorem isEmpty_iff : set.isEmpty = true ↔ ∀ it, set.contains it = false := by
  constructor
  · intro empty it
    have zero : set.data = 0 := by simpa [isEmpty] using empty
    rw [contains_eq, zero]
    exact getLsbD_zero
  · intro none
    have zero : set.data = 0 := by
      apply eq_of_getLsbD_eq
      intro position inWidth
      rw [show (0 : U16).getLsbD position = false from getLsbD_zero]
      by_cases large : 5 ≤ position
      · exact set.known position large
      · have named : ∃ it : PendingRx, it.index = position := by
          have small : position = 0 ∨ position = 1 ∨ position = 2 ∨ position = 3 ∨
            position = 4 := by omega
          rcases small with rfl | rfl | rfl | rfl | rfl
          · exact ⟨.request, rfl⟩
          · exact ⟨.response, rfl⟩
          · exact ⟨.rst, rfl⟩
          · exact ⟨.rw, rfl⟩
          · exact ⟨.creditUpdate, rfl⟩
        obtain ⟨it, rfl⟩ := named
        rw [← contains_eq, none it]
    simp [isEmpty, zero]

end PendingRxSet
end

def connCreditUpdateThreshold : U32 := 4096
def connRequestTimeoutMs : Nat := 2000
def connShutdownTimeoutMs : Nat := 2000

/-- Connection state. `peerClosed noRecv noSend` records what the guest's
SHUTDOWN packets have given up. -/
inductive ConnState where
  | localInit
  | peerInit
  | established
  | localClosed
  | peerClosed (noRecv noSend : Bool)
  | killed
deriving DecidableEq

structure VsockConnection where
  state : ConnState
  localCid : U64
  peerCid : U64
  localPort : U32
  peerPort : U32
  txBuf : TxBuf
  fwdCnt : U32
  peerBufAlloc : U32
  peerFwdCnt : U32
  rxCnt : U32
  lastFwdCntToPeer : U32
  pendingRx : PendingRxSet
  expiry : Option Nat
  rxBuf : List U8
  hostClosed : Bool

namespace VsockConnection
def newPeerInit (localCid peerCid : U64) (localPort peerPort peerBufAlloc : U32) : VsockConnection where
  state := .peerInit
  localCid := localCid
  peerCid := peerCid
  localPort := localPort
  peerPort := peerPort
  txBuf := .new
  fwdCnt := 0
  peerBufAlloc := peerBufAlloc
  peerFwdCnt := 0
  rxCnt := 0
  lastFwdCntToPeer := 0
  pendingRx := .ofPendingRx .response
  expiry := none
  rxBuf := []
  hostClosed := false

def newLocalInit (localCid peerCid : U64) (localPort peerPort : U32) : VsockConnection where
  state := .localInit
  localCid := localCid
  peerCid := peerCid
  localPort := localPort
  peerPort := peerPort
  txBuf := .new
  fwdCnt := 0
  peerBufAlloc := 0
  peerFwdCnt := 0
  rxCnt := 0
  lastFwdCntToPeer := 0
  pendingRx := .ofPendingRx .request
  expiry := none
  rxBuf := []
  hostClosed := false

variable (conn : VsockConnection) (pkt : VsockPacket) (maxDataLen now : Nat)

def hasPendingRx : Bool := !conn.pendingRx.isEmpty

def hasExpired (now : Nat) : Bool :=
  match conn.expiry with
  | none => false
  | some time => decide (time ≤ now)

@[simps]
def indicate (it : PendingRx) : VsockConnection := { conn with pendingRx := conn.pendingRx.insert it }

@[simps]
def indicateIf (condition : Bool) (it : PendingRx) : VsockConnection :=
  { conn with pendingRx := conn.pendingRx.insertIf condition it }

@[simps]
def clear (it : PendingRx) : VsockConnection := { conn with pendingRx := (conn.pendingRx.remove it).1 }

@[simps]
def kill : VsockConnection := { conn with state := .killed, pendingRx := conn.pendingRx.insert .rst }

@[simps]
def pushHostData (data : List U8) : VsockConnection :=
  { conn with rxBuf := conn.rxBuf ++ data, pendingRx := conn.pendingRx.insert .rw }

@[simps]
def notifyHostClosed : VsockConnection :=
  { conn with hostClosed := true, pendingRx := conn.pendingRx.insert .rw }

/-- Bytes sent to the guest that its last header did not count as forwarded. -/
def outstanding : U32 := conn.rxCnt - conn.peerFwdCnt
def peerAvailCredit : U32 := conn.peerBufAlloc - conn.outstanding
def needCreditUpdateFromPeer : Bool := conn.peerAvailCredit == 0

def peerNeedsCreditUpdate : Bool :=
  let peerSeenFree := connTxBufSize - (conn.fwdCnt - conn.lastFwdCntToPeer)
  decide (peerSeenFree < connCreditUpdateThreshold)

def initPkt : VsockPacket where
  srcCid := conn.localCid
  dstCid := conn.peerCid
  srcPort := conn.localPort
  dstPort := conn.peerPort
  len := 0
  pktType := vsockTypeStream
  op := 0
  flags := 0
  bufAlloc := connTxBufSize
  fwdCnt := conn.fwdCnt

/-- Schedule a CREDIT_UPDATE if the guest's view of the free space is stale. -/
@[simp]
def offerCredit : VsockConnection := conn.indicateIf conn.peerNeedsCreditUpdate .creditUpdate

/-- Indications after a flush: RST if a shutdown was waiting for the drain, else a
credit update if one is needed. -/
def dueAfterFlush : PendingRxSet :=
  if conn.state = .peerClosed true true ∧ conn.txBuf.isEmpty then conn.pendingRx.insert .rst
  else if conn.peerNeedsCreditUpdate then conn.pendingRx.insert .creditUpdate
  else conn.pendingRx

def flushTxBuf (sink : Sink) : VsockConnection × Sink × Except VsockError Nat :=
  match conn.txBuf.flushTo sink with
  | (txBuf, sink, .error error) => ({ conn with txBuf := txBuf }, sink, .error error)
  | (txBuf, sink, .ok flushed) =>
    let conn := { conn with
      txBuf := txBuf
      fwdCnt := conn.fwdCnt + saturateU32 flushed }
    ({ conn with pendingRx := conn.dueAfterFlush }, sink, .ok flushed)

/-- Peer credit as a guest header advertises it. -/
@[simps]
def setPeer : VsockConnection := { conn with peerBufAlloc := pkt.bufAlloc, peerFwdCnt := pkt.fwdCnt }

/-- The part of `send_pkt` common to all states: peer credit from the header, and
an indication for host data that the credit may now let through. -/
@[simp]
def refreshPeer : VsockConnection :=
  (conn.setPeer pkt).indicateIf (decide ((conn.setPeer pkt).peerAvailCredit > 0) && !conn.rxBuf.isEmpty) .rw

def acceptData (payload : List U8) : VsockConnection × Except VsockError Unit :=
  if payload.isEmpty then (conn, .ok ())
  else
    match conn.txBuf.push payload with
    | .error error => (conn, .error error)
    | .ok txBuf => ({ conn with txBuf := txBuf }.offerCredit, .ok ())

def shutsRcv (flags : U32) : Bool := flags &&& vsockFlagsShutdownRcv != 0
def shutsSend (flags : U32) : Bool := flags &&& vsockFlagsShutdownSend != 0

/-- Enter `PeerClosed`. With both flags and nothing left to drain, RST is due. -/
@[simp]
def enterPeerClosed (noRecv noSend : Bool) : VsockConnection :=
  { conn with state := .peerClosed noRecv noSend }.indicateIf (noRecv && noSend && conn.txBuf.isEmpty) .rst

/-- SHUTDOWN on an established connection. An RST that waits for the TX buffer to
drain does so for a limited time. -/
@[simp]
def beginPeerClose (flags : U32) (now : Nat) : VsockConnection :=
  { conn.enterPeerClosed (shutsRcv flags) (shutsSend flags) with
    expiry :=
      if shutsRcv flags && shutsSend flags && !conn.txBuf.isEmpty then
        some (now + connShutdownTimeoutMs)
      else conn.expiry }

/-- SHUTDOWN on a connection the guest has begun to close; flags are sticky. -/
@[simp]
def continuePeerClose (noRecv noSend : Bool) (flags : U32) : VsockConnection :=
  conn.enterPeerClosed (noRecv || shutsRcv flags) (noSend || shutsSend flags)

def sendPkt (payload : List U8) (now : Nat) : VsockConnection × Except VsockError Unit :=
  let conn := conn.refreshPeer pkt
  match conn.state, fromU16 pkt.op with
  | .established, some .rw => conn.acceptData payload
  | .peerClosed _ false, some .rw => conn.acceptData payload
  | .localInit, some .response => ({ conn with expiry := none, state := .established }, .ok ())
  | .established, some .shutdown => (conn.beginPeerClose pkt.flags now, .ok ())
  | .peerClosed noRecv noSend, some .shutdown => (conn.continuePeerClose noRecv noSend pkt.flags, .ok ())
  | .established, some .creditRequest => (conn.indicate .creditUpdate, .ok ())
  | .peerInit, some .creditRequest => (conn.indicate .creditUpdate, .ok ())
  | .peerClosed _ false, some .creditRequest => (conn.indicate .creditUpdate, .ok ())
  -- CREDIT_UPDATE needs nothing more, and any other packet is dropped.
  | _, _ => (conn, .ok ())

def drainLen (maxDataLen : Nat) : Nat :=
  let maxLen := min maxDataLen conn.peerAvailCredit.toNat
  min maxLen conn.rxBuf.length

def deliverData : VsockConnection × Except VsockError (VsockPacket × List U8) :=
  if conn.needCreditUpdateFromPeer then
    ({ conn with lastFwdCntToPeer := conn.fwdCnt }.indicate .rw,
      .ok ({ pkt with op := creditRequest.toU16 }, []))
  else if conn.rxBuf.isEmpty then
    if conn.hostClosed then
      ({ conn with
        state := .localClosed
        expiry := some (now + connShutdownTimeoutMs) }, .ok ({ pkt with
        op := shutdown.toU16
        flags := vsockFlagsShutdownRcv ||| vsockFlagsShutdownSend }, []))
    else (conn, .error .noData)
  else if maxDataLen = 0 then (conn.indicate .rw, .error .noData)
  else
    let payload := conn.rxBuf.take (conn.drainLen maxDataLen)
    let len := saturateU32 payload.length
    ({ conn with
      rxBuf := conn.rxBuf.drop (conn.drainLen maxDataLen)
      rxCnt := conn.rxCnt + len
      lastFwdCntToPeer := conn.fwdCnt }, .ok ({ pkt with op := rw.toU16, len := len }, payload))

/-- The data-packet branch of `recv_pkt`, entered with the RW indication removed. -/
def recvDataPkt : VsockConnection × Except VsockError (VsockPacket × List U8) :=
  match conn.state with
  | .established | .peerClosed false _ => conn.deliverData pkt maxDataLen now
  | .localInit | .peerInit => (conn.indicate .rw, .error .noData)
  | .localClosed | .peerClosed true _ | .killed => (conn, .ok ({ pkt with op := rst.toU16 }, []))

def recvPkt (conn : VsockConnection) (maxDataLen now : Nat) :
    VsockConnection × Except VsockError (VsockPacket × List U8) :=
  let pkt := conn.initPkt
  if conn.pendingRx.contains .rst then
    (conn.clear .rst, .ok ({ pkt with op := rst.toU16 }, []))
  else if conn.pendingRx.contains .response then
    ({ conn with state := .established }.clear .response, .ok ({ pkt with op := response.toU16 }, []))
  else if conn.pendingRx.contains .request then
    ({ conn with expiry := some (now + connRequestTimeoutMs) }.clear .request,
      .ok ({ pkt with op := request.toU16 }, []))
  else if conn.pendingRx.contains .rw then (conn.clear .rw).recvDataPkt pkt maxDataLen now
  else if conn.pendingRx.contains .creditUpdate ∧
    ¬ (conn.clear .creditUpdate).hasPendingRx then
    ({ conn with lastFwdCntToPeer := conn.fwdCnt }.clear .creditUpdate,
      .ok ({ pkt with op := creditUpdate.toU16 }, []))
  else (conn.clear .creditUpdate, .error .noData)

end VsockConnection

inductive ConnCall where
  | kill
  | sendPkt (pkt : VsockPacket) (payload : List U8) (now : Nat)
  | pushHostData (data : List U8)
  | notifyHostClosed
  | flushTxBuf (sink : Sink)
  | recvPkt (maxDataLen now : Nat)

namespace VsockConnection
def call (conn : VsockConnection) : ConnCall → VsockConnection
  | .kill => conn.kill
  | .sendPkt pkt payload now => (conn.sendPkt pkt payload now).1
  | .pushHostData data => conn.pushHostData data
  | .notifyHostClosed => conn.notifyHostClosed
  | .flushTxBuf sink => (conn.flushTxBuf sink).1
  | .recvPkt maxDataLen now => (conn.recvPkt maxDataLen now).1

def produced (conn : VsockConnection) : ConnCall → Option (VsockPacket × List U8)
  | .recvPkt maxDataLen now => (conn.recvPkt maxDataLen now).2.toOption
  | _ => none

end VsockConnection
end Visor.Vsock
