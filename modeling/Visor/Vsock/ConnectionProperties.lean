import Visor.Vsock.Connection

/-! What one call on a connection can do. `Sent` and `Received` list every outcome
of `send_pkt` and `recv_pkt` with the conditions that lead to it; the laws over
whole runs are case analyses of them. -/

namespace Visor.Vsock
open VsockOp ConnState
namespace ConnState
def sendsData : ConnState → Bool
  | .established | .peerClosed _ false => true
  | _ => false

def takesHostData : ConnState → Bool
  | .established | .peerClosed false _ => true
  | _ => false

def inHandshake : ConnState → Bool
  | .localInit | .peerInit => true
  | _ => false

end ConnState

namespace VsockConnection
variable (conn : VsockConnection)

theorem hasPendingRx_iff : conn.hasPendingRx = true ↔ ∃ it, conn.pendingRx.contains it = true := by
  rw [hasPendingRx, Bool.not_eq_true', ← Bool.not_eq_true, conn.pendingRx.isEmpty_iff]
  simp

@[simp] theorem peerAvailCredit_clear (it : PendingRx) :
    (conn.clear it).peerAvailCredit = conn.peerAvailCredit := rfl

structure Ignored (conn : VsockConnection) (pkt : VsockPacket) (payload : List U8) : Prop where
  data : conn.state.sendsData = true → fromU16 pkt.op = some .rw → payload = []
  answer : conn.state = .localInit → fromU16 pkt.op ≠ some .response
  shutdown : conn.state = .established ∨
    (∃ noRecv noSend, conn.state = .peerClosed noRecv noSend) → fromU16 pkt.op ≠ some .shutdown

section
variable (conn : VsockConnection) (pkt : VsockPacket) (payload : List U8) (now : Nat)

inductive Sent : VsockConnection → Except VsockError Unit → Prop where
  | dropped (ignored : conn.Ignored pkt payload) : Sent (conn.refreshPeer pkt) (.ok ())
  | overflowed {error : VsockError} (open_ : conn.state.sendsData = true)
    (isData : fromU16 pkt.op = some .rw)
    (full : conn.txBuf.push payload = .error error) : Sent (conn.refreshPeer pkt) (.error error)
  | stored {txBuf : TxBuf} (open_ : conn.state.sendsData = true) (isData : fromU16 pkt.op = some .rw)
    (pushed : conn.txBuf.push payload = .ok txBuf) :
      Sent ({ conn.refreshPeer pkt with txBuf := txBuf }.offerCredit) (.ok ())
  | answered (waiting : conn.state = .localInit) (isResponse : fromU16 pkt.op = some .response) : Sent
    { conn.refreshPeer pkt with expiry := none, state := .established } (.ok ())
  | closing (established : conn.state = .established)
    (isShutdown : fromU16 pkt.op = some .shutdown) :
      Sent ((conn.refreshPeer pkt).beginPeerClose pkt.flags now) (.ok ())
  | closingMore {noRecv noSend : Bool} (closed : conn.state = .peerClosed noRecv noSend)
    (isShutdown : fromU16 pkt.op = some .shutdown) :
    Sent ((conn.refreshPeer pkt).continuePeerClose noRecv noSend pkt.flags) (.ok ())
  | creditAsked (asks : conn.state = .peerInit ∨ conn.state.sendsData = true)
    (isRequest : fromU16 pkt.op = some .creditRequest) :
      Sent ((conn.refreshPeer pkt).indicate .creditUpdate) (.ok ())

end

variable {conn : VsockConnection} {now maxDataLen : Nat}

private theorem acceptData_sent {pkt : VsockPacket} {payload : List U8}
    (open_ : conn.state.sendsData = true) (isData : fromU16 pkt.op = some .rw) :
    Sent conn pkt payload now ((conn.refreshPeer pkt).acceptData payload).1
    ((conn.refreshPeer pkt).acceptData payload).2 := by
  have same : (conn.refreshPeer pkt).txBuf = conn.txBuf := rfl
  unfold acceptData
  rw [same]
  by_cases empty : payload.isEmpty = true
  · rw [if_pos empty]
    refine .dropped ⟨fun _ _ => List.isEmpty_iff.mp empty, ?_, ?_⟩
    · simp [isData]
    · simp [isData]
  · rw [if_neg empty]
    cases pushed : conn.txBuf.push payload with
    | error => exact .overflowed open_ isData pushed
    | ok => exact .stored open_ isData pushed

theorem sendPkt_sent (pkt : VsockPacket) (payload : List U8) (now : Nat) :
    Sent conn pkt payload now (conn.sendPkt pkt payload now).1 (conn.sendPkt pkt payload now).2 := by
  have same : (conn.refreshPeer pkt).state = conn.state := rfl
  unfold sendPkt
  dsimp only
  rw [same]
  split
  · next established isData => exact acceptData_sent (by rw [established]; rfl) isData
  · next closed isData => exact acceptData_sent (by rw [closed]; rfl) isData
  · next waiting isResponse => exact .answered waiting isResponse
  · next established isShutdown => exact .closing established isShutdown
  · next closed isShutdown => exact .closingMore closed isShutdown
  · next established isRequest => exact .creditAsked (.inr (by rw [established]; rfl)) isRequest
  · next starting isRequest => exact .creditAsked (.inl starting) isRequest
  · next closed isRequest => exact .creditAsked (.inr (by rw [closed]; rfl)) isRequest
  · next notData notHalfData notAnswer notShutdown notMore _ _ _ =>
      refine .dropped ⟨?_, fun waiting => notAnswer waiting, ?_⟩
      · intro open_ isData
        cases current : conn.state with
        | established => exact absurd isData (notData current)
        | peerClosed noRecv noSend =>
          cases noSend with
          | false => exact absurd isData (notHalfData _ current)
          | true => simp [current, sendsData] at open_
        | localInit | peerInit | localClosed | killed => simp [current, sendsData] at open_
      · rintro (established | ⟨noRecv, noSend, closed⟩)
        · exact notShutdown established
        · exact notMore _ _ closed

inductive FlushedTx (conn : VsockConnection) (sink : Sink) : VsockConnection → Sink →
    Except VsockError Nat → Prop where
  | failed {txBuf : TxBuf} {sunk : Sink} {error : VsockError}
    (flushed : TxBuf.Flushed conn.txBuf txBuf sink sunk (.error error) 0) :
    FlushedTx conn sink { conn with txBuf := txBuf } sunk (.error error)
  | drained {txBuf : TxBuf} {sunk : Sink} {taken : Nat} {after : VsockConnection}
    (flushed : TxBuf.Flushed conn.txBuf txBuf sink sunk (.ok taken) taken)
    (counted : after = { conn with txBuf := txBuf, fwdCnt := conn.fwdCnt + saturateU32 taken }) :
    FlushedTx conn sink { after with pendingRx := after.dueAfterFlush } sunk (.ok taken)

theorem flushTxBuf_flushed (sink : Sink) :
    FlushedTx conn sink (conn.flushTxBuf sink).1 (conn.flushTxBuf sink).2.1 (conn.flushTxBuf sink).2.2 := by
  obtain ⟨taken, flushed⟩ := conn.txBuf.flushTo_spec sink
  unfold flushTxBuf
  generalize conn.txBuf.flushTo sink = outcome at flushed ⊢
  obtain ⟨txBuf, sunk, result⟩ := outcome
  cases result with
  | error =>
    rcases flushed.reported with impossible | ⟨_, _, rfl⟩
    · cases impossible
    · exact .failed flushed
  | ok =>
    rcases flushed.reported with same | ⟨_, impossible, _⟩
    · cases same
      exact .drained flushed rfl
    · cases impossible

theorem flushTxBuf_vec : ∃ txBuf sink after, conn.flushTxBuf .vec =
    ({ after with pendingRx := after.dueAfterFlush }, sink,
    .ok conn.txBuf.len) ∧
    after = { conn with
      txBuf := txBuf
      fwdCnt := conn.fwdCnt + BitVec.ofNat 32 conn.txBuf.len } ∧
    txBuf.contents = [] ∧ sink.received = conn.txBuf.contents := by
  obtain ⟨emptied, received, reported⟩ := conn.txBuf.flushTo_vec
  have small : saturateU32 conn.txBuf.len = BitVec.ofNat 32 conn.txBuf.len :=
    saturateU32_eq (by have := conn.txBuf.len_le; omega)
  unfold flushTxBuf
  generalize conn.txBuf.flushTo .vec = outcome at emptied received reported ⊢
  obtain ⟨txBuf, sink, result⟩ := outcome
  subst reported
  refine ⟨txBuf, sink, _, rfl, ?_, emptied, received⟩
  rw [small]

theorem contains_dueAfterFlush (conn : VsockConnection) {it : PendingRx} (notRst : it ≠ .rst)
    (notUpdate : it ≠ .creditUpdate) : conn.dueAfterFlush.contains it = conn.pendingRx.contains it := by
  unfold dueAfterFlush
  split
  · simp [notRst.symm]
  · split
    · simp [notUpdate.symm]
    · rfl

theorem contains_dueAfterFlush_of_contains {it : PendingRx}
    (present : conn.pendingRx.contains it = true) : conn.dueAfterFlush.contains it = true := by
  unfold dueAfterFlush
  split
  · simp [present]
  · split
    · simp [present]
    · exact present

theorem dueAfterFlush_of_peerNeedsCreditUpdate (stale : conn.peerNeedsCreditUpdate = true) :
    conn.dueAfterFlush.contains .creditUpdate = true ∨ conn.dueAfterFlush.contains .rst = true := by
  unfold dueAfterFlush
  split
  · exact .inr (by simp)
  · exact .inl (by simp)

/-- The RW indication is the next one `recv_pkt` looks at. -/
@[mk_iff] structure DataTurn (conn : VsockConnection) : Prop where
  noRst : conn.pendingRx.contains .rst = false
  noResponse : conn.pendingRx.contains .response = false
  noRequest : conn.pendingRx.contains .request = false
  due : conn.pendingRx.contains .rw = true

section
variable (conn : VsockConnection) (maxDataLen now : Nat)

inductive Received : VsockConnection → Except VsockError (VsockPacket × List U8) → Prop where
  | rst (due : conn.pendingRx.contains .rst = true) :
    Received (conn.clear .rst) (.ok ({ conn.initPkt with op := rst.toU16 }, []))
  | response (noRst : conn.pendingRx.contains .rst = false)
    (due : conn.pendingRx.contains .response = true) :
      Received ({ conn with state := .established }.clear .response)
      (.ok ({ conn.initPkt with op := response.toU16 }, []))
  | request (noRst : conn.pendingRx.contains .rst = false)
    (noResponse : conn.pendingRx.contains .response = false)
    (due : conn.pendingRx.contains .request = true) :
      Received ({ conn with expiry := some (now + connRequestTimeoutMs) }.clear .request)
      (.ok ({ conn.initPkt with op := request.toU16 }, []))
  | creditRequest (turn : conn.DataTurn) (receives : conn.state.takesHostData = true)
    (noCredit : conn.peerAvailCredit = 0) : Received
    ({ conn.clear .rw with lastFwdCntToPeer := conn.fwdCnt }.indicate .rw)
    (.ok ({ conn.initPkt with op := creditRequest.toU16 }, []))
  | shutdown (turn : conn.DataTurn) (receives : conn.state.takesHostData = true)
    (credit : conn.peerAvailCredit ≠ 0) (drained : conn.rxBuf = [])
      (closed : conn.hostClosed = true) : Received
      { conn.clear .rw with
        state := .localClosed
        expiry := some (now + connShutdownTimeoutMs) }
      (.ok ({ conn.initPkt with
        op := shutdown.toU16
        flags := vsockFlagsShutdownRcv ||| vsockFlagsShutdownSend }, []))
  | drained (turn : conn.DataTurn) (receives : conn.state.takesHostData = true)
    (credit : conn.peerAvailCredit ≠ 0)
    (drained : conn.rxBuf = []) (isOpen : conn.hostClosed = false) :
      Received (conn.clear .rw) (.error .noData)
  | headerOnly (turn : conn.DataTurn) (receives : conn.state.takesHostData = true)
    (credit : conn.peerAvailCredit ≠ 0)
    (buffered : conn.rxBuf ≠ []) (noRoom : maxDataLen = 0) :
      Received ((conn.clear .rw).indicate .rw) (.error .noData)
  | data (turn : conn.DataTurn) (receives : conn.state.takesHostData = true)
    (credit : conn.peerAvailCredit ≠ 0) (buffered : conn.rxBuf ≠ []) (room : maxDataLen ≠ 0) : Received
      { conn.clear .rw with
        rxBuf := conn.rxBuf.drop (conn.drainLen maxDataLen)
        rxCnt := conn.rxCnt + saturateU32 (conn.rxBuf.take (conn.drainLen maxDataLen)).length
        lastFwdCntToPeer := conn.fwdCnt }
      (.ok ({ conn.initPkt with
        op := rw.toU16
        len := saturateU32 (conn.rxBuf.take (conn.drainLen maxDataLen)).length },
          conn.rxBuf.take (conn.drainLen maxDataLen)))
  | deferred (turn : conn.DataTurn) (handshake : conn.state.inHandshake = true) :
    Received ((conn.clear .rw).indicate .rw) (.error .noData)
  | refused (turn : conn.DataTurn) (receives : conn.state.takesHostData = false)
    (handshake : conn.state.inHandshake = false) :
      Received (conn.clear .rw) (.ok ({ conn.initPkt with op := rst.toU16 }, []))
  | creditUpdate (only : ∀ it, conn.pendingRx.contains it = decide (it = .creditUpdate)) : Received
    ({ conn with lastFwdCntToPeer := conn.fwdCnt }.clear .creditUpdate)
    (.ok ({ conn.initPkt with op := creditUpdate.toU16 }, []))
  | idle (nothing : ∀ it, conn.pendingRx.contains it = false) :
    Received (conn.clear .creditUpdate) (.error .noData)

end

private theorem deliverData_received (turn : conn.DataTurn) (receives : conn.state.takesHostData = true) :
    Received conn maxDataLen now ((conn.clear .rw).deliverData conn.initPkt maxDataLen now).1
    ((conn.clear .rw).deliverData conn.initPkt maxDataLen now).2 := by
  have sameCredit : (conn.clear .rw).needCreditUpdateFromPeer = (conn.peerAvailCredit == 0) := rfl
  unfold deliverData
  rw [sameCredit]
  by_cases noCredit : conn.peerAvailCredit = 0
  · rw [if_pos (by simpa using noCredit)]
    exact .creditRequest turn receives noCredit
  · rw [if_neg (by simpa using noCredit)]
    simp only [clear_rxBuf, clear_hostClosed]
    by_cases drained : conn.rxBuf = []
    · rw [if_pos (by simpa using drained)]
      by_cases closed : conn.hostClosed = true
      · rw [if_pos closed]
        exact .shutdown turn receives noCredit drained closed
      · rw [if_neg closed]
        exact .drained turn receives noCredit drained (Bool.eq_false_of_not_eq_true closed)
    · rw [if_neg (by simpa using drained)]
      by_cases noRoom : maxDataLen = 0
      · rw [if_pos noRoom]
        exact .headerOnly turn receives noCredit drained noRoom
      · rw [if_neg noRoom]
        exact .data turn receives noCredit drained noRoom

private theorem recvDataPkt_received (turn : conn.DataTurn) :
    Received conn maxDataLen now ((conn.clear .rw).recvDataPkt conn.initPkt maxDataLen now).1
    ((conn.clear .rw).recvDataPkt conn.initPkt maxDataLen now).2 := by
  unfold recvDataPkt
  simp only [clear_state]
  cases current : conn.state with
  | established => exact deliverData_received turn (by rw [current]; rfl)
  | localInit | peerInit => exact .deferred turn (by rw [current]; rfl)
  | localClosed | killed => exact .refused turn (by rw [current]; rfl) (by rw [current]; rfl)
  | peerClosed noRecv =>
    cases noRecv with
    | false => exact deliverData_received turn (by rw [current]; rfl)
    | true => exact .refused turn (by rw [current]; rfl) (by rw [current]; rfl)

theorem recvPkt_received (maxDataLen now : Nat) :
    Received conn maxDataLen now (conn.recvPkt maxDataLen now).1 (conn.recvPkt maxDataLen now).2 := by
  unfold recvPkt
  cases rst : conn.pendingRx.contains .rst with
  | true => exact .rst rst
  | false =>
  cases response : conn.pendingRx.contains .response with
  | true => exact .response rst response
  | false =>
  cases request : conn.pendingRx.contains .request with
  | true => exact .request rst response request
  | false =>
  cases rw_ : conn.pendingRx.contains .rw with
  | true => exact recvDataPkt_received ⟨rst, response, request, rw_⟩
  | false =>
  cases update : conn.pendingRx.contains .creditUpdate with
  | false =>
    rw [if_neg (by simp)]
    refine .idle fun it => ?_
    cases it <;> assumption
  | true =>
    have alone : (conn.clear .creditUpdate).hasPendingRx = false := by
      rw [← Bool.not_eq_true, hasPendingRx_iff]
      rintro ⟨it, present⟩
      cases it <;> simp_all
    simp only [Bool.false_eq_true, ↓reduceIte, alone, not_false_eq_true, and_self]
    refine .creditUpdate fun it => ?_
    cases it <;> simp_all

@[simp] theorem txBuf_recvPkt (maxDataLen now : Nat) :
    (conn.recvPkt maxDataLen now).1.txBuf = conn.txBuf := by
  have outcome := conn.recvPkt_received maxDataLen now
  generalize (conn.recvPkt maxDataLen now).1 = after at outcome ⊢
  generalize (conn.recvPkt maxDataLen now).2 = result at outcome
  cases outcome <;> rfl

@[simp] theorem fwdCnt_recvPkt (maxDataLen now : Nat) :
    (conn.recvPkt maxDataLen now).1.fwdCnt = conn.fwdCnt := by
  have outcome := conn.recvPkt_received maxDataLen now
  generalize (conn.recvPkt maxDataLen now).1 = after at outcome ⊢
  generalize (conn.recvPkt maxDataLen now).2 = result at outcome
  cases outcome <;> rfl

@[mk_iff] structure DataDue (conn : VsockConnection) (maxDataLen : Nat) : Prop where
  turn : conn.DataTurn
  receives : conn.state.takesHostData = true
  credit : conn.peerAvailCredit ≠ 0
  buffered : conn.rxBuf ≠ []
  room : maxDataLen ≠ 0

instance (conn : VsockConnection) : Decidable conn.DataTurn := decidable_of_iff _ (dataTurn_iff conn).symm

instance (conn : VsockConnection) (maxDataLen : Nat) : Decidable (conn.DataDue maxDataLen) :=
  decidable_of_iff _ (dataDue_iff conn maxDataLen).symm

theorem recvPkt_of_dataDue (due : conn.DataDue maxDataLen) (now : Nat) :
    conn.recvPkt maxDataLen now = ({ conn.clear .rw with
    rxBuf := conn.rxBuf.drop (conn.drainLen maxDataLen)
    rxCnt := conn.rxCnt + saturateU32 (conn.rxBuf.take (conn.drainLen maxDataLen)).length
    lastFwdCntToPeer := conn.fwdCnt }, .ok ({ conn.initPkt with
    op := rw.toU16
    len := saturateU32 (conn.rxBuf.take (conn.drainLen maxDataLen)).length },
    conn.rxBuf.take (conn.drainLen maxDataLen))) := by
  obtain ⟨⟨noRst, noResponse, noRequest, isDue⟩, receives, credit, buffered, room⟩ := due
  have delivered : (conn.clear .rw).recvDataPkt conn.initPkt maxDataLen now =
    (conn.clear .rw).deliverData conn.initPkt maxDataLen now := by
    unfold recvDataPkt
    simp only [clear_state]
    split
    · rfl
    · rfl
    all_goals
      next current =>
        rw [current] at receives
        cases receives
  have funded : (conn.clear .rw).needCreditUpdateFromPeer = false := by
    simpa [needCreditUpdateFromPeer] using credit
  simp only [recvPkt, noRst, noResponse, noRequest, isDue, delivered, deliverData, funded,
    Bool.false_eq_true, ↓reduceIte, clear_rxBuf, List.isEmpty_iff, buffered, room]
  rfl

inductive Called (conn : VsockConnection) : ConnCall → VsockConnection → Prop where
  | kill : Called conn .kill conn.kill
  | sendPkt {pkt : VsockPacket} {payload : List U8} {now : Nat} {after : VsockConnection}
    {result : Except VsockError Unit} (sent : Sent conn pkt payload now after result) :
      Called conn (.sendPkt pkt payload now) after
  | pushHostData {data : List U8} : Called conn (.pushHostData data) (conn.pushHostData data)
  | notifyHostClosed : Called conn .notifyHostClosed conn.notifyHostClosed
  | flushTxBuf {sink sunk : Sink} {after : VsockConnection} {result : Except VsockError Nat}
    (flushed : FlushedTx conn sink after sunk result) : Called conn (.flushTxBuf sink) after
  | recvPkt {maxDataLen now : Nat} {after : VsockConnection}
    {result : Except VsockError (VsockPacket × List U8)}
    (received : Received conn maxDataLen now after result) : Called conn (.recvPkt maxDataLen now) after

theorem call_called (input : ConnCall) : Called conn input (conn.call input) := by
  cases input with
  | kill => exact .kill
  | sendPkt pkt payload now => exact .sendPkt (conn.sendPkt_sent pkt payload now)
  | pushHostData => exact .pushHostData
  | notifyHostClosed => exact .notifyHostClosed
  | flushTxBuf sink => exact .flushTxBuf (conn.flushTxBuf_flushed sink)
  | recvPkt maxDataLen now => exact .recvPkt (conn.recvPkt_received maxDataLen now)

/-- The call hands a packet with the operation to the guest. -/
def Emits (conn : VsockConnection) (op : VsockOp) (input : ConnCall) : Prop :=
  ∃ pkt payload, conn.produced input = some (pkt, payload) ∧ pkt.op = op.toU16

section
variable (conn : VsockConnection) (maxDataLen : Nat)

inductive Due : VsockOp → Prop where
  | rst (due : conn.pendingRx.contains .rst = true) : Due .rst
  | refused (turn : conn.DataTurn) (receives : conn.state.takesHostData = false)
    (handshake : conn.state.inHandshake = false) : Due .rst
  | response (noRst : conn.pendingRx.contains .rst = false)
    (due : conn.pendingRx.contains .response = true) : Due .response
  | request (noRst : conn.pendingRx.contains .rst = false)
    (noResponse : conn.pendingRx.contains .response = false)
    (due : conn.pendingRx.contains .request = true) : Due .request
  | creditRequest (turn : conn.DataTurn) (receives : conn.state.takesHostData = true)
    (noCredit : conn.peerAvailCredit = 0) : Due .creditRequest
  | shutdown (turn : conn.DataTurn) (receives : conn.state.takesHostData = true)
    (credit : conn.peerAvailCredit ≠ 0) (drained : conn.rxBuf = [])
      (closed : conn.hostClosed = true) : Due .shutdown
  | data (due : conn.DataDue maxDataLen) : Due .rw
  | creditUpdate (only : ∀ it, conn.pendingRx.contains it = decide (it = .creditUpdate)) : Due .creditUpdate

end

theorem Received.due {after : VsockConnection} {pkt : VsockPacket} {payload : List U8}
    (received : Received conn maxDataLen now after (.ok (pkt, payload))) :
    ∃ op, conn.Due maxDataLen op ∧ pkt.op = toU16 op := by
  cases received with
  | rst due => exact ⟨_, .rst due, rfl⟩
  | response noRst due => exact ⟨_, .response noRst due, rfl⟩
  | request noRst noResponse due => exact ⟨_, .request noRst noResponse due, rfl⟩
  | creditRequest turn receives noCredit => exact ⟨_, .creditRequest turn receives noCredit, rfl⟩
  | shutdown turn receives credit drained closed =>
    exact ⟨_, .shutdown turn receives credit drained closed, rfl⟩
  | data turn receives credit buffered room =>
    exact ⟨_, .data ⟨turn, receives, credit, buffered, room⟩, rfl⟩
  | refused turn receives handshake => exact ⟨_, .refused turn receives handshake, rfl⟩
  | creditUpdate only => exact ⟨_, .creditUpdate only, rfl⟩

theorem Emits.due {op : VsockOp} {input : ConnCall} (emits : conn.Emits op input) :
    ∃ maxDataLen now, input = .recvPkt maxDataLen now ∧ conn.Due maxDataLen op := by
  obtain ⟨pkt, payload, emitted, isOp⟩ := emits
  cases input with
  | kill | sendPkt | pushHostData | notifyHostClosed | flushTxBuf => cases emitted
  | recvPkt maxDataLen now =>
    refine ⟨maxDataLen, now, rfl, ?_⟩
    have received := conn.recvPkt_received maxDataLen now
    simp only [produced] at emitted
    generalize conn.recvPkt maxDataLen now = outcome at received emitted
    obtain ⟨after, result⟩ := outcome
    cases result with
    | error => cases emitted
    | ok =>
      cases emitted
      obtain ⟨named, due, same⟩ := received.due
      rw [same, toU16_inj] at isOp
      rwa [← isOp]

theorem emits_rw_iff (maxDataLen now : Nat) :
    conn.Emits .rw (.recvPkt maxDataLen now) ↔ conn.DataDue maxDataLen := by
  constructor
  · intro emits
    obtain ⟨_, _, same, due⟩ := emits.due
    cases same
    cases due with
    | data due => exact due
  · intro due
    simp only [Emits, produced, recvPkt_of_dataDue due]
    exact ⟨_, _, rfl, rfl⟩

theorem emits_rst (due : conn.pendingRx.contains .rst = true) (maxDataLen now : Nat) :
    conn.Emits .rst (.recvPkt maxDataLen now) := by
  simp only [Emits, produced, recvPkt, due, ↓reduceIte]
  exact ⟨_, _, rfl, rfl⟩

end VsockConnection

/-! One connection together with the guest at the other end: the guest's own counters
and the packets handed out by `recv_pkt` that have not reached it. Packets stay in
order. A guest packet takes effect in the `send_pkt` call it causes. -/

open VsockConnection

/-- How far the guest is in the life of the connection. It sends data only in
`transferring`, which starts with the RESPONSE it receives or sends, and ends with
its SHUTDOWN. -/
inductive GuestPhase where
  | connecting
  | listening
  | requested
  | transferring
  | shut
deriving DecidableEq

/-- The handshake packet the guest was waiting for moves it on. -/
def GuestPhase.received : GuestPhase → Option VsockOp → GuestPhase
  | .connecting, some .response => .transferring
  | .listening, some .request => .requested
  | phase, _ => phase

variable (phase : GuestPhase) (op : Option VsockOp)

theorem GuestPhase.received_cases : phase.received op = phase ∨
    (phase = .connecting ∧ op = some .response ∧ phase.received op = .transferring) ∨
    (phase = .listening ∧ op = some .request ∧ phase.received op = .requested) := by
  unfold GuestPhase.received
  split
  · exact .inr (.inl ⟨rfl, rfl, rfl⟩)
  · exact .inr (.inr ⟨rfl, rfl, rfl⟩)
  · exact .inl rfl

theorem GuestPhase.received_eq_shut_iff : phase.received op = .shut ↔ phase = .shut := by
  rcases phase.received_cases op with same | ⟨rfl, _, moved⟩ | ⟨rfl, _, moved⟩
  · rw [same]
  · simp [moved]
  · simp [moved]

/-- Guest side counters: bytes sent, and the last `fwd_cnt` received. -/
structure Guest where
  phase : GuestPhase
  sent : U32
  seen : U32

namespace Guest
variable (guest : Guest) (pkt : VsockPacket) (payload : List U8)

def unacknowledged : Nat := (guest.sent - guest.seen).toNat

def afterSend : Guest :=
  match fromU16 pkt.op with
  | some .rw => { guest with sent := guest.sent + BitVec.ofNat 32 payload.length }
  | some .response =>
    { guest with phase := if guest.phase = .requested then .transferring else guest.phase }
  | some .shutdown => { guest with phase := .shut }
  | _ => guest

def afterReceive : Guest :=
  { guest with
    phase := guest.phase.received (fromU16 pkt.op)
    seen := pkt.fwdCnt }

/-- The guest keeps to its credit, sends data only between RESPONSE and SHUTDOWN, and
answers only a REQUEST it has received. -/
def Honest : Prop :=
  (fromU16 pkt.op = some .rw → guest.phase = .transferring ∧
    guest.unacknowledged + payload.length ≤ connTxBufSize.toNat) ∧
    (fromU16 pkt.op = some .response → guest.phase ≠ .listening)
deriving Decidable

end Guest

/-- `accepted` counts the payload bytes that `send_pkt` has accepted. -/
structure CreditLink where
  conn : VsockConnection
  guest : Guest
  toGuest : List VsockPacket
  accepted : Nat

inductive LinkEvent where
  | guestSends (pkt : VsockPacket) (payload : List U8) (now : Nat)
  | guestReceives
  | pushHostData (data : List U8)
  | flushTxBuf (sink : Sink)
  | recvPkt (maxDataLen now : Nat)

namespace CreditLink
def start (conn : VsockConnection) : CreditLink where
  conn := conn
  guest := {
    phase := if conn.state = .localInit then .listening else .connecting
    sent := 0
    seen := 0 }
  toGuest := []
  accepted := 0

def taken (conn : VsockConnection) (pkt : VsockPacket) (payload : List U8) (now : Nat) : Nat :=
  match (conn.sendPkt pkt payload now).2 with
  | .error _ => 0
  | .ok _ => if conn.state.sendsData ∧ fromU16 pkt.op = some .rw then payload.length else 0

variable (link : CreditLink)

def step : LinkEvent → CreditLink
  | .guestSends pkt payload now =>
    { link with
      conn := (link.conn.sendPkt pkt payload now).1
      guest := link.guest.afterSend pkt payload
      accepted := link.accepted + taken link.conn pkt payload now }
  | .guestReceives =>
    match link.toGuest with
    | [] => link
    | pkt :: rest =>
      { link with
        guest := link.guest.afterReceive pkt
        toGuest := rest }
  | .pushHostData data => { link with conn := link.conn.pushHostData data }
  | .flushTxBuf sink => { link with conn := (link.conn.flushTxBuf sink).1 }
  | .recvPkt maxDataLen now =>
    match link.conn.recvPkt maxDataLen now with
    | (conn, .error _) => { link with conn := conn }
    | (conn, .ok (pkt, _)) =>
      { link with
        conn := conn
        toGuest := link.toGuest ++ [pkt] }

/-- The guest is honest; everything else is unconstrained. -/
def Admits : LinkEvent → Prop
  | .guestSends pkt payload _ => link.guest.Honest pkt payload
  | _ => True

instance (event : LinkEvent) : Decidable (link.Admits event) :=
  by cases event <;> (unfold Admits; infer_instance)

end CreditLink
end Visor.Vsock
