import Visor.Library.CreditWindow
import Visor.Vsock.PendingWork

/-! The connection and an honest guest agree on credit. Each event of the link is a
move of a credit window, so the counters stay sound; what is left to show here is
that the handshake keeps data out until both counters start at zero, and that a
guest that has fallen far behind is owed a packet. -/

namespace Visor.Vsock
open Library CreditWindow VsockOp Guest TxBuf BitVec GuestPhase ConnState
namespace VsockConnection
structure HandshakeSent (conn : VsockConnection) : Prop where
  noResponse : conn.pendingRx.contains .response = false
  noRequest : conn.pendingRx.contains .request = false

variable (conn : VsockConnection)

/-- The connection's state as the guest's phase implies it. -/
def FitsPhase : GuestPhase → Prop
  | .connecting =>
    (conn.state = .peerInit ∧ conn.pendingRx.contains .response = true) ∨
      (conn.state = .established ∧ conn.HandshakeSent)
  | .listening => conn.state = .localInit
  | .requested => conn.state = .localInit ∧ conn.HandshakeSent
  | .transferring => conn.state = .established ∧ conn.HandshakeSent
  | .shut => True

def OwesCredit : Prop := conn.pendingRx.contains .creditUpdate = true ∨ conn.pendingRx.contains .rst = true

/-- The wrapping comparison of `peer_needs_credit_update` is right while the guest is
no more than a full buffer behind. -/
theorem peerNeedsCreditUpdate_of_behind {conn : VsockConnection}
    (late : 61440 < behind conn.fwdCnt conn.lastFwdCntToPeer)
    (bound : behind conn.fwdCnt conn.lastFwdCntToPeer ≤ 65536) : conn.peerNeedsCreditUpdate = true := by
  unfold behind at late bound
  unfold peerNeedsCreditUpdate connTxBufSize connCreditUpdateThreshold
  generalize conn.fwdCnt - conn.lastFwdCntToPeer = lag at late bound ⊢
  apply decide_eq_true
  bv_omega

end VsockConnection

namespace CreditLink
open VsockConnection

def window (link : CreditLink) : CreditWindow 32 where
  sent := link.guest.sent
  stored := link.conn.txBuf.len
  forwarded := link.conn.fwdCnt
  reported := link.conn.lastFwdCntToPeer
  seen := link.guest.seen
  inFlight := link.toGuest.map (·.fwdCnt)
  closed := decide (link.guest.phase = .shut)

structure Rapport (link : CreditLink) : Prop where
  hostOpen : link.conn.hostClosed = false
  alive : link.conn.state ≠ .localClosed ∧ link.conn.state ≠ .killed
  responder : link.conn.pendingRx.contains .response = true → link.conn.state = .peerInit
  single : link.conn.pendingRx.contains .response = true → link.conn.pendingRx.contains .request = false
  opening : ¬ link.conn.HandshakeSent → link.conn.txBuf.len = 0 ∧ link.conn.lastFwdCntToPeer =
    link.conn.fwdCnt
  announced : ∀ pkt ∈ link.toGuest, pkt.op = response.toU16 ∨ pkt.op = request.toU16 →
    link.conn.HandshakeSent
  phase : link.conn.FitsPhase link.guest.phase
  noRst : link.guest.phase ≠ .shut → link.conn.pendingRx.contains .rst = false

structure Agreement (link : CreditLink) : Prop where
  window : link.window.Sound 65536
  accounted : BitVec.ofNat 32 link.accepted = link.conn.fwdCnt + BitVec.ofNat 32 link.conn.txBuf.len
  notified : 61440 < behind link.conn.fwdCnt link.window.newest → link.conn.OwesCredit
  rapport : link.Rapport

variable {conn : VsockConnection} {pkt : VsockPacket} {link : CreditLink} {after : VsockConnection}
  {other : CreditLink} {txBuf : TxBuf}

theorem agreement_start (fresh : conn.Fresh) : (start conn).Agreement := by
  have counters : conn.txBuf.len = 0 ∧ conn.fwdCnt = 0 ∧ conn.lastFwdCntToPeer = 0 := by
    cases fresh <;> exact ⟨len_new, rfl, rfl⟩
  obtain ⟨empty, forwarded, reported⟩ := counters
  refine ⟨⟨by decide, ?_, ?_, ?_, ?_, ?_, ?_⟩, ?_, ?_, ?_⟩
  · simp [window, start, empty, forwarded]
  · simp [window, start, empty, forwarded, views, behind]
  · simp [window, start, views]
  · simp [window, start, empty, forwarded, reported, behind]
  · simp [window, start, forwarded, reported, newest]
  · simp [window, start, reported, newest]
  · simp [start, empty, forwarded]
  · simp [window, start, forwarded, newest, behind]
  · cases fresh with
    | peerInit =>
      refine ⟨rfl, by simp [start, newPeerInit], fun _ => rfl, ?_,
        fun _ => ⟨len_new, rfl⟩, by simp [start], ?_, ?_⟩
      · simp [start, newPeerInit]
      · simp [FitsPhase, start, newPeerInit]
      · simp [start, newPeerInit]
    | localInit =>
      refine ⟨rfl, by simp [start, newLocalInit], by simp [start, newLocalInit], ?_,
        fun _ => ⟨len_new, rfl⟩, by simp [start], ?_, ?_⟩
      · simp [start, newLocalInit]
      · simp [FitsPhase, start, newLocalInit]
      · simp [start, newLocalInit]

theorem window_guestReceives (link : CreditLink) :
    (link.step .guestReceives).window = link.window.receive := by
  unfold step receive
  cases arriving : link.toGuest with
  | nil => simp [window, arriving]
  | cons => simp [window, arriving, afterReceive, received_eq_shut_iff]

private theorem fitsPhase_received {phase : GuestPhase} (fits : conn.FitsPhase phase)
    (announced : pkt.op = response.toU16 ∨ pkt.op = request.toU16 → conn.HandshakeSent) :
    conn.FitsPhase (phase.received (fromU16 pkt.op)) := by
  rcases phase.received_cases (fromU16 pkt.op) with
    same | ⟨rfl, isResponse, moved⟩ | ⟨rfl, isRequest, moved⟩
  · rwa [same]
  · have sent := announced (.inl (fromU16_eq_some_iff.mp isResponse))
    rw [moved]
    rcases fits with ⟨_, pending⟩ | established
    · simp [sent.noResponse] at pending
    · exact established
  · have sent := announced (.inr (fromU16_eq_some_iff.mp isRequest))
    rw [moved]
    exact ⟨fits, sent⟩

theorem Rapport.guestReceives (rapport : link.Rapport) : (link.step .guestReceives).Rapport := by
  unfold step
  cases arriving : link.toGuest with
  | nil => exact rapport
  | cons pkt =>
    have announced := rapport.announced
    rw [arriving] at announced
    refine ⟨rapport.hostOpen, rapport.alive, rapport.responder, rapport.single, rapport.opening,
      fun later member => announced later (.tail _ member),
        fitsPhase_received rapport.phase (announced pkt (.head _)), fun notShut => ?_⟩
    exact rapport.noRst ((received_eq_shut_iff _ _).not.mp notShut)

theorem Agreement.guestReceives (agreement : link.Agreement) : (link.step .guestReceives).Agreement := by
  have sameConn : (link.step .guestReceives).conn = link.conn ∧
    (link.step .guestReceives).accepted = link.accepted := by
    unfold step
    cases link.toGuest <;> exact ⟨rfl, rfl⟩
  obtain ⟨conn, accepted⟩ := sameConn
  refine ⟨?_, ?_, ?_, agreement.rapport.guestReceives⟩
  · rw [window_guestReceives]
    exact agreement.window.receive
  · rw [conn, accepted]
    exact agreement.accounted
  · rw [conn, window_guestReceives, newest_receive]
    exact agreement.notified

structure SameHandshake (conn after : VsockConnection) : Prop where
  hostClosed : after.hostClosed = conn.hostClosed
  response : after.pendingRx.contains .response = conn.pendingRx.contains .response
  request : after.pendingRx.contains .request = conn.pendingRx.contains .request

theorem SameHandshake.handshakeSent_iff (same : SameHandshake conn after) :
    after.HandshakeSent ↔ conn.HandshakeSent := by
  constructor
  · rintro ⟨noResponse, noRequest⟩
    exact ⟨same.response ▸ noResponse, same.request ▸ noRequest⟩
  · rintro ⟨noResponse, noRequest⟩
    exact ⟨same.response.trans noResponse, same.request.trans noRequest⟩

private theorem SameHandshake.fitsPhase_iff (same : SameHandshake conn after)
    (state : after.state = conn.state) (phase : GuestPhase) :
    after.FitsPhase phase ↔ conn.FitsPhase phase := by
  cases phase <;> simp only [FitsPhase, state, same.response, same.handshakeSent_iff]

theorem Rapport.keep (rapport : link.Rapport) (state : after.state = link.conn.state)
    (same : SameHandshake link.conn after)
    (opening : ¬ after.HandshakeSent → after.txBuf.len = 0 ∧ after.lastFwdCntToPeer = after.fwdCnt)
    (noRst : link.guest.phase ≠ .shut → after.pendingRx.contains .rst = false) :
    Rapport { link with conn := after } where
  hostOpen := same.hostClosed.trans rapport.hostOpen
  alive := by
    rw [state]
    exact rapport.alive
  responder := by
    rw [same.response, state]
    exact rapport.responder
  single := by
    rw [same.response, same.request]
    exact rapport.single
  opening := opening
  announced := fun pkt member isHandshake =>
    same.handshakeSent_iff.mpr (rapport.announced pkt member isHandshake)
  phase := (same.fitsPhase_iff state _).mpr rapport.phase
  noRst := noRst

theorem Agreement.pushHostData (agreement : link.Agreement) (data : List U8) :
    (link.step (.pushHostData data)).Agreement := by
  have same : SameHandshake link.conn (link.conn.pushHostData data) := ⟨rfl, by simp, by simp⟩
  refine ⟨agreement.window, agreement.accounted, fun late => ?_, ?_⟩
  · have owes := agreement.notified late
    simpa [OwesCredit, step] using owes
  · refine agreement.rapport.keep rfl same ?_ ?_
    · intro unsent
      exact agreement.rapport.opening (same.handshakeSent_iff.not.mp unsent)
    · intro notShut
      simpa using agreement.rapport.noRst notShut

theorem window_flushed {sink sunk : Sink} {taken : Nat}
    (flushed : Flushed link.conn.txBuf txBuf sink sunk (.ok taken) taken)
    (len : after.txBuf = txBuf) (fwdCnt : after.fwdCnt = link.conn.fwdCnt + saturateU32 taken)
    (reported : after.lastFwdCntToPeer = link.conn.lastFwdCntToPeer) :
    CreditLink.window { link with conn := after } = link.window.forward taken := by
  have bound := flushed.stored
  have limit := link.conn.txBuf.len_le
  have small : saturateU32 taken = BitVec.ofNat 32 taken := saturateU32_eq (by omega)
  simp only [window, forward, len, fwdCnt, reported, flushed.len_eq, small]

theorem Agreement.flushFailed (agreement : link.Agreement) (sameLen : txBuf.len = link.conn.txBuf.len) :
    Agreement { link with conn := { link.conn with txBuf := txBuf } } := by
  obtain ⟨sound, accounted, notified, rapport⟩ := agreement
  have sameWindow : CreditLink.window { link with conn := { link.conn with txBuf := txBuf } } =
    link.window := by simp only [CreditLink.window, sameLen]
  refine ⟨?_, ?_, ?_, ?_⟩
  · rw [sameWindow]
    exact sound
  · simp only [sameLen]
    exact accounted
  · rw [sameWindow]
    exact notified
  · refine rapport.keep rfl ⟨rfl, rfl, rfl⟩ ?_ rapport.noRst
    intro unsent
    simp only [sameLen]
    exact rapport.opening fun sent => unsent ⟨sent.noResponse, sent.noRequest⟩

theorem Rapport.notFinished (rapport : link.Rapport) (notShut : link.guest.phase ≠ .shut)
    (noRecv noSend : Bool) : link.conn.state ≠ .peerClosed noRecv noSend := by
  have fits := rapport.phase
  intro closed
  cases current : link.guest.phase with
  | shut => exact notShut current
  | connecting | listening | requested | transferring => simp [current, FitsPhase, closed] at fits

private theorem Agreement.flushDrained (agreement : link.Agreement) {sink sunk : Sink} {taken : Nat}
    {counted : VsockConnection}
    (flushed : Flushed link.conn.txBuf txBuf sink sunk (.ok taken) taken)
    (counts : counted = { link.conn with txBuf := txBuf, fwdCnt := link.conn.fwdCnt + saturateU32 taken }) :
    Agreement { link with conn := { counted with pendingRx := counted.dueAfterFlush } } := by
  obtain ⟨sound, accounted, notified, rapport⟩ := agreement
  have bound := flushed.stored
  have limit := link.conn.txBuf.len_le
  have small : saturateU32 taken = BitVec.ofNat 32 taken := saturateU32_eq (by omega)
  have buffer : counted.txBuf = txBuf := by rw [counts]
  have fwdCnt : counted.fwdCnt = link.conn.fwdCnt + saturateU32 taken := by rw [counts]
  have reported : counted.lastFwdCntToPeer = link.conn.lastFwdCntToPeer := by rw [counts]
  have indications : counted.pendingRx = link.conn.pendingRx := by rw [counts]
  have forwarded := sound.forward bound
  have moved : CreditLink.window
    { link with conn := { counted with pendingRx := counted.dueAfterFlush } } =
      link.window.forward taken := window_flushed flushed buffer fwdCnt reported
  have same : SameHandshake link.conn { counted with pendingRx := counted.dueAfterFlush } := by
    refine ⟨by rw [counts], ?_, ?_⟩
    · exact (counted.contains_dueAfterFlush (by decide) (by decide)).trans (by rw [indications])
    · exact (counted.contains_dueAfterFlush (by decide) (by decide)).trans (by rw [indications])
  refine ⟨?_, ?_, ?_, rapport.keep (by rw [counts]) same ?_ ?_⟩
  · rw [moved]
    exact forwarded
  · simp only [buffer, fwdCnt, flushed.len_eq, small, accounted]
    rw [BitVec.add_assoc, ← ofNat_add, Nat.add_sub_cancel' bound]
  · intro late
    rw [moved] at late
    have older := forwarded.reportedOlder
    have within := forwarded.reportedWithin
    change behind (link.conn.fwdCnt + BitVec.ofNat 32 taken) _ ≤
      behind (link.conn.fwdCnt + BitVec.ofNat 32 taken) link.conn.lastFwdCntToPeer at older
    change behind (link.conn.fwdCnt + BitVec.ofNat 32 taken) link.conn.lastFwdCntToPeer + _ ≤
      _ at within
    change 61440 < behind counted.fwdCnt _ at late
    rw [← small, ← fwdCnt, ← reported] at older within
    have stale : counted.peerNeedsCreditUpdate = true :=
      peerNeedsCreditUpdate_of_behind (by omega) (by omega)
    exact dueAfterFlush_of_peerNeedsCreditUpdate stale
  · intro unsent
    obtain ⟨empty, current⟩ := rapport.opening (same.handshakeSent_iff.not.mp unsent)
    have none : taken = 0 := by omega
    refine ⟨?_, ?_⟩
    · rw [buffer, flushed.len_eq, empty, Nat.zero_sub]
    · rw [reported, fwdCnt, small, none, current]
      simp
  · intro notShut
    have running : ¬ (counted.state = .peerClosed true true ∧ counted.txBuf.isEmpty = true) := by
      rintro ⟨closed, _⟩
      exact rapport.notFinished notShut true true (by rw [← closed, counts])
    have noRst := rapport.noRst notShut
    simp only [dueAfterFlush, if_neg running, indications]
    split <;> simp [noRst]

theorem Agreement.flushTxBuf (agreement : link.Agreement) (sink : Sink) :
    (link.step (.flushTxBuf sink)).Agreement := by
  have outcome := link.conn.flushTxBuf_flushed sink
  simp only [step]
  generalize link.conn.flushTxBuf sink = reply at outcome ⊢
  obtain ⟨after, sunk, result⟩ := reply
  cases outcome with
  | failed flushed => exact agreement.flushFailed (by simpa using flushed.len_eq)
  | drained flushed counted => exact agreement.flushDrained flushed counted

section
variable {link : CreditLink}
variable {pkt : VsockPacket}

theorem Rapport.emit (rapport : link.Rapport) (notResponse : pkt.op ≠ response.toU16)
    (notRequest : pkt.op ≠ request.toU16) : Rapport { link with toGuest := link.toGuest ++ [pkt] } where
  hostOpen := rapport.hostOpen
  alive := rapport.alive
  responder := rapport.responder
  single := rapport.single
  opening := rapport.opening
  announced := by
    intro other member isHandshake
    rcases List.mem_append.mp member with earlier | last
    · exact rapport.announced other earlier isHandshake
    · rw [List.mem_singleton.mp last] at isHandshake
      rcases isHandshake with isResponse | isRequest
      · exact absurd isResponse notResponse
      · exact absurd isRequest notRequest
  phase := rapport.phase
  noRst := rapport.noRst

variable {after : VsockConnection}

/-- Any packet that goes out carries the current `fwd_cnt`. The connection remembers it
as reported, unless the guest is shut or the counters have not moved. -/
theorem Agreement.emit (agreement : link.Agreement) (txBuf : after.txBuf = link.conn.txBuf)
    (fwdCnt : after.fwdCnt = link.conn.fwdCnt) (carried : pkt.fwdCnt = link.conn.fwdCnt)
    (reported : after.lastFwdCntToPeer = link.conn.fwdCnt ∨
    (after.lastFwdCntToPeer = link.conn.lastFwdCntToPeer ∧
    (link.guest.phase = .shut ∨ link.conn.lastFwdCntToPeer = link.conn.fwdCnt)))
    (rapport : Rapport { link with conn := after, toGuest := link.toGuest ++ [pkt] }) :
    Agreement { link with conn := after, toGuest := link.toGuest ++ [pkt] } := by
  have newest : newest
    (CreditLink.window { link with conn := after, toGuest := link.toGuest ++ [pkt] }) =
      link.conn.fwdCnt := by simp [CreditLink.window, newest, carried]
  refine ⟨?_, ?_, ?_, rapport⟩
  · rcases reported with remembered | ⟨unchanged, current⟩
    · have moved : CreditLink.window
        { link with conn := after, toGuest := link.toGuest ++ [pkt] } =
          link.window.report := by
            simp [CreditLink.window, report, announce, txBuf, fwdCnt, carried, remembered]
      rw [moved]
      exact agreement.window.report
    · have moved : CreditLink.window
        { link with conn := after, toGuest := link.toGuest ++ [pkt] } =
          link.window.announce := by simp [CreditLink.window, announce, txBuf, fwdCnt, carried, unchanged]
      rw [moved]
      refine agreement.window.announce ?_
      rcases current with shut | same
      · exact .inl (by simp [CreditLink.window, shut])
      · exact .inr same
  · simp only [txBuf, fwdCnt]
    exact agreement.accounted
  · rw [newest]
    simp only [fwdCnt, behind_self]
    omega

theorem Rapport.shut_of_rst (rapport : link.Rapport)
    (due : link.conn.pendingRx.contains .rst = true) : link.guest.phase = .shut := by
  by_contra notShut
  rw [rapport.noRst notShut] at due
  cases due

theorem Rapport.shut_of_state (rapport : link.Rapport) (receives : link.conn.state.takesHostData = false)
    (handshake : link.conn.state.inHandshake = false) : link.guest.phase = .shut := by
  cases current : link.conn.state with
  | localInit | peerInit => simp [current, inHandshake] at handshake
  | established => simp [current, takesHostData] at receives
  | localClosed => exact absurd current rapport.alive.1
  | killed => exact absurd current rapport.alive.2
  | peerClosed noRecv noSend =>
    by_contra notShut
    exact rapport.notFinished notShut noRecv noSend current

theorem Rapport.handshake (rapport : link.Rapport) (sent : after.HandshakeSent)
    (hostClosed : after.hostClosed = link.conn.hostClosed)
    (alive : after.state ≠ .localClosed ∧ after.state ≠ .killed) (phase : after.FitsPhase link.guest.phase)
    (noRst : after.pendingRx.contains .rst = link.conn.pendingRx.contains .rst) :
    Rapport { link with conn := after, toGuest := link.toGuest ++ [pkt] } where
  hostOpen := hostClosed.trans rapport.hostOpen
  alive := alive
  responder := by simp [sent.noResponse]
  single := fun _ => sent.noRequest
  opening := fun unsent => absurd sent unsent
  announced := fun _ _ _ => sent
  phase := phase
  noRst := fun notShut => noRst.trans (rapport.noRst notShut)

theorem Agreement.quiet (agreement : link.Agreement) (state : after.state = link.conn.state)
    (same : SameHandshake link.conn after) (txBuf : after.txBuf = link.conn.txBuf)
    (fwdCnt : after.fwdCnt = link.conn.fwdCnt)
    (reported : after.lastFwdCntToPeer = link.conn.lastFwdCntToPeer)
    (rst : after.pendingRx.contains .rst = link.conn.pendingRx.contains .rst)
    (owes : link.conn.OwesCredit → after.OwesCredit) : Agreement { link with conn := after } := by
  have sameWindow : CreditLink.window { link with conn := after } = link.window := by
    simp only [CreditLink.window, txBuf, fwdCnt, reported]
  refine ⟨?_, ?_, ?_, agreement.rapport.keep state same ?_ ?_⟩
  · rw [sameWindow]
    exact agreement.window
  · simp only [txBuf, fwdCnt]
    exact agreement.accounted
  · rw [sameWindow]
    simp only [fwdCnt]
    exact fun late => owes (agreement.notified late)
  · rw [txBuf, fwdCnt, reported, same.handshakeSent_iff]
    exact agreement.rapport.opening
  · intro notShut
    rw [rst]
    exact agreement.rapport.noRst notShut

end

section
variable {link : CreditLink} (agreement : link.Agreement)
include agreement
variable {pkt : VsockPacket}

/-- A packet outside the handshake goes out: the connection remembers its `fwd_cnt` as
reported, or the guest is shut. -/
theorem Agreement.emitOther {after : VsockConnection} (state : after.state = link.conn.state)
    (same : SameHandshake link.conn after) (txBuf : after.txBuf = link.conn.txBuf)
    (fwdCnt : after.fwdCnt = link.conn.fwdCnt) (carried : pkt.fwdCnt = link.conn.fwdCnt)
    (reported : after.lastFwdCntToPeer = link.conn.fwdCnt ∨
    (after.lastFwdCntToPeer = link.conn.lastFwdCntToPeer ∧ link.guest.phase = .shut))
    (rst : link.guest.phase ≠ .shut →
    after.pendingRx.contains .rst = link.conn.pendingRx.contains .rst)
    (notResponse : pkt.op ≠ response.toU16) (notRequest : pkt.op ≠ request.toU16) :
    Agreement { link with conn := after, toGuest := link.toGuest ++ [pkt] } := by
  have rapport := agreement.rapport
  have kept : Rapport { link with conn := after } := by
    refine rapport.keep state same ?_ fun notShut => (rst notShut).trans (rapport.noRst notShut)
    intro unsent
    obtain ⟨empty, current⟩ := rapport.opening (same.handshakeSent_iff.not.mp unsent)
    refine ⟨by rw [txBuf, empty], ?_⟩
    rcases reported with remembered | ⟨unchanged, _⟩
    · rw [remembered, fwdCnt]
    · rw [unchanged, fwdCnt, current]
  refine agreement.emit txBuf fwdCnt carried ?_ (kept.emit notResponse notRequest)
  rcases reported with remembered | ⟨unchanged, shut⟩
  · exact .inl remembered
  · exact .inr ⟨unchanged, .inl shut⟩

theorem Agreement.emitResponse (due : link.conn.pendingRx.contains .response = true)
    (carried : pkt.fwdCnt = link.conn.fwdCnt) : Agreement { link with
    conn := { link.conn with state := .established }.clear .response
    toGuest := link.toGuest ++ [pkt] } := by
  have rapport := agreement.rapport
  have unsent : ¬ link.conn.HandshakeSent := fun sent => by simp [sent.noResponse] at due
  have sent : ({ link.conn with state := .established }.clear .response).HandshakeSent :=
    ⟨by simp, by simpa using rapport.single due⟩
  refine agreement.emit rfl rfl carried (.inr ⟨rfl, .inr (rapport.opening unsent).2⟩)
    (rapport.handshake sent rfl (by simp) ?_ (by simp))
  have fits := rapport.phase
  have early := rapport.responder due
  cases current : link.guest.phase with
  | connecting => exact .inr ⟨rfl, sent⟩
  | listening | requested | transferring => simp [current, FitsPhase, early] at fits
  | shut => trivial

private theorem Agreement.emitRequest (noResponse : link.conn.pendingRx.contains .response = false)
    (due : link.conn.pendingRx.contains .request = true)
    {expiry : Option Nat} (carried : pkt.fwdCnt = link.conn.fwdCnt) : Agreement { link with
    conn := { link.conn with expiry := expiry }.clear .request
    toGuest := link.toGuest ++ [pkt] } := by
  have rapport := agreement.rapport
  have unsent : ¬ link.conn.HandshakeSent := fun sent => by simp [sent.noRequest] at due
  have sent : ({ link.conn with expiry := expiry }.clear .request).HandshakeSent :=
    ⟨by simpa using noResponse, by simp⟩
  refine agreement.emit rfl rfl carried (.inr ⟨rfl, .inr (rapport.opening unsent).2⟩)
    (rapport.handshake sent rfl rapport.alive ?_ (by simp))
  have fits := rapport.phase
  cases current : link.guest.phase with
  | connecting =>
    rw [current] at fits
    rcases fits with ⟨_, pending⟩ | ⟨_, alreadySent⟩
    · simp [noResponse] at pending
    · exact absurd alreadySent unsent
  | listening =>
    rw [current] at fits
    exact fits
  | requested | transferring =>
    rw [current] at fits
    exact absurd fits.2 unsent
  | shut => trivial

theorem Agreement.recvPkt (maxDataLen now : Nat) : (link.step (.recvPkt maxDataLen now)).Agreement := by
  have rapport := agreement.rapport
  have received := link.conn.recvPkt_received maxDataLen now
  simp only [step]
  generalize link.conn.recvPkt maxDataLen now = reply at received ⊢
  obtain ⟨after, result⟩ := reply
  cases received with
  | drained | headerOnly | deferred =>
    exact agreement.quiet rfl ⟨rfl, by simp, by simp⟩ rfl rfl rfl (by simp) (by simp [OwesCredit])
  | idle nothing =>
    exact agreement.quiet rfl ⟨rfl, by simp, by simp⟩ rfl rfl rfl (by simp) (by simp [OwesCredit, nothing])
  | shutdown turn receives credit drained closed =>
    rw [rapport.hostOpen] at closed
    cases closed
  | creditRequest | data | creditUpdate =>
    exact agreement.emitOther rfl ⟨rfl, by simp, by simp⟩ rfl rfl rfl (.inl rfl) (fun _ => by simp)
      (by simp) (by simp)
  | rst due =>
    have shut := rapport.shut_of_rst due
    exact agreement.emitOther rfl ⟨rfl, by simp, by simp⟩ rfl rfl rfl (.inr ⟨rfl, shut⟩)
      (fun notShut => absurd shut notShut) (by simp) (by simp)
  | refused turn receives handshake =>
    have shut := rapport.shut_of_state receives handshake
    exact agreement.emitOther rfl ⟨rfl, by simp, by simp⟩ rfl rfl rfl (.inr ⟨rfl, shut⟩)
      (fun notShut => absurd shut notShut) (by simp) (by simp)
  | response noRst due => exact agreement.emitResponse due rfl
  | request noRst noResponse due => exact agreement.emitRequest noResponse due rfl

end

theorem Rapport.congr (rapport : link.Rapport) (conn : other.conn = link.conn)
    (phase : other.guest.phase = link.guest.phase) (toGuest : other.toGuest = link.toGuest) :
    other.Rapport := by
  obtain ⟨hostOpen, alive, responder, single, opening, announced, fits, noRst⟩ := rapport
  refine ⟨?_, ?_, ?_, ?_, ?_, ?_, ?_, ?_⟩ <;> simp only [conn, phase, toGuest] <;> assumption

/-- The counters of the connection are the same, and credit stays owed. -/
structure SameCounters (conn after : VsockConnection) : Prop where
  txBuf : after.txBuf = conn.txBuf
  fwdCnt : after.fwdCnt = conn.fwdCnt
  reported : after.lastFwdCntToPeer = conn.lastFwdCntToPeer
  owes : conn.OwesCredit → after.OwesCredit

theorem Agreement.control (agreement : link.Agreement) (same : SameCounters link.conn other.conn)
    (sent : other.guest.sent = link.guest.sent) (seen : other.guest.seen = link.guest.seen)
    (toGuest : other.toGuest = link.toGuest) (accepted : other.accepted = link.accepted)
    (phase : other.guest.phase = .shut ∨ link.guest.phase ≠ .shut) (rapport : other.Rapport) :
    other.Agreement := by
  have newest : other.window.newest = link.window.newest := by
    simp [CreditLink.window, newest, seen, toGuest]
  have sound : other.window.Sound 65536 := by
    by_cases shut : other.guest.phase = .shut
    · have moved : other.window = link.window.close := by
        simp [CreditLink.window, close, sent, seen, toGuest, same.txBuf, same.fwdCnt, same.reported, shut]
      rw [moved]
      exact agreement.window.close
    · have stays : link.guest.phase ≠ .shut := phase.resolve_left shut
      have moved : other.window = link.window := by
        simp [CreditLink.window, sent, seen, toGuest, same.txBuf, same.fwdCnt, same.reported, shut, stays]
      rw [moved]
      exact agreement.window
  refine ⟨sound, ?_, ?_, rapport⟩
  · rw [accepted, same.fwdCnt, same.txBuf]
    exact agreement.accounted
  · rw [newest, same.fwdCnt]
    exact fun late => same.owes (agreement.notified late)

theorem Rapport.toShut (rapport : link.Rapport) (shut : other.guest.phase = .shut)
    (counters : SameCounters link.conn other.conn) (same : SameHandshake link.conn other.conn)
    (toGuest : other.toGuest = link.toGuest)
    (alive : other.conn.state ≠ .localClosed ∧ other.conn.state ≠ .killed)
    (responder : link.conn.pendingRx.contains .response = true → other.conn.state = .peerInit) :
    other.Rapport := by
  refine ⟨same.hostClosed.trans rapport.hostOpen, alive, ?_, ?_, ?_, ?_, ?_, ?_⟩
  · rw [same.response]
    exact responder
  · rw [same.response, same.request]
    exact rapport.single
  · rw [same.handshakeSent_iff, counters.txBuf, counters.fwdCnt, counters.reported]
    exact rapport.opening
  · rw [toGuest, same.handshakeSent_iff]
    exact rapport.announced
  · rw [shut]
    trivial
  · exact fun notShut => absurd shut notShut

theorem sameCounters_refreshPeer (conn : VsockConnection) (pkt : VsockPacket) :
    SameCounters conn (conn.refreshPeer pkt) := ⟨rfl, rfl, rfl, by simp [OwesCredit]⟩

theorem sameHandshake_refreshPeer (conn : VsockConnection) (pkt : VsockPacket) :
    SameHandshake conn (conn.refreshPeer pkt) := ⟨rfl, by simp, by simp⟩

theorem Agreement.idleControl (agreement : link.Agreement) {accepted : Nat}
    (state : after.state = link.conn.state) (counters : SameCounters link.conn after)
    (same : SameHandshake link.conn after)
    (rst : after.pendingRx.contains .rst = link.conn.pendingRx.contains .rst)
    (unchanged : accepted = link.accepted) :
    Agreement { link with conn := after, accepted := accepted } := by
  subst unchanged
  exact agreement.quiet state same counters.txBuf counters.fwdCnt counters.reported rst counters.owes

theorem Agreement.storesData (agreement : link.Agreement) {payload : List U8}
    (transferring : link.guest.phase = .transferring)
    (credit : link.guest.unacknowledged + payload.length ≤ 65536)
    (pushed : link.conn.txBuf.push payload = .ok txBuf) : Agreement { link with
    conn := { link.conn.refreshPeer pkt with txBuf := txBuf }.offerCredit
    guest := { link.guest with sent := link.guest.sent + BitVec.ofNat 32 payload.length }
    accepted := link.accepted + payload.length } := by
  obtain ⟨sound, accounted, notified, rapport⟩ := agreement
  have len := len_push pushed
  have fits := rapport.phase
  rw [transferring] at fits
  have notShut : link.guest.phase ≠ .shut := by
    rw [transferring]
    decide
  refine ⟨?_, ?_, ?_, ?_⟩
  · have accepted : (link.window.accept payload.length).Sound 65536 :=
      sound.accept (by simp [CreditLink.window, notShut]) credit
    simpa [CreditLink.window, accept, len] using accepted
  · change BitVec.ofNat 32 (link.accepted + payload.length) = link.conn.fwdCnt + BitVec.ofNat 32 txBuf.len
    rw [len, ofNat_add, accounted, ofNat_add, BitVec.add_assoc]
  · intro late
    rcases notified late with update | rst
    · exact .inl (by simp [update])
    · exact .inr (by simp [rst])
  · have kept : Rapport { link with
      conn := { link.conn.refreshPeer pkt with txBuf := txBuf }.offerCredit } := by
      refine rapport.keep rfl ⟨rfl, by simp, by simp⟩ ?_ fun _ => by simp [rapport.noRst notShut]
      intro unsent
      exact absurd ⟨by simp [fits.2.noResponse], by simp [fits.2.noRequest]⟩ unsent
    exact kept.congr rfl rfl rfl

theorem afterSend_of_ne {guest : Guest} (payload : List U8)
    (notData : fromU16 pkt.op = some .rw → payload = [])
    (notAnswer : fromU16 pkt.op = some .response → guest.phase ≠ .requested)
    (notShutdown : fromU16 pkt.op ≠ some .shutdown) : guest.afterSend pkt payload = guest := by
  unfold afterSend
  split
  · next isData => simp [notData isData]
  · next isResponse => simp [notAnswer isResponse]
  · next isShutdown => exact absurd isShutdown notShutdown
  · rfl

section
variable {link : CreditLink} (agreement : link.Agreement) {pkt : VsockPacket} {payload : List U8}
include agreement

theorem Agreement.dropsPacket (honest : link.guest.Honest pkt payload)
    (ignored : link.conn.Ignored pkt payload) : Agreement { link with
    conn := link.conn.refreshPeer pkt
    guest := link.guest.afterSend pkt payload } := by
  have rapport := agreement.rapport
  have fits := rapport.phase
  by_cases isShutdown : fromU16 pkt.op = some .shutdown
  · have shut : link.guest.afterSend pkt payload = { link.guest with phase := .shut } := by
      simp [afterSend, isShutdown]
    rw [shut]
    exact agreement.control (sameCounters_refreshPeer _ _) rfl rfl rfl rfl (.inl rfl)
      (rapport.toShut rfl (sameCounters_refreshPeer _ _) (sameHandshake_refreshPeer _ _) rfl
        rapport.alive rapport.responder)
  · have unchanged : link.guest.afterSend pkt payload = link.guest := by
      refine afterSend_of_ne payload ?_ ?_ isShutdown
      · intro isData
        have transferring := (honest.1 isData).1
        rw [transferring] at fits
        exact ignored.data (by rw [fits.1]; rfl) isData
      · intro isResponse requested
        rw [requested] at fits
        exact ignored.answer fits.1 isResponse
    rw [unchanged]
    exact agreement.idleControl rfl (sameCounters_refreshPeer _ _) (sameHandshake_refreshPeer _ _)
      (by simp) rfl

theorem Agreement.answers (honest : link.guest.Honest pkt payload) (waiting : link.conn.state = .localInit)
    (isResponse : fromU16 pkt.op = some .response) : Agreement { link with
    conn := { link.conn.refreshPeer pkt with expiry := none, state := .established }
    guest := link.guest.afterSend pkt payload } := by
  have rapport := agreement.rapport
  have fits := rapport.phase
  have counters :
    SameCounters link.conn { link.conn.refreshPeer pkt with expiry := none, state := .established } :=
    ⟨rfl, rfl, rfl, (sameCounters_refreshPeer _ _).owes⟩
  have handshake :
    SameHandshake link.conn { link.conn.refreshPeer pkt with expiry := none, state := .established } :=
    ⟨rfl, by simp, by simp⟩
  have noResponse : link.conn.pendingRx.contains .response ≠ true := by
    intro pending
    have starting := rapport.responder pending
    simp [waiting] at starting
  cases current : link.guest.phase with
  | connecting | transferring => simp [current, FitsPhase, waiting] at fits
  | listening => exact absurd current (honest.2 isResponse)
  | shut =>
    have stays : link.guest.afterSend pkt payload = link.guest := by
      refine afterSend_of_ne payload ?_ ?_ ?_ <;> simp [isResponse, current]
    rw [stays]
    exact agreement.control counters rfl rfl rfl rfl (.inl current)
      (rapport.toShut current counters handshake rfl (by simp) fun pending => absurd pending noResponse)
  | requested =>
    have moved : link.guest.afterSend pkt payload = { link.guest with phase := .transferring } := by
      simp [afterSend, isResponse, current]
    rw [current] at fits
    have sent := handshake.handshakeSent_iff.mpr fits.2
    have notShut : link.guest.phase ≠ .shut := by simp [current]
    rw [moved]
    refine agreement.control counters rfl rfl rfl rfl (.inr notShut)
      ⟨rapport.hostOpen, by simp, ?_, ?_, fun unsent => absurd sent unsent,
        fun _ _ _ => sent, ⟨rfl, sent⟩, fun _ => ?_⟩
    · intro pending
      exact absurd (handshake.response ▸ pending) noResponse
    · intro _
      exact sent.noRequest
    · simpa using rapport.noRst notShut

theorem Agreement.closes {after : VsockConnection} (isShutdown : fromU16 pkt.op = some .shutdown)
    (running : link.conn.state ≠ .peerInit) {noRecv noSend : Bool}
    (closed : after.state = .peerClosed noRecv noSend)
    (counters : SameCounters link.conn after) (same : SameHandshake link.conn after) : Agreement { link with
    conn := after
    guest := link.guest.afterSend pkt payload } := by
  have shut : link.guest.afterSend pkt payload = { link.guest with phase := .shut } := by
    simp [afterSend, isShutdown]
  rw [shut]
  refine agreement.control counters rfl rfl rfl rfl (.inl rfl)
    (agreement.rapport.toShut rfl counters same rfl (by simp [closed]) ?_)
  exact fun pending => absurd (agreement.rapport.responder pending) running

theorem Agreement.guestSends (honest : link.guest.Honest pkt payload) (now : Nat) :
    (link.conn.sendPkt pkt payload now).2 = .ok () ∧
    (link.step (.guestSends pkt payload now)).Agreement := by
  have outcome := link.conn.sendPkt_sent pkt payload now
  simp only [step, taken]
  generalize link.conn.sendPkt pkt payload now = reply at outcome ⊢
  obtain ⟨after, result⟩ := reply
  dsimp only at outcome ⊢
  cases outcome with
  | overflowed open_ isData full =>
    obtain ⟨transferring, credit⟩ := honest.1 isData
    have room := agreement.window.room credit
    have overrun := ((link.conn.txBuf.push_eq_error_iff payload _).mp full).1
    change link.conn.txBuf.len + payload.length ≤ 65536 at room
    omega
  | stored open_ isData pushed =>
    obtain ⟨transferring, credit⟩ := honest.1 isData
    refine ⟨rfl, ?_⟩
    have sent : link.guest.afterSend pkt payload =
      { link.guest with sent := link.guest.sent + BitVec.ofNat 32 payload.length } := by
      simp [afterSend, isData]
    rw [sent, if_pos ⟨open_, isData⟩]
    exact agreement.storesData transferring credit pushed
  | dropped ignored =>
    refine ⟨rfl, ?_⟩
    have nothing :
      (if link.conn.state.sendsData = true ∧ fromU16 pkt.op = some .rw then payload.length else 0) = 0 := by
      split
      · next data => simp [ignored.data data.1 data.2]
      · rfl
    rw [nothing]
    exact agreement.dropsPacket honest ignored
  | answered waiting isResponse =>
    refine ⟨rfl, ?_⟩
    rw [if_neg (by simp [isResponse])]
    exact agreement.answers honest waiting isResponse
  | closing established isShutdown =>
    refine ⟨rfl, ?_⟩
    rw [if_neg (by simp [isShutdown])]
    exact agreement.closes isShutdown (by simp [established]) rfl
      ⟨rfl, rfl, rfl, by simp [OwesCredit]; tauto⟩ ⟨rfl, by simp, by simp⟩
  | closingMore closed isShutdown =>
    refine ⟨rfl, ?_⟩
    rw [if_neg (by simp [isShutdown])]
    exact agreement.closes isShutdown (by simp [closed]) rfl
      ⟨rfl, rfl, rfl, by simp [OwesCredit]; tauto⟩ ⟨rfl, by simp, by simp⟩
  | creditAsked asks isRequest =>
    refine ⟨rfl, ?_⟩
    have same : link.guest.afterSend pkt payload = link.guest := by simp [afterSend, isRequest]
    rw [same, if_neg (by simp [isRequest])]
    exact agreement.idleControl rfl ⟨rfl, rfl, rfl, by simp [OwesCredit]⟩ ⟨rfl, by simp, by simp⟩
      (by simp) rfl

end

theorem Agreement.step (agreement : link.Agreement)
    {event : LinkEvent} (admits : link.Admits event) : (link.step event).Agreement := by
  cases event with
  | guestSends pkt payload now => exact (agreement.guestSends admits now).2
  | guestReceives => exact agreement.guestReceives
  | pushHostData data => exact agreement.pushHostData data
  | flushTxBuf sink => exact agreement.flushTxBuf sink
  | recvPkt maxDataLen now => exact agreement.recvPkt maxDataLen now

/-- The event is not an RW packet refused for want of space. -/
def NeverFull (link : CreditLink) : LinkEvent → Prop
  | .guestSends pkt payload now => (link.conn.sendPkt pkt payload now).2 ≠ .error .txBufFull
  | _ => True

/-- Bytes accepted are forwarded or buffered, modulo the width of the counter. -/
def Balanced (link : CreditLink) : Prop :=
  BitVec.ofNat 32 link.accepted = link.conn.fwdCnt + BitVec.ofNat 32 link.conn.txBuf.len

/-- A guest without credit, with nothing buffered for it, has a packet with a newer
`fwd_cnt` scheduled or on its way. -/
def CreditReturns (link : CreditLink) : Prop :=
  link.conn.txBuf.isEmpty = true → link.guest.unacknowledged = connTxBufSize.toNat →
    ((link.conn.pendingRx.contains .creditUpdate = true ∨
      link.conn.pendingRx.contains .rst = true) ∧
      link.conn.initPkt.fwdCnt ≠ link.guest.seen) ∨
    ∃ pkt ∈ link.toGuest, behind link.conn.fwdCnt pkt.fwdCnt < behind link.conn.fwdCnt link.guest.seen

private theorem Agreement.creditReturns (agreement : link.Agreement) : link.CreditReturns := by
  intro empty spent
  have drained : link.conn.txBuf.len = 0 := by simpa [isEmpty] using empty
  rcases agreement.window.exhausted drained spent with ⟨view, inFlight, newer⟩ | far
  · obtain ⟨pkt, member, rfl⟩ := List.mem_map.mp inFlight
    exact .inr ⟨pkt, member, newer⟩
  · change behind link.conn.fwdCnt link.window.newest = 65536 at far
    refine .inl ⟨agreement.notified (by omega), fun same => ?_⟩
    have bound : behind link.conn.fwdCnt link.window.newest ≤
      behind link.conn.fwdCnt link.guest.seen := agreement.window.newest_le_seen
    change link.conn.fwdCnt = link.guest.seen at same
    rw [← same, behind_self] at bound
    omega

/-- Over every interleaving with an honest guest, no data is refused, accepted bytes
are forwarded or buffered, and spent credit is always on its way back. -/
theorem creditAgreement {conn : VsockConnection} (fresh : conn.Fresh) {events : List LinkEvent}
    (honest : Along step Admits (start conn) events) :
    Along step NeverFull (start conn) events ∧ Throughout step Balanced (start conn) events ∧
    Throughout step CreditReturns (start conn) events := by
  have initial := agreement_start fresh
  refine ⟨?_, ?_, ?_⟩
  · refine along_of_invariant Agreement (fun _ _ agreement => agreement.step) ?_ initial honest
    intro link event agreement admits
    cases event with
    | guestSends pkt payload now => simp [NeverFull, (agreement.guestSends admits now).1]
    | guestReceives | pushHostData | flushTxBuf | recvPkt => trivial
  · exact throughout_of_invariant Agreement (fun _ _ agreement => agreement.step)
      (fun _ agreement => agreement.accounted) initial honest
  · exact throughout_of_invariant Agreement (fun _ _ agreement => agreement.step)
      (fun _ agreement => agreement.creditReturns) initial honest

/-- A guest that connects, sends three bytes and one more after they are forwarded. -/
theorem creditAgreement_four_bytes :
    let data : VsockPacket := {
      srcCid := 3, dstCid := 2, srcPort := 5000, dstPort := 1024, len := 3,
      pktType := vsockTypeStream, op := rw.toU16, flags := 0,
      bufAlloc := 4096, fwdCnt := 0 }
    let events :
      List LinkEvent :=
      [.recvPkt 64 0, .guestReceives, .guestSends data [1, 2, 3] 0, .flushTxBuf .vec,
      .guestSends data [4] 0]
    Along step NeverFull (start (.newPeerInit 2 3 1024 5000 4096)) events ∧
      Throughout step Balanced (start (.newPeerInit 2 3 1024 5000 4096)) events ∧
      Throughout step CreditReturns (start (.newPeerInit 2 3 1024 5000 4096)) events :=
  creditAgreement (.peerInit 2 3 1024 5000 4096) (by decide)

end CreditLink
end Visor.Vsock
