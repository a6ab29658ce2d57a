import Visor.Library.Run
import Visor.Vsock.ConnectionProperties

/-! A connection that still owes the guest data or a SHUTDOWN keeps its RW
indication, in every run whose data packets leave nothing behind. The data branch
of `recv_pkt` removes the indication and does not put it back, so a packet that
leaves bytes buffered, or that precedes a close, is where the law breaks. -/

namespace Visor.Vsock
open Library ConnState

/-- A connection as either side opens it. -/
inductive VsockConnection.Fresh : VsockConnection → Prop where
  | peerInit (localCid peerCid : U64) (localPort peerPort peerBufAlloc : U32) :
    Fresh (.newPeerInit localCid peerCid localPort peerPort peerBufAlloc)
  | localInit (localCid peerCid : U64) (localPort peerPort : U32) :
    Fresh (.newLocalInit localCid peerCid localPort peerPort)

namespace VsockConnection
variable (conn : VsockConnection)

/-- Host data or the host's close has yet to reach the guest. -/
def OwesGuest : Prop :=
  (conn.state.inHandshake = true ∨ conn.state.takesHostData = true) ∧
    (conn.rxBuf ≠ [] ∨ conn.hostClosed = true)
deriving Decidable

/-- What is owed to the guest is indicated. -/
def WorkIndicated : Prop := conn.OwesGuest → conn.hasPendingRx = true ∧ conn.pendingRx.contains .rw = true
deriving Decidable

/-- The call is not an RW packet that leaves data or a close behind. -/
def LeavesNoWork : ConnCall → Prop
  | .recvPkt maxDataLen _ => conn.DataDue maxDataLen →
    conn.rxBuf.length ≤ maxDataLen ∧ conn.rxBuf.length ≤ conn.peerAvailCredit.toNat ∧
      conn.hostClosed = false
  | _ => True

instance (conn : VsockConnection) (input : ConnCall) : Decidable (conn.LeavesNoWork input) := by
  cases input <;> (unfold LeavesNoWork; infer_instance)

/-- A RESPONSE is only ever owed in `PeerInit`, as long as nothing kills the
connection. -/
structure WorkInvariant (conn : VsockConnection) : Prop where
  indicated : conn.OwesGuest → conn.pendingRx.contains .rw = true
  handshake : conn.pendingRx.contains .response = true → conn.state = .peerInit

section
variable {conn : VsockConnection}

theorem WorkInvariant.workIndicated (holds : conn.WorkInvariant) : conn.WorkIndicated := by
  intro owes
  have present := holds.indicated owes
  exact ⟨conn.hasPendingRx_iff.mpr ⟨_, present⟩, present⟩

theorem Fresh.workInvariant (fresh : conn.Fresh) : conn.WorkInvariant := by
  cases fresh with
  | peerInit => exact ⟨by simp [OwesGuest, newPeerInit], fun _ => rfl⟩
  | localInit => exact ⟨by simp [OwesGuest, newLocalInit], by simp [newLocalInit]⟩

section
variable (holds : conn.WorkInvariant)
include holds

theorem WorkInvariant.sendPkt (pkt : VsockPacket) (payload : List U8) (now : Nat) :
    (conn.sendPkt pkt payload now).1.WorkInvariant := by
  obtain ⟨indicated, handshake⟩ := holds
  have sent := conn.sendPkt_sent pkt payload now
  generalize conn.sendPkt pkt payload now = outcome at sent ⊢
  obtain ⟨after, result⟩ := outcome
  cases sent with
  | dropped | overflowed | stored | creditAsked =>
    exact ⟨fun owes => by simp [indicated owes], by simpa using handshake⟩
  | answered waiting =>
    refine ⟨fun owes => ?_, fun present => ?_⟩
    · simp [indicated ⟨.inl (by rw [waiting]; rfl), owes.2⟩]
    · have impossible := handshake (by simpa using present)
      rw [waiting] at impossible
      cases impossible
  | closing established =>
    refine ⟨fun owes => ?_, fun present => ?_⟩
    · simp [indicated ⟨.inr (by rw [established]; rfl), owes.2⟩]
    · have impossible := handshake (by simpa using present)
      rw [established] at impossible
      cases impossible
  | @closingMore noRecv noSend closed isShutdown =>
    refine ⟨fun owes => ?_, fun present => ?_⟩
    · have receives : conn.state.takesHostData = true := by
        rw [closed]
        cases noRecv with
        | false => rfl
        | true => simpa [OwesGuest, inHandshake, takesHostData] using owes.1
      simp [indicated ⟨.inr receives, owes.2⟩]
    · have impossible := handshake (by simpa using present)
      rw [closed] at impossible
      cases impossible

theorem WorkInvariant.flushTxBuf (sink : Sink) : (conn.flushTxBuf sink).1.WorkInvariant := by
  obtain ⟨indicated, handshake⟩ := holds
  have flushed := conn.flushTxBuf_flushed sink
  generalize conn.flushTxBuf sink = outcome at flushed ⊢
  obtain ⟨after, sunk, result⟩ := outcome
  cases flushed with
  | failed => exact ⟨indicated, handshake⟩
  | drained flushed counted =>
    subst counted
    refine ⟨fun owes => ?_, fun present => ?_⟩
    · exact contains_dueAfterFlush_of_contains (indicated owes)
    · rw [contains_dueAfterFlush _ (by decide) (by decide)] at present
      exact handshake present

theorem WorkInvariant.recvPkt {maxDataLen now : Nat}
    (leaves : conn.LeavesNoWork (.recvPkt maxDataLen now)) :
    (conn.recvPkt maxDataLen now).1.WorkInvariant := by
  obtain ⟨indicated, handshake⟩ := holds
  have received := conn.recvPkt_received maxDataLen now
  generalize conn.recvPkt maxDataLen now = outcome at received ⊢
  obtain ⟨after, result⟩ := outcome
  cases received with
  | rst | request => exact ⟨fun owes => by simpa using indicated owes, by simpa using handshake⟩
  | response noRst due =>
    refine ⟨fun owes => ?_, by simp⟩
    simpa using indicated ⟨.inl (by rw [handshake due]; rfl), owes.2⟩
  | creditRequest | headerOnly | deferred => exact ⟨fun _ => by simp, by simpa using handshake⟩
  | shutdown turn =>
    refine ⟨fun owes => ?_, by simp [turn.noResponse]⟩
    simp [OwesGuest, inHandshake, takesHostData] at owes
  | drained turn receives credit drained isOpen =>
    refine ⟨fun owes => ?_, by simp [turn.noResponse]⟩
    simp [OwesGuest, drained, isOpen] at owes
  | data turn receives credit buffered room =>
    obtain ⟨fits, affordable, isOpen⟩ := leaves ⟨turn, receives, credit, buffered, room⟩
    have everything : conn.drainLen maxDataLen = conn.rxBuf.length := by
      simp only [drainLen]
      omega
    refine ⟨fun owes => ?_, by simp [turn.noResponse]⟩
    simp [OwesGuest, everything, isOpen] at owes
  | refused turn receives inHandshake =>
    refine ⟨fun owes => ?_, by simp [turn.noResponse]⟩
    simp [OwesGuest, receives, inHandshake] at owes
  | creditUpdate only =>
    refine ⟨fun owes => ?_, by simp [only]⟩
    have present := indicated owes
    simp [only] at present
  | idle nothing =>
    refine ⟨fun owes => ?_, by simp [nothing]⟩
    have present := indicated owes
    simp [nothing] at present

theorem WorkInvariant.call {input : ConnCall} (alive : input ≠ .kill)
    (leaves : conn.LeavesNoWork input) : (conn.call input).WorkInvariant := by
  cases input with
  | kill => exact absurd rfl alive
  | sendPkt pkt payload now => exact holds.sendPkt pkt payload now
  | pushHostData | notifyHostClosed =>
    exact ⟨fun _ => by simp [VsockConnection.call], by simpa [VsockConnection.call] using holds.handshake⟩
  | flushTxBuf sink => exact holds.flushTxBuf sink
  | recvPkt => exact holds.recvPkt leaves

end

theorem leavesNoWork_of_workIndicated {input : ConnCall}
    (indicated : (conn.call input).WorkIndicated) : conn.LeavesNoWork input := by
  cases input with
  | recvPkt maxDataLen =>
    intro due
    have receives := due.receives
    rw [VsockConnection.call, recvPkt_of_dataDue due] at indicated
    by_contra behind
    have owes : conn.rxBuf.drop (conn.drainLen maxDataLen) ≠ [] ∨ conn.hostClosed = true := by
      simp only [ne_eq, List.drop_eq_nil_iff, drainLen]
      cases closed : conn.hostClosed with
      | true => exact .inr rfl
      | false => refine .inl fun everything => behind ⟨by omega, by omega, closed⟩
    have present := (indicated ⟨.inr (by simpa using receives), by simpa using owes⟩).2
    simp at present
  | kill | sendPkt | pushHostData | notifyHostClosed | flushTxBuf => trivial

end

/-- In every run without `kill`, what is owed to the guest stays indicated exactly
when no RW packet leaves data or a close behind. -/
theorem workIndicated_throughout_iff {conn : VsockConnection} (fresh : conn.Fresh)
    {calls : List ConnCall} (alive : ∀ input ∈ calls, input ≠ .kill) :
    Throughout VsockConnection.call WorkIndicated conn calls ↔
    Along VsockConnection.call LeavesNoWork conn calls :=
  throughout_iff_along WorkInvariant (fun _ _ holds alive leaves => holds.call alive leaves)
    (fun _ holds => holds.workIndicated)
    (fun _ _ _ indicated => leavesNoWork_of_workIndicated indicated)
    fresh.workInvariant (along_of_forall alive)

/-- A guest buffer with room for both bytes takes them in one packet. -/
theorem workIndicated_when_drained :
    Throughout VsockConnection.call WorkIndicated (.newPeerInit 2 3 1024 5000 4096)
    [.recvPkt 64 0, .pushHostData [7, 8], .recvPkt 2 0] :=
  (workIndicated_throughout_iff (.peerInit 2 3 1024 5000 4096) (by simp)).mpr (by decide)

/-- A guest buffer with room for one byte takes the first of two, and the other is
left without an indication. -/
theorem work_forgotten_after_partial_drain :
    (∀ input ∈ ([.recvPkt 64 0, .pushHostData [7, 8], .recvPkt 1 0] : List ConnCall), input ≠ .kill) ∧
    let conn := run VsockConnection.call (.newPeerInit 2 3 1024 5000 4096)
      [.recvPkt 64 0, .pushHostData [7, 8], .recvPkt 1 0]
    conn.state = .established ∧ conn.rxBuf = [8] ∧ conn.hasPendingRx = false := by
  refine ⟨by simp, ?_⟩
  decide

end VsockConnection

/-! Credit towards the guest. The available credit is a wrapping difference, so it
is meaningful only while the outstanding bytes fit in the advertised buffer; an RW
packet is safe exactly then. -/

open VsockConnection
namespace VsockConnection
/-- An RW packet leaves the outstanding bytes within the advertised buffer, and none
is sent when they already exceed it. -/
def CreditSafe (conn : VsockConnection) (input : ConnCall) : Prop :=
  conn.Emits .rw input →
    (conn.call input).outstanding ≤ (conn.call input).peerBufAlloc ∧
      ¬ conn.peerBufAlloc < conn.outstanding

/-- A data packet is due only while the outstanding bytes fit. -/
def WindowRespected (conn : VsockConnection) : ConnCall → Prop
  | .recvPkt maxDataLen _ => conn.DataDue maxDataLen → conn.outstanding ≤ conn.peerBufAlloc
  | _ => True

variable (conn : VsockConnection)

theorem drainLen_le (maxDataLen : Nat) : conn.drainLen maxDataLen ≤ conn.peerAvailCredit.toNat ∧
    conn.drainLen maxDataLen ≤ conn.rxBuf.length := by
  simp only [drainLen]
  omega

/-- Within the window the credit is the true difference, so a packet of that many
bytes at most stays within the window. -/
theorem outstanding_within {alloc rxCnt peerFwd : U32} {count : Nat}
    (fits : rxCnt - peerFwd ≤ alloc) (affordable : count ≤ (alloc - (rxCnt - peerFwd)).toNat) :
    rxCnt + saturateU32 count - peerFwd ≤ alloc := by
  have exact_ := toNat_saturateU32 count (by omega)
  bv_omega

theorem creditSafe_iff_windowRespected (input : ConnCall) :
    conn.CreditSafe input ↔ conn.WindowRespected input := by
  cases input with
  | recvPkt maxDataLen =>
    simp only [CreditSafe, WindowRespected, emits_rw_iff, BitVec.not_lt]
    refine forall_congr' fun due => ⟨fun safe => safe.2, fun fits => ⟨?_, fits⟩⟩
    simp only [call, recvPkt_of_dataDue due, outstanding, clear_peerFwdCnt, clear_peerBufAlloc]
    apply outstanding_within fits
    have bound := (conn.drainLen_le maxDataLen).1
    simp only [List.length_take]
    exact Nat.le_trans (Nat.min_le_left _ _) bound
  | kill | sendPkt | pushHostData | notifyHostClosed | flushTxBuf =>
    simp [CreditSafe, WindowRespected, Emits, produced]

/-- `(buf_alloc, fwd_cnt)` of the header received last, or the initial pair. -/
def advertised (start : U32 × U32) (calls : List ConnCall) : U32 × U32 :=
  calls.foldl (fun window input =>
    match input with
    | .sendPkt pkt _ _ => (pkt.bufAlloc, pkt.fwdCnt)
    | _ => window) start

private theorem peerWindow_call (input : ConnCall) :
    ((conn.call input).peerBufAlloc, (conn.call input).peerFwdCnt) =
    advertised (conn.peerBufAlloc, conn.peerFwdCnt) [input] := by
  cases input with
  | kill | pushHostData | notifyHostClosed => rfl
  | sendPkt pkt payload now =>
    have sent := conn.sendPkt_sent pkt payload now
    simp only [call]
    generalize conn.sendPkt pkt payload now = outcome at sent ⊢
    obtain ⟨after, result⟩ := outcome
    cases sent <;> rfl
  | flushTxBuf sink =>
    have flushed := conn.flushTxBuf_flushed sink
    simp only [call]
    generalize conn.flushTxBuf sink = outcome at flushed ⊢
    obtain ⟨after, sunk, result⟩ := outcome
    cases flushed with
    | failed => rfl
    | drained flushed counted =>
      subst counted
      rfl
  | recvPkt maxDataLen now =>
    have received := conn.recvPkt_received maxDataLen now
    simp only [call]
    generalize conn.recvPkt maxDataLen now = outcome at received ⊢
    obtain ⟨after, result⟩ := outcome
    cases received <;> rfl

theorem peerWindow_run (calls : List ConnCall) : ((run call conn calls).peerBufAlloc,
    (run call conn calls).peerFwdCnt) = advertised (conn.peerBufAlloc, conn.peerFwdCnt) calls := by
  induction calls generalizing conn with
  | nil => rfl
  | cons input rest ih =>
    rw [run_cons, ih, peerWindow_call]
    rfl

/-- In every run, every RW packet respects the guest's advertised buffer exactly
when data is only ever due while the outstanding bytes fit in it. -/
theorem creditSafe_along_iff (conn : VsockConnection) (calls : List ConnCall) :
    ((run call conn calls).peerBufAlloc, (run call conn calls).peerFwdCnt) =
    advertised (conn.peerBufAlloc, conn.peerFwdCnt) calls ∧
    (Along call CreditSafe conn calls ↔ Along call WindowRespected conn calls) := by
  refine ⟨conn.peerWindow_run calls, ?_, ?_⟩
  · exact Along.mono fun state input => (state.creditSafe_iff_windowRespected input).mp
  · exact Along.mono fun state input => (state.creditSafe_iff_windowRespected input).mpr

/-- The guest shrinks its buffer from four bytes to two with four outstanding, and
two more bytes are sent. -/
theorem credit_overrun_after_shrink : let header : VsockPacket := {
    srcCid := 3, dstCid := 2, srcPort := 5000, dstPort := 1024, len := 0,
    pktType := vsockTypeStream, op := VsockOp.creditUpdate.toU16, flags := 0,
    bufAlloc := 2, fwdCnt := 0 }
    let conn := run call (.newPeerInit 2 3 1024 5000 4)
      [.recvPkt 64 0, .pushHostData [1, 2, 3, 4, 5, 6], .recvPkt 64 0, .sendPkt header [] 0]
    conn.outstanding = 4 ∧ conn.peerBufAlloc = 2 ∧
      (conn.produced (.recvPkt 64 0)).map (fun packet => (packet.1.op, packet.1.len, packet.2)) =
        some (VsockOp.rw.toU16, 2, [5, 6]) ∧
      (conn.call (.recvPkt 64 0)).outstanding = 6 := by decide

end VsockConnection
end Visor.Vsock
