import Visor.Vsock.PendingWork

/-! Life cycle of a connection over every sequence of calls. The state and the set
of indications move independently; `Moves` lists the state changes and
`response_kept_iff` says what becomes of an owed RESPONSE, the one indication whose
delivery sets the state. -/

namespace Visor.Vsock
open Library VsockOp ConnState

/-- The guest answers with RESPONSE. -/
def ConnCall.IsGuestResponse : ConnCall → Prop
  | .sendPkt pkt _ _ => fromU16 pkt.op = some .response
  | _ => False

namespace VsockConnection
inductive Moves (conn : VsockConnection) : ConnCall → ConnState → Prop where
  | stays {input : ConnCall} : Moves conn input conn.state
  | killed : Moves conn .kill .killed
  | answered {pkt : VsockPacket} {payload : List U8} {now : Nat} (waiting : conn.state = .localInit)
    (isResponse : fromU16 pkt.op = some .response) : Moves conn (.sendPkt pkt payload now) .established
  | closing {pkt : VsockPacket} {payload : List U8} {now : Nat} (established : conn.state = .established)
    (isShutdown : fromU16 pkt.op = some .shutdown) : Moves conn (.sendPkt pkt payload now)
      (.peerClosed (shutsRcv pkt.flags) (shutsSend pkt.flags))
  | closingMore {pkt : VsockPacket} {payload : List U8} {now : Nat} {noRecv noSend : Bool}
    (closed : conn.state = .peerClosed noRecv noSend)
    (isShutdown : fromU16 pkt.op = some .shutdown) : Moves conn (.sendPkt pkt payload now)
      (.peerClosed (noRecv || shutsRcv pkt.flags) (noSend || shutsSend pkt.flags))
  | responded {maxDataLen now : Nat} (noRst : conn.pendingRx.contains .rst = false)
    (due : conn.pendingRx.contains .response = true) :
    Moves conn (.recvPkt maxDataLen now) .established
  | shutdown {maxDataLen now : Nat} (turn : conn.DataTurn) (receives : conn.state.takesHostData = true) :
    Moves conn (.recvPkt maxDataLen now) .localClosed

theorem call_moves (conn : VsockConnection) (input : ConnCall) :
    Moves conn input (conn.call input).state := by
  have called := conn.call_called input
  generalize conn.call input = after at called ⊢
  cases called with
  | kill => exact .killed
  | pushHostData | notifyHostClosed => exact .stays
  | sendPkt sent =>
    cases sent with
    | dropped | overflowed | stored | creditAsked => exact .stays
    | answered waiting isResponse => exact .answered waiting isResponse
    | closing established isShutdown => exact .closing established isShutdown
    | closingMore closed isShutdown => exact .closingMore closed isShutdown
  | flushTxBuf flushed =>
    cases flushed with
    | failed => exact .stays
    | drained flushed counted =>
      subst counted
      exact .stays
  | recvPkt received =>
    cases received with
    | response noRst due => exact .responded noRst due
    | shutdown turn receives => exact .shutdown turn receives
    | rst | request | creditRequest | drained | headerOnly | data | deferred | refused
    | creditUpdate | idle => exact .stays

variable {input : ConnCall} {conn : VsockConnection}

theorem contains_call {it : PendingRx} (notRecv : ∀ maxDataLen now, input ≠ .recvPkt maxDataLen now)
    (present : conn.pendingRx.contains it = true) : (conn.call input).pendingRx.contains it = true := by
  have called := conn.call_called input
  generalize conn.call input = after at called ⊢
  cases called with
  | recvPkt => exact absurd rfl (notRecv _ _)
  | kill | pushHostData | notifyHostClosed => simp [present]
  | sendPkt sent => cases sent <;> simp [present]
  | flushTxBuf flushed =>
    cases flushed with
    | failed => exact present
    | drained flushed counted =>
      subst counted
      exact contains_dueAfterFlush_of_contains present

theorem contains_response_of_call (present : (conn.call input).pendingRx.contains .response = true)
    : conn.pendingRx.contains .response = true := by
  have called := conn.call_called input
  generalize conn.call input = after at called present
  cases called with
  | kill | pushHostData | notifyHostClosed => simpa using present
  | sendPkt sent => cases sent <;> simpa using present
  | flushTxBuf flushed =>
    cases flushed with
    | failed => exact present
    | drained flushed counted =>
      subst counted
      rwa [contains_dueAfterFlush _ (by decide) (by decide)] at present
  | recvPkt received =>
    cases received with
    | response => simp at present
    | rst | request | creditRequest | shutdown | drained | headerOnly | data | deferred
    | refused | creditUpdate | idle => simpa using present

theorem noResponse_call (noResponse : conn.pendingRx.contains .response = false) (input : ConnCall)
    : (conn.call input).pendingRx.contains .response = false := by
  cases present : (conn.call input).pendingRx.contains .response with
  | false => rfl
  | true =>
    rw [contains_response_of_call present] at noResponse
    cases noResponse

theorem contains_response_call (owed : conn.pendingRx.contains .response = true)
    (kept : ¬ conn.Emits .response input) : (conn.call input).pendingRx.contains .response = true := by
  cases input with
  | kill | sendPkt | pushHostData | notifyHostClosed | flushTxBuf => exact contains_call (by simp) owed
  | recvPkt =>
    by_cases rst : conn.pendingRx.contains .rst = true
    · simp [call, recvPkt, rst, owed]
    · refine absurd ?_ kept
      simp only [Emits, produced, recvPkt, rst, owed, Bool.false_eq_true, ↓reduceIte]
      exact ⟨_, _, rfl, rfl⟩

structure Dead (conn : VsockConnection) : Prop where
  killed : conn.state = .killed
  noResponse : conn.pendingRx.contains .response = false

/-- Only a RESPONSE could take a killed connection back, and an RST goes before it. -/
theorem killed_call (killed : conn.state = .killed) (input : ConnCall)
    (silent : conn.pendingRx.contains .rst = false → conn.pendingRx.contains .response = false) :
    (conn.call input).state = .killed := by
  have moves := conn.call_moves input
  generalize (conn.call input).state = after at moves ⊢
  cases moves with
  | stays => exact killed
  | killed => rfl
  | answered waiting => simp [killed] at waiting
  | closing established => simp [killed] at established
  | closingMore closed => simp [killed] at closed
  | responded noRst due => simp [silent noRst] at due
  | shutdown turn receives => simp [killed, takesHostData] at receives

theorem Dead.call (dead : conn.Dead) (input : ConnCall) : (conn.call input).Dead :=
  ⟨killed_call dead.killed input fun _ => dead.noResponse, noResponse_call dead.noResponse input⟩

theorem Dead.run (dead : conn.Dead) (later : List ConnCall) : (run VsockConnection.call conn later).Dead :=
  stable_run Dead later (fun _ input dead => dead.call input) dead

theorem Dead.emits (dead : conn.Dead) {op : VsockOp} (emits : conn.Emits op input) :
    op = .rst ∨ op = .request ∨ op = .creditUpdate := by
  obtain ⟨killed, noResponse⟩ := dead
  obtain ⟨maxDataLen, now, _, due⟩ := emits.due
  cases due with
  | rst | refused => exact .inl rfl
  | response noRst due => simp [noResponse] at due
  | request => exact .inr (.inl rfl)
  | creditRequest turn receives | shutdown turn receives => simp [killed, takesHostData] at receives
  | data due =>
    have receives := due.receives
    simp [killed, takesHostData] at receives
  | creditUpdate => exact .inr (.inr rfl)

/-- A killed connection with nothing but RST and RW indicated. -/
structure Silenced (conn : VsockConnection) : Prop where
  killed : conn.state = .killed
  nothing : ∀ it, it ≠ .rst → it ≠ .rw → conn.pendingRx.contains it = false

section
variable {conn : VsockConnection} (silenced : conn.Silenced)
include silenced

theorem Silenced.dead : conn.Dead := ⟨silenced.killed, silenced.nothing .response (by decide) (by decide)⟩

theorem Silenced.call {input : ConnCall} (noFlush : ∀ sink, input ≠ .flushTxBuf sink) :
    (conn.call input).Silenced := by
  refine ⟨(silenced.dead.call input).killed, ?_⟩
  obtain ⟨killed, nothing⟩ := silenced
  intro it notRst notRw
  have absent := nothing it notRst notRw
  have called := conn.call_called input
  generalize conn.call input = after at called ⊢
  cases called with
  | kill => simp [absent, notRst.symm]
  | pushHostData | notifyHostClosed => simp [absent, notRw.symm]
  | flushTxBuf => exact absurd rfl (noFlush _)
  | sendPkt sent =>
    cases sent with
    | dropped | overflowed | answered => simp [absent, notRw.symm]
    | stored open_ => simp [killed, sendsData] at open_
    | closing established => simp [killed] at established
    | closingMore closed => simp [killed] at closed
    | creditAsked asks => simp [killed, sendsData] at asks
  | recvPkt received =>
    cases received with
    | creditRequest | headerOnly | deferred => simp [absent, notRw.symm]
    | rst | response | request | shutdown | drained | data | refused | creditUpdate
    | idle => simp [absent]

theorem Silenced.emits {op : VsockOp} {input : ConnCall} (emits : conn.Emits op input) : op = .rst := by
  rcases silenced.dead.emits emits with rfl | rfl | rfl
  · rfl
  · obtain ⟨_, _, _, due⟩ := emits.due
    cases due with
    | request noRst noResponse due => simp [silenced.nothing .request (by decide) (by decide)] at due
  · obtain ⟨_, _, _, due⟩ := emits.due
    cases due with
    | creditUpdate only =>
      have present := only .creditUpdate
      simp [silenced.nothing .creditUpdate (by decide) (by decide)] at present

end

/-- A killed connection with its RST still to be sent. -/
structure Condemned (conn : VsockConnection) : Prop where
  killed : conn.state = .killed
  due : conn.pendingRx.contains .rst = true

theorem condemned_kill (conn : VsockConnection) : conn.kill.Condemned := ⟨rfl, by simp⟩

theorem Condemned.call (condemned : conn.Condemned)
    (notRecv : ∀ maxDataLen now, input ≠ .recvPkt maxDataLen now) : (conn.call input).Condemned := by
  refine ⟨killed_call condemned.killed input fun noRst => ?_, contains_call notRecv condemned.due⟩
  rw [condemned.due] at noRst
  cases noRst

/-- A RESPONSE is only ever owed before the handshake is over. -/
def OwedInHandshake (conn : VsockConnection) : Prop :=
  conn.pendingRx.contains .response = true → conn.state = .peerInit ∨ conn.state = .killed

theorem Fresh.owedInHandshake (fresh : conn.Fresh) : conn.OwedInHandshake := by
  cases fresh with
  | peerInit => exact fun _ => .inl rfl
  | localInit => simp [OwedInHandshake, newLocalInit]

theorem OwedInHandshake.call (holds : conn.OwedInHandshake) (input : ConnCall) :
    (conn.call input).OwedInHandshake := by
  intro present
  have early := holds (contains_response_of_call present)
  have moves := conn.call_moves input
  generalize after : (conn.call input).state = state at moves ⊢
  cases moves with
  | stays => exact early
  | killed => exact .inr rfl
  | answered waiting => simp [waiting] at early
  | closing established => simp [established] at early
  | closingMore closed => simp [closed] at early
  | responded noRst due => simp [VsockConnection.call, recvPkt, noRst, due] at present
  | shutdown turn =>
    have owed := contains_response_of_call present
    simp [turn.noResponse] at owed

theorem not_emits_rw_of_response (owed : conn.pendingRx.contains .response = true)
    (input : ConnCall) : ¬ conn.Emits .rw input := by
  intro emits
  obtain ⟨_, _, _, due⟩ := emits.due
  cases due with
  | data due => simp [due.turn.noResponse] at owed

theorem not_emits_rw_of_state (shut : conn.state.takesHostData = false) (input : ConnCall) :
    ¬ conn.Emits .rw input := by
  intro emits
  obtain ⟨_, _, _, due⟩ := emits.due
  cases due with
  | data due => simp [due.receives] at shut

structure Unanswered (conn : VsockConnection) : Prop where
  waiting : conn.state = .localInit ∨ conn.state = .killed
  noResponse : conn.pendingRx.contains .response = false

theorem Unanswered.call (unanswered : conn.Unanswered) (silent : ¬ input.IsGuestResponse) :
    (conn.call input).Unanswered := by
  obtain ⟨waiting, noResponse⟩ := unanswered
  refine ⟨?_, noResponse_call noResponse input⟩
  have moves := conn.call_moves input
  generalize (conn.call input).state = after at moves ⊢
  cases moves with
  | stays => exact waiting
  | killed => exact .inr rfl
  | answered _ isResponse => exact absurd isResponse silent
  | closing established => simp [established] at waiting
  | closingMore closed => simp [closed] at waiting
  | responded noRst due => simp [noResponse] at due
  | shutdown turn receives =>
    rcases waiting with waiting | waiting <;>
      simp [waiting, takesHostData] at receives

structure PeerShut (conn : VsockConnection) : Prop where
  shut : (∃ noSend, conn.state = .peerClosed true noSend) ∨ conn.state = .killed
  noResponse : conn.pendingRx.contains .response = false

theorem PeerShut.takesHostData (shut : conn.PeerShut) : conn.state.takesHostData = false := by
  rcases shut.shut with ⟨noSend, closed⟩ | killed
  · rw [closed]
    rfl
  · rw [killed]
    rfl

theorem PeerShut.call (peerShut : conn.PeerShut) (input : ConnCall) : (conn.call input).PeerShut := by
  have takesNone := peerShut.takesHostData
  obtain ⟨shut, noResponse⟩ := peerShut
  refine ⟨?_, noResponse_call noResponse input⟩
  have moves := conn.call_moves input
  generalize (conn.call input).state = after at moves ⊢
  cases moves with
  | stays => exact shut
  | killed => exact .inr rfl
  | answered waiting => simp [waiting] at shut
  | closing established => simp [established] at shut
  | closingMore closed =>
    rcases shut with ⟨noSend, same⟩ | killed
    · rw [closed] at same
      cases same
      exact .inl ⟨_, rfl⟩
    · rw [closed] at killed
      cases killed
  | responded noRst due => simp [noResponse] at due
  | shutdown turn receives => simp [takesNone] at receives

private theorem peerShut_sendPkt (owed : conn.OwedInHandshake)
    (valid : conn.state = .established ∨ ∃ noRecv noSend, conn.state = .peerClosed noRecv noSend)
    {pkt : VsockPacket} (isShutdown : fromU16 pkt.op = some .shutdown)
    (rcv : shutsRcv pkt.flags = true) (payload : List U8) (now : Nat) :
    (conn.call (.sendPkt pkt payload now)).PeerShut := by
  have noResponse : conn.pendingRx.contains .response = false := by
    cases present : conn.pendingRx.contains .response with
    | false => rfl
    | true =>
      rcases owed present with early | early <;> rcases valid with valid | ⟨_, _, valid⟩ <;>
        simp [valid] at early
  refine ⟨.inl ?_, noResponse_call noResponse _⟩
  rcases valid with established | ⟨noRecv, noSend, closed⟩
  · refine ⟨shutsSend pkt.flags, ?_⟩
    simp [call, sendPkt, established, isShutdown, rcv]
  · refine ⟨noSend || shutsSend pkt.flags, ?_⟩
    simp [call, sendPkt, closed, isShutdown, rcv]

/-- The life cycle of a connection, over every sequence of calls before and after the
event each clause is about: `kill`, the end of the handshake, SHUTDOWN. -/
theorem lifeCycle {conn : VsockConnection} (fresh : conn.Fresh) (calls : List ConnCall) :
    let current := run VsockConnection.call conn calls
    (∀ later, (∀ input ∈ later, ∀ maxDataLen now, input ≠ .recvPkt maxDataLen now) →
      (run VsockConnection.call current.kill later).state = .killed ∧
        ∀ maxDataLen now, (run VsockConnection.call current.kill later).Emits .rst
          (.recvPkt maxDataLen now)) ∧
    (current.pendingRx.contains .response = false →
      ∀ later, (run VsockConnection.call current.kill later).state = .killed ∧
      ∀ op input, (run VsockConnection.call current.kill later).Emits op input →
        op = .rst ∨ op = .request ∨ op = .creditUpdate) ∧
    ((∀ it, it ≠ .rst → it ≠ .rw → current.pendingRx.contains it = false) →
      ∀ later, (∀ input ∈ later, ∀ sink, input ≠ .flushTxBuf sink) →
      ∀ op input, (run VsockConnection.call current.kill later).Emits op input →
        op = .rst) ∧
    (conn.state = .peerInit →
      Along VsockConnection.call (fun state input => ¬ state.Emits .response input) conn calls →
        ∀ input, ¬ current.Emits .rw input) ∧
    (conn.state = .localInit → (∀ input ∈ calls, ¬ input.IsGuestResponse) →
      ∀ input, ¬ current.Emits .rw input) ∧
    ((current.state = .established ∨
      ∃ noRecv noSend, current.state = .peerClosed noRecv noSend) →
      ∀ pkt payload now, fromU16 pkt.op = some .shutdown →
        shutsRcv pkt.flags = true → shutsSend pkt.flags = true →
          ∀ later input,
            ¬ (run VsockConnection.call (current.call (.sendPkt pkt payload now)) later).Emits
            .rw input) := by
  intro current
  refine ⟨?_, ?_, ?_, ?_, ?_, ?_⟩
  · intro later quiet
    have condemned : (run VsockConnection.call current.kill later).Condemned :=
      invariant_run Condemned (fun _ _ condemned notRecv => condemned.call notRecv)
        current.condemned_kill (along_of_forall quiet)
    exact ⟨condemned.killed, emits_rst condemned.due⟩
  · intro noResponse later
    have dead : (run VsockConnection.call current.kill later).Dead :=
      Dead.run ⟨rfl, by simpa using noResponse⟩ later
    exact ⟨dead.killed, fun op input emits => dead.emits emits⟩
  · intro nothing later noFlush op input emits
    have initial : current.kill.Silenced := by
      refine ⟨rfl, fun it notRst notRw => ?_⟩
      simp [nothing it notRst notRw, notRst.symm]
    have silenced : (run VsockConnection.call current.kill later).Silenced :=
      invariant_run Silenced (fun _ _ silenced noFlush => silenced.call noFlush) initial
        (along_of_forall noFlush)
    exact silenced.emits emits
  · intro starts unsent
    have initial : conn.pendingRx.contains .response = true := by
      cases fresh with
      | peerInit => simp [newPeerInit]
      | localInit => cases starts
    have owed : current.pendingRx.contains .response = true :=
      invariant_run (fun state => state.pendingRx.contains .response = true)
        (fun _ _ owed unsent => contains_response_call owed unsent) initial unsent
    exact not_emits_rw_of_response owed
  · intro starts silent
    have initial : conn.Unanswered := by
      cases fresh with
      | peerInit => cases starts
      | localInit => exact ⟨.inl rfl, by simp [newLocalInit]⟩
    have unanswered : current.Unanswered :=
      invariant_run Unanswered (fun _ _ unanswered silent => unanswered.call silent) initial
        (along_of_forall silent)
    apply not_emits_rw_of_state
    rcases unanswered.waiting with waiting | waiting <;> rw [waiting] <;> rfl
  · intro valid pkt payload now isShutdown rcv send later input
    have owed : current.OwedInHandshake :=
      stable_run OwedInHandshake calls (fun _ input owed => owed.call input) fresh.owedInHandshake
    have shut := peerShut_sendPkt owed valid isShutdown rcv payload now
    have stays := stable_run PeerShut later (fun _ input shut => shut.call input) shut
    exact not_emits_rw_of_state stays.takesHostData input

/-- Host data pushed before the guest answers waits for the answer, and a kill after
the REQUEST has gone out is followed by RST only. -/
theorem lifeCycle_unanswered :
    let current := run VsockConnection.call (.newLocalInit 2 3 1024 5000) [.recvPkt 64 0, .pushHostData [7]]
    (∀ input, ¬ current.Emits .rw input) ∧
      ∀ op input, (run VsockConnection.call current.kill [.recvPkt 64 0, .notifyHostClosed]).Emits
        op input → op = .rst := by
  have cycle := lifeCycle (.localInit 2 3 1024 5000) [.recvPkt 64 0, .pushHostData [7]]
  refine ⟨cycle.2.2.2.2.1 rfl (by simp [ConnCall.IsGuestResponse]), ?_⟩
  refine cycle.2.2.1 ?_ _ (by simp)
  intro it notRst notRw
  cases it with
  | rst => exact absurd rfl notRst
  | rw => exact absurd rfl notRw
  | request | response | creditUpdate => decide

def guestHeader (op : VsockOp) (flags : U32) : VsockPacket where
  srcCid := 3
  dstCid := 2
  srcPort := 5000
  dstPort := 1024
  len := 0
  pktType := vsockTypeStream
  op := op.toU16
  flags := flags
  bufAlloc := 65536
  fwdCnt := 0

/-- After `kill` an owed RESPONSE makes the connection established again, an owed
REQUEST or CREDIT_UPDATE still goes out, and a SHUTDOWN that arrives before the
RESPONSE is dropped, so that data follows it. -/
theorem lifeCycle_resumes :
    let opOf :=
  fun (conn : VsockConnection) => (conn.produced (.recvPkt 64 0)).map fun packet => packet.1.op
    let resumed := run VsockConnection.call (.newPeerInit 2 3 1024 5000 4096) [.kill, .recvPkt 64 0]
    let requesting := run VsockConnection.call (.newLocalInit 2 3 1024 5000) [.kill, .recvPkt 64 0]
    let updating := run VsockConnection.call (.newPeerInit 2 3 1024 5000 4096)
      [.recvPkt 64 0, .sendPkt (guestHeader .creditRequest 0) [] 0, .kill, .recvPkt 64 0]
    let shut := run VsockConnection.call (.newPeerInit 2 3 1024 5000 4096)
      [.sendPkt (guestHeader .shutdown 3) [] 0, .recvPkt 64 0, .pushHostData [7]]
    resumed.state = .killed ∧ opOf resumed = some response.toU16 ∧
      (resumed.call (.recvPkt 64 0)).state = .established ∧
      opOf requesting = some request.toU16 ∧
      opOf updating = some creditUpdate.toU16 ∧
      opOf shut = some rw.toU16 := by decide

end VsockConnection
end Visor.Vsock
