import Visor.Library.Run
import Visor.Muxer.Lane

/-! Bytes from a host client to the guest, and the end of the stream. The muxer removes a
connection in the synchronisation that finds its stream at the end, whether or not the
guest has been given everything and told so. -/

namespace Visor.Muxer
open Library Vsock VsockConnection List Muxer.System Lane Option VsockDevice ConnMapKey
variable (delivered : List (VsockPacket × List U8)) (accepted attached : Bool) (stream : UnixStream)
  (view : ConnView)

def rwBytes : List U8 :=
  delivered.flatMap fun packet => if packet.1.op = VsockOp.rw.toU16 then packet.2 else []

@[simp] theorem rwBytes_append (first second : List (VsockPacket × List U8)) :
    rwBytes (first ++ second) = rwBytes first ++ rwBytes second := by
  simp [rwBytes]

theorem rwBytes_other {pkt : VsockPacket} (op : VsockOp) (hasOp : pkt.op = op.toU16)
    (other : op ≠ .rw) (payload : List U8) : rwBytes [(pkt, payload)] = [] := by
  simp [rwBytes, hasOp, other]

/-- The bytes were delivered, and then a SHUTDOWN. -/
def ClosedOut (bytes : List U8) : Prop :=
  ∃ before shutdown after, delivered = before ++ shutdown :: after ∧
    shutdown.1.op = VsockOp.shutdown.toU16 ∧ rwBytes before = bytes

section
variable {delivered : List (VsockPacket × List U8)} {bytes : List U8} (closed : ClosedOut delivered bytes)
include closed

theorem ClosedOut.append (more : List (VsockPacket × List U8)) : ClosedOut (delivered ++ more) bytes := by
  obtain ⟨before, shutdown, after, rfl, isShutdown, all⟩ := closed
  exact ⟨before, shutdown, after ++ more, by simp, isShutdown, all⟩

theorem ClosedOut.mem_shutdown : ∃ packet ∈ delivered, packet.1.op = VsockOp.shutdown.toU16 := by
  obtain ⟨before, shutdown, after, rfl, isShutdown, _⟩ := closed
  exact ⟨shutdown, by simp, isShutdown⟩

end

def UnixStream.Ended : Prop := stream.unread = [] ∧ stream.closed = true

theorem UnixStream.Ended.written {stream : UnixStream} (ended : stream.Ended) :
    stream.written = stream.read := by
  simp [UnixStream.written, ended.1]

/-- A connection that is handing what was read from its stream to the guest. -/
structure Serves (accepted attached : Bool) (stream : UnixStream)
    (delivered : List (VsockPacket × List U8)) (conn : VsockConnection) : Prop where
  bytes : rwBytes delivered ++ conn.rxBuf = stream.read
  ended : conn.hostClosed = true → attached = true ∧ stream.Ended
  noRst : conn.pendingRx.contains .rst = false
  noResponse : conn.pendingRx.contains .response = false
  request : conn.pendingRx.contains .request = true → conn.state = .localInit
  timer : conn.expiry ≠ none → conn.state = .localInit ∨ conn.state = .localClosed
  state : conn.state = .localInit ∨ conn.state.takesHostData = true ∨ conn.state = .localClosed
  acceptedState : accepted = true → conn.state ≠ .localInit
  shut : conn.state = .localClosed → conn.hostClosed = true ∧ conn.rxBuf = [] ∧
    ClosedOut delivered stream.read

namespace Serves
variable {accepted attached : Bool} {stream : UnixStream}
  {delivered : List (VsockPacket × List U8)} {conn after : VsockConnection}

section
variable (serves : Serves accepted attached stream delivered conn)
include serves

theorem same (state : after.state = conn.state) (rxBuf : after.rxBuf = conn.rxBuf)
    (hostClosed : after.hostClosed = conn.hostClosed) (expiry : after.expiry = conn.expiry)
    (pending : ∀ it, it ≠ .rw → it ≠ .creditUpdate →
      after.pendingRx.contains it = conn.pendingRx.contains it) : Serves accepted attached stream
    delivered after where
  bytes := by rw [rxBuf]; exact serves.bytes
  ended := by rw [hostClosed]; exact serves.ended
  noRst := by rw [pending _ (by decide) (by decide)]; exact serves.noRst
  noResponse := by rw [pending _ (by decide) (by decide)]; exact serves.noResponse
  request := by rw [pending _ (by decide) (by decide), state]; exact serves.request
  timer := by rw [expiry, state]; exact serves.timer
  state := by rw [state]; exact serves.state
  acceptedState := by rw [state]; exact serves.acceptedState
  shut := by rw [state, hostClosed, rxBuf]; exact serves.shut

theorem deliver {pkt : VsockPacket} (op : VsockOp) (hasOp : pkt.op = op.toU16) (other : op ≠ .rw)
    (payload : List U8) : Serves accepted attached stream (delivered ++ [(pkt, payload)]) conn :=
  { serves with
    bytes := by
      rw [rwBytes_append, rwBytes_other op hasOp other, append_nil]
      exact serves.bytes
    shut := fun closed =>
      let ⟨hostClosed, drained, closedOut⟩ := serves.shut closed
      ⟨hostClosed, drained, closedOut.append _⟩ }

end

theorem fresh {conn : VsockConnection} (state : conn.state = .localInit) (rxBuf : conn.rxBuf = [])
    (isOpen : conn.hostClosed = false) (pending : conn.pendingRx = .ofPendingRx .request)
    (expiry : conn.expiry = none) : Serves false false {} [] conn where
  bytes := by simp [rxBuf, rwBytes]
  ended := by simp [isOpen]
  noRst := by simp [pending]
  noResponse := by simp [pending]
  request _ := state
  timer := by simp [expiry]
  state := .inl state
  acceptedState := by simp
  shut := by simp [state]

/-- The guest goes on receiving, and answers only a REQUEST that it was given. -/
structure Receptive (conn : VsockConnection) (pkt : VsockPacket) : Prop where
  shutdown : VsockOp.fromU16 pkt.op = some .shutdown → shutsRcv pkt.flags = false
  response : VsockOp.fromU16 pkt.op = some .response → conn.pendingRx.contains .request = false

section
variable (serves : Serves accepted attached stream delivered conn)
include serves

private theorem peerClosed (noSend : Bool)
    (pending : ∀ it, it ≠ .rw → after.pendingRx.contains it = conn.pendingRx.contains it)
    (rxBuf : after.rxBuf = conn.rxBuf) (hostClosed : after.hostClosed = conn.hostClosed)
    (expiry : after.expiry = conn.expiry) (state : after.state = .peerClosed false noSend)
    (takes : conn.state.takesHostData = true) : Serves accepted attached stream delivered after := by
  have kept : Serves accepted attached stream delivered { after with state := conn.state } :=
    serves.same rfl rxBuf hostClosed expiry fun it notRw _ => pending it notRw
  exact { kept with
    request := fun asked => by
      rw [kept.request asked] at takes
      cases takes
    timer := fun set => by
      rcases kept.timer set with waiting | closed
      · rw [waiting] at takes
        cases takes
      · rw [closed] at takes
        cases takes
    state := by rw [state]; exact .inr (.inl rfl)
    acceptedState := fun _ => by rw [state]; nofun
    shut := fun closed => by rw [state] at closed; cases closed }

theorem sendPkt {pkt : VsockPacket} (receptive : Receptive conn pkt) (payload : List U8) (now : Nat) :
    Serves accepted attached stream delivered (conn.sendPkt pkt payload now).1 := by
  have outcome := conn.sendPkt_sent pkt payload now
  generalize (conn.sendPkt pkt payload now).1 = after at outcome ⊢
  generalize (conn.sendPkt pkt payload now).2 = result at outcome
  cases outcome with
  | dropped | overflowed => exact serves.same rfl rfl rfl rfl fun it notRw _ => by simp [notRw.symm]
  | stored | creditAsked =>
    exact serves.same rfl rfl rfl rfl fun it notRw notUpdate => by simp [notRw.symm, notUpdate.symm]
  | answered waiting isResponse =>
    have notAsked := receptive.response isResponse
    exact {
      bytes := serves.bytes
      ended := serves.ended
      noRst := by simpa using serves.noRst
      noResponse := by simpa using serves.noResponse
      request := by simp [notAsked]
      timer := by simp
      state := .inr (.inl rfl)
      acceptedState := by simp
      shut := by simp }
  | closing established isShutdown =>
    have keeps := receptive.shutdown isShutdown
    refine serves.peerClosed (shutsSend pkt.flags) (fun it notRw => ?_) rfl rfl ?_ ?_
      (by rw [established]; rfl)
    · simp [keeps, notRw.symm]
    · simp [keeps]
    · simp [keeps]
  | @closingMore noRecv noSend closed isShutdown =>
    have keeps := receptive.shutdown isShutdown
    have takes : conn.state.takesHostData = true := by
      rcases serves.state with waiting | takes | shut
      · rw [closed] at waiting
        cases waiting
      · exact takes
      · rw [closed] at shut
        cases shut
    obtain rfl : noRecv = false := by
      rw [closed] at takes
      cases noRecv with
      | false => rfl
      | true => cases takes
    refine serves.peerClosed (noSend || shutsSend pkt.flags) (fun it notRw => ?_) rfl rfl rfl ?_ takes
    · simp [keeps, notRw.symm]
    · simp [keeps]

end

/-- What must hold once the connection is gone. -/
def Finished (attached : Bool) (stream : UnixStream) (delivered : List (VsockPacket × List U8)) : Prop :=
  attached = true ∧ stream.Ended ∧ rwBytes delivered = stream.read ∧
    ClosedOut delivered stream.read

section
variable (serves : Serves accepted attached stream delivered conn)
include serves

theorem finished (closed : conn.state = .localClosed) : Finished attached stream delivered := by
  obtain ⟨hostClosed, drained, closedOut⟩ := serves.shut closed
  obtain ⟨isAttached, ended⟩ := serves.ended hostClosed
  refine ⟨isAttached, ended, ?_, closedOut⟩
  simpa [drained] using serves.bytes

theorem shutdown {pkt : VsockPacket} (isShutdown : pkt.op = VsockOp.shutdown.toU16) {time : Nat}
    (turn : conn.DataTurn) (drained : conn.rxBuf = []) (closed : conn.hostClosed = true) :
    Serves accepted attached stream (delivered ++ [(pkt, [])])
    { conn.clear .rw with state := .localClosed, expiry := some time } := by
  have all : rwBytes delivered = stream.read := by simpa [drained] using serves.bytes
  exact {
    bytes := by simpa [rwBytes_other .shutdown isShutdown (by decide), drained] using all
    ended := serves.ended
    noRst := by simpa using turn.noRst
    noResponse := by simpa using turn.noResponse
    request := by simp [turn.noRequest]
    timer := fun _ => .inr rfl
    state := .inr (.inr rfl)
    acceptedState := fun _ => nofun
    shut := fun _ => ⟨closed, drained, delivered, (pkt, []), [], rfl, isShutdown, all⟩ }

theorem data {pkt : VsockPacket} (isData : pkt.op = VsockOp.rw.toU16)
    {count : Nat} (receives : conn.state.takesHostData = true) (state : after.state = conn.state)
    (rxBuf : after.rxBuf = conn.rxBuf.drop count) (hostClosed : after.hostClosed = conn.hostClosed)
    (expiry : after.expiry = conn.expiry)
    (pending : ∀ it, it ≠ .rw → after.pendingRx.contains it = conn.pendingRx.contains it) :
    Serves accepted attached stream (delivered ++ [(pkt, conn.rxBuf.take count)]) after := by
  have kept : Serves accepted attached stream delivered { after with rxBuf := conn.rxBuf } :=
    serves.same state rfl hostClosed expiry fun it notRw _ => pending it notRw
  exact { kept with
    bytes := by
      have moved : rwBytes [(pkt, conn.rxBuf.take count)] = conn.rxBuf.take count := by
        simp [rwBytes, isData]
      rw [rwBytes_append, moved, rxBuf, append_assoc, take_append_drop]
      exact serves.bytes
    shut := fun closed => by
      rw [← state, closed] at receives
      cases receives }

theorem recvPkt (maxDataLen now : Nat) : match conn.recvPkt maxDataLen now with
    | (after, .error _) => Serves accepted attached stream delivered after
    | (after, .ok (pkt, payload)) =>
    if pkt.op = VsockOp.rst.toU16 then
      Finished attached stream (delivered ++ [(pkt, payload)])
    else Serves accepted attached stream (delivered ++ [(pkt, payload)]) after := by
  have outcome := conn.recvPkt_received maxDataLen now
  generalize conn.recvPkt maxDataLen now = result at outcome ⊢
  obtain ⟨after, result⟩ := result
  cases outcome with
  | rst due =>
    rw [serves.noRst] at due
    cases due
  | response _ due =>
    rw [serves.noResponse] at due
    cases due
  | request _ _ due =>
    have waiting := serves.request due
    dsimp only
    rw [if_neg (by decide)]
    refine deliver ?_ .request rfl (by decide) []
    exact {
      bytes := serves.bytes
      ended := serves.ended
      noRst := by simpa using serves.noRst
      noResponse := by simpa using serves.noResponse
      request := by simp
      timer := fun _ => .inl waiting
      state := .inl waiting
      acceptedState := serves.acceptedState
      shut := serves.shut }
  | creditRequest =>
    dsimp only
    rw [if_neg (by decide)]
    refine deliver ?_ .creditRequest rfl (by decide) []
    exact serves.same rfl rfl rfl rfl fun it notRw _ => by simp [notRw.symm]
  | shutdown turn receives credit drained closed =>
    dsimp only
    rw [if_neg (by decide)]
    exact serves.shutdown rfl turn drained closed
  | drained | headerOnly | deferred =>
    exact serves.same rfl rfl rfl rfl fun it notRw _ => by simp [notRw.symm]
  | data turn receives =>
    dsimp only
    rw [if_neg (by decide)]
    refine serves.data rfl receives rfl rfl rfl rfl fun it notRw => ?_
    simp [notRw.symm]
  | refused turn receives handshake =>
    dsimp only
    rw [if_pos rfl]
    have closed : conn.state = .localClosed := by
      rcases serves.state with waiting | takes | closed
      · rw [waiting] at handshake
        cases handshake
      · rw [takes] at receives
        cases receives
      · exact closed
    obtain ⟨isAttached, ended, all, closedOut⟩ := serves.finished closed
    refine ⟨isAttached, ended, ?_, closedOut.append _⟩
    rw [rwBytes_append, rwBytes_other .rst rfl (by decide), append_nil]
    exact all
  | creditUpdate =>
    dsimp only
    rw [if_neg (by decide)]
    refine deliver ?_ .creditUpdate rfl (by decide) []
    exact serves.same rfl rfl rfl rfl fun it _ notUpdate => by simp [notUpdate.symm]
  | idle => exact serves.same rfl rfl rfl rfl fun it _ notUpdate => by simp [notUpdate.symm]

end

section
variable (serves : Serves accepted true stream delivered conn)
include serves

theorem notifyHostClosed (ended : stream.Ended) :
    Serves accepted true stream delivered conn.notifyHostClosed := by
  have noted : Serves accepted true stream delivered { conn with pendingRx := conn.pendingRx.insert .rw } :=
    serves.same rfl rfl rfl rfl fun it notRw _ => by simp [notRw.symm]
  exact { noted with
    ended := fun _ => ⟨rfl, ended⟩
    shut := fun shut => ⟨rfl, (serves.shut shut).2⟩ }

theorem pushHostData (remaining : stream.unread ≠ []) (count : Nat) : Serves accepted true { stream with
    read := stream.read ++ stream.unread.take count
    unread := stream.unread.drop count } delivered
    (conn.pushHostData (stream.unread.take count)) := by
  have isOpen : ¬ conn.hostClosed = true := fun closed => remaining (serves.ended closed).2.1
  have pushed :
    Serves accepted true stream delivered { conn with pendingRx := conn.pendingRx.insert .rw } :=
    serves.same rfl rfl rfl rfl fun it notRw _ => by simp [notRw.symm]
  exact { pushed with
    bytes := by
      change rwBytes delivered ++ (conn.rxBuf ++ _) = stream.read ++ _
      rw [← append_assoc, serves.bytes]
    ended := fun closed => absurd closed isOpen
    shut := fun shut => absurd (serves.shut shut).1 isOpen }

theorem hostRead {answer : IoAnswer} (works : answer ≠ .failed) :
    Serves accepted true (stream.tryRead answer).1 delivered
    (VsockMuxer.hostRead conn (stream.tryRead answer).2) := by
  match answer with
  | .failed => exact absurd rfl works
  | .upTo 0 => exact serves
  | .upTo (count + 1) =>
    unfold UnixStream.tryRead
    dsimp only
    by_cases exhausted : stream.unread.isEmpty = true
    · rw [if_pos exhausted]
      cases closed : stream.closed with
      | false => exact serves
      | true => exact serves.notifyHostClosed ⟨List.isEmpty_iff.mp exhausted, closed⟩
    · rw [if_neg exhausted]
      have remaining : stream.unread ≠ [] := by simpa using exhausted
      have pushed := serves.pushHostData remaining (min (count + 1) streamBufSize)
      have some : stream.unread.take (min (count + 1) streamBufSize) ≠ [] := by
        simp [remaining, streamBufSize]
      obtain ⟨byte, rest, shape⟩ := exists_cons_of_ne_nil some
      simp only [shape] at pushed ⊢
      exact pushed

end

theorem flushTxBuf (serves : Serves accepted attached stream delivered conn) :
    Serves accepted attached stream delivered (conn.flushTxBuf .vec).1 := by
  obtain ⟨txBuf, sink, after, flush, shape, _, _⟩ := conn.flushTxBuf_vec
  rw [flush]
  have notClosing : ¬ conn.state = .peerClosed true true := by
    intro closing
    rcases serves.state with waiting | takes | shut
    · rw [closing] at waiting
      cases waiting
    · rw [closing] at takes
      cases takes
    · rw [closing] at shut
      cases shut
  subst shape
  refine serves.same rfl rfl rfl rfl fun it notRw notUpdate => ?_
  by_cases isRst : it = .rst
  · subst isRst
    simp [dueAfterFlush, notClosing]
    split <;> simp
  · exact contains_dueAfterFlush _ isRst notUpdate

end Serves

def Hands : Prop :=
  match view.conn with
  | some conn => Serves accepted attached stream view.ledger.delivered conn
  | none => Serves.Finished attached stream view.ledger.delivered

namespace Hands
variable {accepted attached : Bool} {stream : UnixStream} {view : ConnView}

theorem bytes (hands : Hands accepted attached stream view) :
    rwBytes view.ledger.delivered <+: stream.written := by
  unfold Hands at hands
  split at hands
  · next conn _ =>
      rw [UnixStream.written, ← hands.bytes, append_assoc]
      exact prefix_append _ _
  · rw [UnixStream.written, ← hands.2.2.1]
    exact prefix_append _ _

theorem stream_changed (hands : Hands accepted attached stream view)
    {next : UnixStream} (read : next.read = stream.read) (ended : stream.Ended → next.Ended) :
    Hands accepted attached next view := by
  unfold Hands at hands ⊢
  split at hands
  · exact { hands with
      bytes := by rw [read]; exact hands.bytes
      ended := fun closed => ⟨(hands.ended closed).1, ended (hands.ended closed).2⟩
      shut := by rw [read]; exact hands.shut }
  · obtain ⟨isAttached, isEnded, all, closedOut⟩ := hands
    exact ⟨isAttached, ended isEnded, by rw [read]; exact all, by rw [read]; exact closedOut⟩

end Hands

def Asked : Bool := view.conn.any fun conn => conn.pendingRx.contains .request

/-- The guest neither resets nor reopens the connection, goes on receiving, and answers
only a REQUEST that it was given. -/
def KeepsOpen (pkt : VsockPacket) : Prop :=
  VsockOp.fromU16 pkt.op ≠ some .request ∧ VsockOp.fromU16 pkt.op ≠ some .rst ∧
    (VsockOp.fromU16 pkt.op = some .shutdown → shutsRcv pkt.flags = false) ∧
    (VsockOp.fromU16 pkt.op = some .response → Asked view = false)
deriving Decidable

def WellFormed (rx : RxPass) : Prop :=
  ∀ buffer ∈ rx.buffers, buffer.writable = true ∧ buffer.headerFits = true
deriving Decidable

theorem request_of_sendPkt {conn : VsockConnection} {pkt : VsockPacket} {payload : List U8}
    {now : Nat} (asked : (conn.sendPkt pkt payload now).1.pendingRx.contains .request = true) :
    conn.pendingRx.contains .request = true := by
  have outcome := conn.sendPkt_sent pkt payload now
  generalize (conn.sendPkt pkt payload now).1 = after at outcome asked
  generalize (conn.sendPkt pkt payload now).2 = result at outcome
  cases outcome <;> simpa using asked

namespace Hands
variable {accepted attached : Bool} {stream : UnixStream} {view : ConnView} {device : VsockDevice}
  {key : ConnMapKey}

theorem dispatch (hands : Hands accepted attached stream view) {pkt : VsockPacket}
    (keeps : KeepsOpen view pkt) (guestCid : U64) (payload : List U8) (now : Nat) :
    Hands accepted attached stream (view.dispatch guestCid pkt payload now) ∧
    (Asked (view.dispatch guestCid pkt payload now) = true → Asked view = true) := by
  obtain ⟨notRequest, notRst, shutdown, response⟩ := keeps
  unfold ConnView.dispatch
  split
  · exact ⟨hands, id⟩
  · next isRequest _ => exact absurd isRequest notRequest
  · next isRst => exact absurd isRst notRst
  · exact ⟨hands, id⟩
  · next conn present _ _ =>
      simp only [Hands, present] at hands
      have receptive : Serves.Receptive conn pkt :=
        ⟨shutdown, fun isResponse => by simpa [Asked, present] using response isResponse⟩
      refine ⟨hands.sendPkt receptive payload now, fun asked => ?_⟩
      simp only [Asked, any_some, present] at asked ⊢
      exact request_of_sendPkt asked

theorem transmit (hands : Hands accepted attached stream (device.view key))
    {packets : List (VsockPacket × List U8)} (now : Nat)
    (keeps : ∀ packet ∈ packets, ofGuest packet.1 = key → KeepsOpen (device.view key) packet.1) :
    Hands accepted attached stream ((device.transmit packets now).view key) := by
  refine (view_transmit_induction
    (fun view => Hands accepted attached stream view ∧
      (Asked view = true → Asked (device.view key) = true))
    (fun packet member mine view before => ?_) ⟨hands, id⟩).1
  obtain ⟨notRequest, notRst, shutdown, response⟩ := keeps packet member mine
  have still : KeepsOpen view packet.1 := by
    refine ⟨notRequest, notRst, shutdown, fun isResponse => ?_⟩
    have unasked := response isResponse
    cases asked : Asked view with
    | false => rfl
    | true =>
      rw [before.2 asked] at unasked
      cases unasked
  obtain ⟨after, asked⟩ := before.1.dispatch still device.guestCid packet.2 now
  exact ⟨after, fun later => before.2 (asked later)⟩

theorem receive (hands : Hands accepted attached stream view) (now : Nat)
    {buffer : RxBuffer} (writable : buffer.writable = true) (headerFits : buffer.headerFits = true) :
    Hands accepted attached stream (view.receive now buffer) := by
  unfold ConnView.receive
  cases present : view.conn with
  | none => exact hands
  | some conn =>
    simp only [Hands, present] at hands
    have received := hands.recvPkt buffer.maxDataLen now
    dsimp only
    generalize conn.recvPkt buffer.maxDataLen now = outcome at received ⊢
    obtain ⟨after, failed | ⟨pkt, payload⟩⟩ := outcome
    · exact received
    · simp only [writable, headerFits, ↓reduceIte]
      dsimp only at received
      split at received
      · next isRst =>
          rw [if_pos isRst]
          exact received
      · next notRst =>
          rw [if_neg notRst]
          exact received

theorem fill (hands : Hands accepted attached stream (device.view key))
    {rx : RxPass} (wellFormed : WellFormed rx) :
    Hands accepted attached stream ((device.fill rx).view key) :=
  view_fill_induction (Hands accepted attached stream)
    (fun buffer member _ before =>
      before.receive rx.now (wellFormed buffer member).1 (wellFormed buffer member).2) hands

theorem synced (hands : Hands true true stream view) {answer : IoAnswer} (works : answer ≠ .failed)
    (now : Nat) :
    Hands true true (stream.tryRead answer).1 { view with
    conn := unexpired now (view.conn.map (VsockMuxer.synced · (stream.tryRead answer).2)) } := by
  cases present : view.conn with
  | none =>
    simp only [Hands, present] at hands
    have same : (stream.tryRead answer).1 = stream := by
      match answer with
      | .failed => rfl
      | .upTo 0 => rfl
      | .upTo (count + 1) => simp [UnixStream.tryRead, hands.2.1.1]
    rw [same]
    exact hands
  | some conn =>
    simp only [Hands, present] at hands
    have moved := (hands.hostRead works).flushTxBuf
    simp only [map_some, unexpired, filter_some]
    split
    · exact moved
    · next expired =>
        have set : (VsockMuxer.synced conn (stream.tryRead answer).2).expiry ≠ none := by
          intro unset
          simp [hasExpired, unset] at expired
        rcases moved.timer set with waiting | closed
        · exact absurd waiting (moved.acceptedState rfl)
        · exact moved.finished closed

end Hands

/-! Host data and the end of the stream over whole runs. What the guest has been given is
always a prefix of what the client wrote; that nothing is missing when the connection is
removed depends on the guest being quicker than the cleanup. -/

open Option
namespace Lane
/-- The guest keeps the connection open and offers good buffers, reads do not fail, and
the cleanup finds the connection shut. -/
def LetsThrough (lane : Lane) (key : ConnMapKey) (condemned : Prop) : Event → Prop
  | .guestTransmits tx rx =>
    (∀ packet ∈ tx.packets, ofGuest packet.1 = key → KeepsOpen lane.view packet.1) ∧ WellFormed rx
  | .guestOffers rx => WellFormed rx
  | .kick rx => WellFormed rx
  | .guestResets => False
  | .readAndUpdate answers _ => answers key ≠ .failed
  | .cleanup => condemned → lane.view.conn.all (fun conn => decide (conn.state = .localClosed)) = true
  | _ => True

instance (lane : Lane) (key : ConnMapKey) (condemned : Prop) [Decidable condemned] (event : Event) :
    Decidable (lane.LetsThrough key condemned event) := by
      rcases event with _ | _ <;> (unfold LetsThrough; infer_instance)

def HandsOver (lane : Lane) : Prop :=
  ∀ stream, lane.stream = some stream → Hands lane.accepted lane.attached stream lane.view

variable {lane next : Lane} {key : ConnMapKey} {condemned : Prop} {event : Event}
section
variable (moved : LaneStep key condemned event lane next)
  (known : lane.attached = true → lane.accepted = true)
  (through : lane.stream.isSome = true → lane.LetsThrough key condemned event)
  (hands : lane.HandsOver)
include moved known through hands

theorem handsOver_step : next.HandsOver := by
  intro stream has
  cases moved with
  | same => exact hands stream has
  | @transmitted tx rx _ device was =>
    have before := hands stream has
    obtain ⟨keeps, wellFormed⟩ := through (isSome_of_eq_some has)
    rw [← was] at before keeps
    exact (before.transmit tx.now keeps).fill wellFormed
  | @filled _ rx _ device was pass =>
    have before := hands stream has
    have lets := through (isSome_of_eq_some has)
    have wellFormed : WellFormed rx := by rcases pass with rfl | rfl <;> exact lets
    rw [← was] at before
    exact before.fill wellFormed
  | reset => exact (through (isSome_of_eq_some has)).elim
  | @clientWrote data _ old had isOpen =>
    cases has
    refine (hands old had).stream_changed rfl fun ended => ?_
    rw [ended.2] at isOpen
    cases isOpen
  | @clientClosed _ old had =>
    cases has
    exact (hands old had).stream_changed rfl fun ended => ⟨ended.1, rfl⟩
  | opened =>
    cases has
    exact Serves.fresh rfl rfl rfl rfl rfl
  | dropped | leaked | cleaned => cases has
  | accepted pending established =>
    have before := hands stream has
    obtain ⟨conn, present, isEstablished⟩ := map_eq_some_iff.mp established
    simp only [Hands, present] at before ⊢
    exact { before with acceptedState := fun _ => by simp [isEstablished] }
  | attached =>
    have before := hands stream has
    simp only [Hands] at before ⊢
    split at before
    · exact { before with ended := fun closed => ⟨rfl, (before.ended closed).2⟩ }
    · exact ⟨rfl, before.2⟩
  | expired absent =>
    rw [show lane.stream = some stream from has] at absent
    cases absent
  | @updated answers now _ old had attached idle =>
    cases has
    have before := hands old had
    have works := through (isSome_of_eq_some had)
    rw [attached, known attached] at before
    change Hands lane.accepted lane.attached _ _
    rw [attached, known attached]
    exact before.synced works now
  | @relayed answers _ old had attached =>
    cases has
    have kept : (old.tryWrite lane.inFlight (answers key)).1.read = old.read ∧
      (old.Ended → (old.tryWrite lane.inFlight (answers key)).1.Ended) := by
      obtain (_ | _) | _ := answers key
      all_goals exact ⟨rfl, id⟩
    exact (hands old had).stream_changed kept.1 kept.2

theorem closedOut_of_removed {stream : UnixStream} (has : lane.stream = some stream)
    (attached : lane.attached = true) (present : lane.view.conn.isSome = true)
    (gone : next.view.conn = none) : ClosedOut next.view.ledger.delivered stream.written := by
  have after := handsOver_step moved known through hands
  have finished : ∀ left, next.stream = some left → left.written = stream.written →
    ClosedOut next.view.ledger.delivered stream.written := by
    intro left still written
    have handed := after left still
    simp only [Hands, gone] at handed
    rw [← written, handed.2.1.written]
    exact handed.2.2.2
  have unmoved : next.view = lane.view → ClosedOut next.view.ledger.delivered stream.written := by
    intro same
    rw [← same, gone] at present
    cases present
  cases moved with
  | same | clientWrote | clientClosed | accepted | attached | relayed => exact unmoved rfl
  | transmitted | filled => exact finished stream has rfl
  | reset => exact (through (isSome_of_eq_some has)).elim
  | opened _ absent | expired absent =>
    rw [has] at absent
    cases absent
  | dropped pending | leaked pending =>
    rw [attached] at pending
    cases pending
  | @updated answers now _ old had =>
    refine finished _ rfl ?_
    rw [had] at has
    cases has
    exact UnixStream.written_tryRead _ _
  | cleaned dead =>
    have handed := hands stream has
    obtain ⟨conn, found⟩ := isSome_iff_exists.mp present
    have closed : conn.state = .localClosed := by simpa [found] using through (isSome_of_eq_some has) dead
    simp only [Hands, found] at handed
    obtain ⟨_, ended, _, closedOut⟩ := handed.finished closed
    rw [ended.written]
    exact closedOut

end
end Lane

namespace System
/-- The bytes the guest was given in RW packets are a prefix of what the client wrote. -/
def HostBytesInOrder (key : ConnMapKey) (system : System) : Prop :=
  ∀ stream, system.muxer.streams.lookup key = some stream →
    rwBytes (system.device.ledger key).delivered <+: stream.written

/-- A step that removes the connection of an attached stream comes after the delivery of
all that the client wrote, and of a SHUTDOWN. -/
def RemovedOnceDelivered (key : ConnMapKey) (system : System) (event : Event) : Prop :=
  ∀ stream, system.muxer.streams.lookup key = some stream →
    (system.device.connections.lookup key).isSome = true →
    (system.step event).device.connections.lookup key = none →
    ClosedOut ((system.step event).device.ledger key).delivered stream.written

def LetsThrough (key : ConnMapKey) (system : System) (event : Event) : Prop :=
  (system.lane key).stream.isSome = true →
    (system.lane key).LetsThrough key (key ∈ system.phase.condemned) event
deriving Decidable

structure HandInvariant (key : ConnMapKey) (system : System) : Prop where
  sound : Sound system.muxer system.phase
  hands : (system.lane key).HandsOver

theorem accepted_of_attached (system : System) (key : ConnMapKey)
    (attached : (system.lane key).attached = true) : (system.lane key).accepted = true := by simp_all [lane]

theorem handInvariant_start (guestCid : U64) (key : ConnMapKey) : HandInvariant key (start guestCid) where
  sound := sound_start guestCid
  hands stream has := by simp [lane, start, VsockMuxer.new, Phase.pending] at has

variable {key : ConnMapKey} {system : System}
section
variable (invariant : HandInvariant key system)
include invariant

theorem HandInvariant.step {event : Event} (through : LetsThrough key system event) :
    HandInvariant key (system.step event) where
  sound := sound_step invariant.sound event
  hands := handsOver_step (step_lane invariant.sound event key) (accepted_of_attached system key)
    through invariant.hands

theorem HandInvariant.hostBytesInOrder : HostBytesInOrder key system := by
  intro stream attached
  exact (invariant.hands stream (by simp [lane, attached])).bytes

theorem HandInvariant.removedOnceDelivered {event : Event}
    (through : LetsThrough key system event) : RemovedOnceDelivered key system event := by
  intro stream attached present gone
  exact closedOut_of_removed (step_lane invariant.sound event key)
    (accepted_of_attached system key) through invariant.hands
    (by simp [lane, attached]) (by simp [lane, attached]) present gone

end

/-- While the cleanup only meets connections that are shut, the guest is given all that
the client wrote, in order, and then a SHUTDOWN, before its connection goes. -/
theorem hostBytes_delivered (guestCid : U64) (key : ConnMapKey) (events : List Event)
    (admitted : Along step (LetsThrough key) (start guestCid) events) :
    Throughout step (HostBytesInOrder key) (start guestCid) events ∧
    Along step (RemovedOnceDelivered key) (start guestCid) events :=
  ⟨throughout_of_invariant (HandInvariant key)
    (fun _ _ invariant through => invariant.step through)
    (fun _ invariant => invariant.hostBytesInOrder)
    (handInvariant_start guestCid key) admitted, along_of_invariant (HandInvariant key)
    (fun _ _ invariant through => invariant.step through)
    (fun _ _ invariant through => invariant.removedOnceDelivered through)
    (handInvariant_start guestCid key) admitted⟩

/-- The client writes four bytes and closes. The guest offers buffers once they have been
read, and again once the end of the stream has been noticed. -/
def closeAfterFourBytes (early late : List RxBuffer) : List Event :=
  firstConnection ++ [.clientWrites firstKey [1, 2, 3, 4], .clientCloses firstKey, .readable,
    .readAndUpdate (fun _ => .upTo streamBufSize) 0, .write fun _ => .upTo 0, .cleanup,
      .kick ⟨early, [], 0⟩,
    .readable, .readAndUpdate (fun _ => .upTo streamBufSize) 0, .guestOffers ⟨late, [], 0⟩,
      .write fun _ => .upTo 0]

theorem hostBytes_delivered_four_bytes :
    let events := closeAfterFourBytes [⟨streamBufSize, true, true⟩] [⟨0, true, true⟩] ++ [.cleanup]
    Along step (RemovedOnceDelivered firstKey) (start 3) events ∧
      rwBytes ((run step (start 3) events).device.ledger firstKey).delivered = [1, 2, 3, 4] :=
  ⟨(hostBytes_delivered 3 firstKey _ (by decide +kernel)).2, by decide +kernel⟩

/-- A guest that is short of buffers gets neither the bytes nor the SHUTDOWN. -/
theorem removed_before_delivery :
    ¬ Along step (RemovedOnceDelivered firstKey) (start 3) (closeAfterFourBytes [] [] ++ [.cleanup]) := by
  intro holds
  rw [along_append] at holds
  have removed := holds.2.1 { read := [1, 2, 3, 4], closed := true } (by decide +kernel)
    (by decide +kernel) (by decide +kernel)
  exact absurd removed.mem_shutdown (by decide +kernel)

end System
end Visor.Muxer
