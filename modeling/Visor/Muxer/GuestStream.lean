import Visor.Library.Run
import Visor.Muxer.Lane

/-! Bytes from the guest to a host client. A synchronisation takes everything out of the
TX buffer and counts it as forwarded, and offers it to the stream once; what the stream
does not take is gone. -/

namespace Visor.Muxer
open Library Vsock VsockMuxer List Muxer.System UnixStream VsockOp Lane Option ConnMapKey

structure Carried (passed : List U8) (sent : List U8) (conn : VsockConnection) : Prop where
  bytes : sent = passed ++ conn.txBuf.contents
  counted : conn.fwdCnt = BitVec.ofNat 32 passed.length

namespace Carried
variable {passed sent : List U8} {conn : VsockConnection}

theorem fresh {conn : VsockConnection} (empty : conn.txBuf = .new) (zero : conn.fwdCnt = 0) :
    Carried [] [] conn where
  bytes := by simp [empty]
  counted := by simp [zero]

section
variable (carried : Carried passed sent conn)
include carried

theorem sendPkt (pkt : VsockPacket) (payload : List U8) (now : Nat) :
    Carried passed (sent ++ VsockDevice.stored conn pkt payload now) (conn.sendPkt pkt payload now).1 := by
  have outcome := conn.sendPkt_sent pkt payload now
  unfold VsockDevice.stored
  generalize (conn.sendPkt pkt payload now).1 = after at outcome ⊢
  generalize (conn.sendPkt pkt payload now).2 = result at outcome
  cases outcome with
  | dropped | overflowed | answered | closing | closingMore | creditAsked =>
    refine ⟨?_, carried.counted⟩
    simpa using carried.bytes
  | @stored txBuf open_ isData pushed =>
    have longer := TxBuf.len_push pushed
    have contents := TxBuf.contents_push pushed
    refine ⟨?_, carried.counted⟩
    change sent ++ (if conn.txBuf.len < txBuf.len then payload else []) = passed ++ txBuf.contents
    rw [contents, ← append_assoc, ← carried.bytes]
    split
    · rfl
    · have none : payload = [] := length_eq_zero_iff.mp (by omega)
      simp [none]

theorem recvPkt (maxDataLen now : Nat) : Carried passed sent (conn.recvPkt maxDataLen now).1 :=
  ⟨by simpa using carried.bytes, by simpa using carried.counted⟩

theorem synced (result : Except IoError (List U8)) :
    Carried (passed ++ conn.txBuf.contents) sent (VsockMuxer.synced conn result) := by
  obtain ⟨txBuf, sink, after, flush, shape, emptied, _⟩ := (hostRead conn result).flushTxBuf_vec
  have counter : (hostRead conn result).fwdCnt = conn.fwdCnt := by
    unfold hostRead
    split <;> rfl
  unfold VsockMuxer.synced
  rw [flush]
  subst shape
  constructor
  · rw [emptied, append_nil]
    exact carried.bytes
  · rw [counter, txBuf_hostRead, carried.counted, length_append, TxBuf.length_contents, BitVec.ofNat_add]

end
end Carried

/-- Among the packets is a REQUEST on the key that comes while its connection is gone. -/
def reopened (key : ConnMapKey) (live : Bool) : List (VsockPacket × List U8) → Bool
  | [] => false
  | packet :: rest =>
    if ofGuest packet.1 = key then
      decide (fromU16 packet.1.op = some .request ∧ live = false) ||
        reopened key (live && fromU16 packet.1.op != some .rst) rest
    else reopened key live rest

theorem ConnView.isSome_dispatch {view : ConnView} {guestCid : U64} {pkt : VsockPacket}
    {payload : List U8} {now : Nat}
    (closed : ¬ (fromU16 pkt.op = some .request ∧ view.conn.isSome = false)) :
    (view.dispatch guestCid pkt payload now).conn.isSome =
      (view.conn.isSome && fromU16 pkt.op != some .rst) := by
  unfold ConnView.dispatch
  cases present : view.conn <;> rcases named : fromU16 pkt.op with _ | _ | _ <;>
    simp_all

/-- The same for a key, whose connection may be gone. -/
def Intact (passed : List U8) (view : ConnView) : Prop :=
  passed <+: view.ledger.sent ∧
    ∀ conn, view.conn = some conn → Carried passed view.ledger.sent conn

namespace Intact
variable {passed : List U8} {view : ConnView}
section
variable (intact : Intact passed view)
include intact

theorem dispatch (guestCid : U64) (pkt : VsockPacket) (payload : List U8) (now : Nat)
    (reopens : fromU16 pkt.op = some .request → view.conn = none → passed = []) :
    Intact passed (view.dispatch guestCid pkt payload now) := by
  obtain ⟨before, carried⟩ := intact
  unfold ConnView.dispatch
  split
  · exact ⟨before, carried⟩
  · next isRequest absent =>
      rw [reopens isRequest absent]
      refine ⟨ nil_prefix, fun conn opened => ?_⟩
      cases opened
      exact Carried.fresh rfl rfl
  · exact ⟨before, by simp⟩
  · exact ⟨before, carried⟩
  · next conn present _ _ =>
      refine ⟨before.trans (prefix_append _ _), fun after sent => ?_⟩
      cases sent
      exact (carried conn present).sendPkt pkt payload now

theorem receive (now : Nat) (buffer : RxBuffer) : Intact passed (view.receive now buffer) := by
  obtain ⟨before, carried⟩ := intact
  unfold ConnView.receive
  split
  · exact ⟨before, carried⟩
  · next conn present =>
      have received := (carried conn present).recvPkt buffer.maxDataLen now
      generalize conn.recvPkt buffer.maxDataLen now = outcome at received ⊢
      obtain ⟨after, failed | ⟨pkt, payload⟩⟩ := outcome
      · exact ⟨before, by simpa using received⟩
      · dsimp only at received ⊢
        split
        · have sent : (if buffer.headerFits then
            { view.ledger with delivered := view.ledger.delivered ++ [(pkt, payload)] }
            else view.ledger).sent = view.ledger.sent := by split <;> rfl
          refine ⟨by rw [sent]; exact before, fun left kept => ?_⟩
          rw [sent]
          split at kept
          · cases kept
          · cases kept
            exact received
        · exact ⟨before, by simpa using received⟩

theorem gone : Intact passed { view with conn := none } := ⟨intact.1, by simp⟩

end

section
variable {device : VsockDevice} {key : ConnMapKey} (intact : Intact passed (device.view key))
include intact

theorem transmit {packets : List (VsockPacket × List U8)} (now : Nat)
    (reopens : reopened key (device.view key).conn.isSome packets = true → passed = []) :
    Intact passed ((device.transmit packets now).view key) := by
  induction packets generalizing device with
  | nil => exact intact
  | cons packet rest ih =>
    have viewed := device.view_dispatch key packet.1 packet.2 now
    by_cases mine : ofGuest packet.1 = key
    · rw [if_pos mine.symm] at viewed
      rw [reopened, if_pos mine, Bool.or_eq_true, decide_eq_true_iff] at reopens
      have first := intact.dispatch device.guestCid packet.1 packet.2 now fun isRequest absent =>
        reopens (.inl ⟨isRequest, by rw [absent]; rfl⟩)
      rw [← viewed] at first
      refine ih first fun later => ?_
      by_cases reopening : fromU16 packet.1.op = some .request ∧ (device.view key).conn.isSome = false
      · exact reopens (.inl reopening)
      · rw [viewed, ConnView.isSome_dispatch reopening] at later
        exact reopens (.inr later)
    · rw [if_neg fun same => mine same.symm] at viewed
      rw [reopened, if_neg mine] at reopens
      refine ih ?_ ?_
      · rw [viewed]
        exact intact
      · rw [viewed]
        exact reopens

theorem fill (rx : RxPass) : Intact passed ((device.fill rx).view key) :=
  VsockDevice.view_fill_induction (Intact passed)
    (fun buffer _ _ before => before.receive rx.now buffer) intact

end

theorem synced (intact : Intact passed view) (result : Except IoError (List U8)) (now : Nat) :
    Intact (passed ++ (view.conn.map (·.txBuf.contents)).getD [])
    { view with conn := unexpired now (view.conn.map (VsockMuxer.synced · result)) } := by
  obtain ⟨before, carried⟩ := intact
  cases present : view.conn with
  | none => exact ⟨by simpa using before, by simp [unexpired]⟩
  | some conn =>
    have moved := (carried conn present).synced result
    refine ⟨?_, fun after kept => ?_⟩
    · exact (carried conn present).bytes ▸ prefix_rfl
    · simp only [map_some, unexpired, filter_some] at kept
      split at kept
      · cases kept
        exact moved
      · cases kept

end Intact

namespace Lane
/-- The invariant of a lane: the stream has got everything that left the buffer, but for
the bytes in flight. Before it is attached it has got nothing. -/
structure Relays (lane : Lane) (stream : UnixStream) : Prop where
  intact : Intact (stream.received ++ lane.inFlight) lane.view
  unattached : lane.attached = false → stream.received = [] ∧ lane.inFlight = []

/-- The stream takes all that it is offered, and once bytes have left for an attached stream
the guest does not reopen the connection. -/
def TakesAll (lane : Lane) (key : ConnMapKey) : Event → Prop
  | .write answers => (answers key).Takes lane.inFlight
  | .guestTransmits tx _ => lane.attached = true → reopened key lane.view.conn.isSome tx.packets = true →
    ∀ stream ∈ lane.stream, stream.received ++ lane.inFlight = []
  | _ => True

instance (lane : Lane) (key : ConnMapKey) (event : Event) : Decidable (lane.TakesAll key event) := by
  rcases event with _ | _ <;> (unfold TakesAll; infer_instance)

theorem relays_step {lane next : Lane} {key : ConnMapKey} {condemned : Prop} {event : Event}
    (moved : LaneStep key condemned event lane next) (takes : lane.TakesAll key event)
    (relays : ∀ stream, lane.stream = some stream → lane.Relays stream) :
    ∀ stream, next.stream = some stream → next.Relays stream := by
  intro stream has
  cases moved with
  | same => exact relays stream has
  | @transmitted tx rx _ device was =>
    obtain ⟨intact, unattached⟩ := relays stream has
    rw [← was] at intact
    refine ⟨(intact.transmit tx.now fun reopened => ?_).fill rx, unattached⟩
    rw [was] at reopened
    cases attached : lane.attached with
    | true => exact takes attached reopened stream has
    | false =>
      obtain ⟨noneReceived, noneInFlight⟩ := unattached attached
      simp [noneReceived, noneInFlight]
  | @filled _ rx _ device was pass =>
    obtain ⟨intact, unattached⟩ := relays stream has
    rw [← was] at intact
    exact ⟨intact.fill rx, unattached⟩
  | reset =>
    obtain ⟨intact, unattached⟩ := relays stream has
    exact ⟨intact.gone, unattached⟩
  | @clientWrote data _ old had isOpen | @clientClosed _ old had =>
    obtain ⟨intact, unattached⟩ := relays old had
    cases has
    exact ⟨intact, unattached⟩
  | opened =>
    cases has
    refine ⟨⟨ nil_prefix, fun conn opened => ?_⟩, fun _ => ⟨rfl, rfl⟩⟩
    cases opened
    exact Carried.fresh rfl rfl
  | dropped | leaked | cleaned => cases has
  | accepted => exact ⟨(relays stream has).intact, (relays stream has).unattached⟩
  | attached => exact ⟨(relays stream has).intact, fun impossible => by cases impossible⟩
  | expired absent =>
    rw [show lane.stream = some stream from has] at absent
    cases absent
  | @updated answers now _ old had attached idle =>
    obtain ⟨intact, _⟩ := relays old had
    cases has
    refine ⟨?_, fun pending => ?_⟩
    · rw [idle, append_nil] at intact
      rw [received_tryRead]
      exact intact.synced _ now
    · rw [show lane.attached = false from pending] at attached
      cases attached
  | @relayed answers _ old had attached =>
    obtain ⟨intact, _⟩ := relays old had
    cases has
    refine ⟨?_, fun pending => ?_⟩
    · rw [received_tryWrite takes, append_nil]
      exact intact
    · rw [show lane.attached = false from pending] at attached
      cases attached

end Lane

namespace System
/-- The bytes that the stream of the key accepted are a prefix of what the guest sent,
and `fwd_cnt` counts them and those still on their way. -/
def GuestBytesIntact (key : ConnMapKey) (system : System) : Prop :=
  ∀ stream, system.muxer.streams.lookup key = some stream →
    stream.received <+: (system.device.ledger key).sent ∧
      ∀ conn, system.device.connections.lookup key = some conn →
        stream.received ++ system.phase.inFlight key <+: (system.device.ledger key).sent ∧
          conn.fwdCnt = BitVec.ofNat 32 (stream.received ++ system.phase.inFlight key).length

def TakesAll (key : ConnMapKey) (system : System) (event : Event) : Prop :=
  (system.lane key).TakesAll key event
deriving Decidable

structure RelayInvariant (key : ConnMapKey) (system : System) : Prop where
  sound : Sound system.muxer system.phase
  relays : ∀ stream, (system.lane key).stream = some stream → (system.lane key).Relays stream

theorem relayInvariant_start (guestCid : U64) (key : ConnMapKey) : RelayInvariant key (start guestCid) where
  sound := sound_start guestCid
  relays stream has := by simp [lane, start, new, Phase.pending] at has

section
variable {key : ConnMapKey} {system : System} (invariant : RelayInvariant key system)
include invariant

theorem RelayInvariant.step {event : Event} (takes : TakesAll key system event) :
    RelayInvariant key (system.step event) where
  sound := sound_step invariant.sound event
  relays := relays_step (step_lane invariant.sound event key) takes invariant.relays

theorem RelayInvariant.guestBytesIntact : GuestBytesIntact key system := by
  intro stream attached
  obtain ⟨intact, _⟩ := invariant.relays stream (by simp [lane, attached])
  refine ⟨(prefix_append _ _).trans intact.1, fun conn present => ⟨intact.1, ?_⟩⟩
  exact (intact.2 conn present).counted

end

/-- While its stream takes all that it is offered, nothing the guest sent is lost. -/
theorem guestBytesIntact_throughout (guestCid : U64) (key : ConnMapKey) (events : List Event)
    (admitted : Along step (TakesAll key) (start guestCid) events) :
    Throughout step (GuestBytesIntact key) (start guestCid) events :=
  throughout_of_invariant (RelayInvariant key)
    (fun _ _ invariant takes => invariant.step takes)
    (fun _ invariant => invariant.guestBytesIntact)
    (relayInvariant_start guestCid key) admitted

/-- The guest sends four bytes, and the stream takes at most so many. -/
def relayFourBytes (count : Nat) : List Event :=
  firstConnection ++
    [guestSends [firstPkt .rw [1, 2, 3, 4]], .notified, .readAndUpdate (fun _ => .upTo 0) 0,
    .write fun _ => .upTo count, .cleanup]

theorem guestBytesIntact_four_bytes :
    Throughout step (GuestBytesIntact firstKey) (start 3) (relayFourBytes 4) ∧
    ((run step (start 3) (relayFourBytes 4)).muxer.streams.lookup firstKey).map received =
    some [1, 2, 3, 4] :=
  ⟨guestBytesIntact_throughout 3 firstKey (relayFourBytes 4) (by decide +kernel), by decide +kernel⟩

/-- Of four bytes counted as forwarded, a stream that takes one has one, and none is
left on the host. -/
theorem guestBytes_lost_on_short_write :
    ¬ Throughout step (GuestBytesIntact firstKey) (start 3) (relayFourBytes 1) := by
  intro holds
  rw [throughout_iff_prefixes] at holds
  have final := holds (relayFourBytes 1) prefix_rfl
  have attached : (run step (start 3) (relayFourBytes 1)).muxer.streams.lookup firstKey =
    some { received := [1] } := by decide +kernel
  have counted : ((run step (start 3) (relayFourBytes 1)).device.connections.lookup
    firstKey).map VsockConnection.fwdCnt = some 4 := by decide +kernel
  obtain ⟨conn, present, four⟩ := map_eq_some_iff.mp counted
  have one := ((final _ attached).2 conn present).2
  rw [four] at one
  exact absurd one (by decide +kernel)

end System
end Visor.Muxer
