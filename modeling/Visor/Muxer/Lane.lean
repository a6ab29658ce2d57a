import Visor.Muxer.SystemProperties

/-! The part of the system that belongs to one key. Every step of the system acts on a
lane in one of the ways that `LaneStep` lists, whatever happens to the other keys. -/

namespace Visor.Muxer
open Library Vsock Phase VsockMuxer VsockDevice Option

/-- The connection of a key with its ledger, its stream, whether the guest is known to
have accepted and whether the stream is attached, and the bytes between the two. -/
structure Lane where
  view : ConnView
  stream : Option UnixStream
  accepted : Bool
  attached : Bool
  inFlight : List U8

namespace System
def lane (system : System) (key : ConnMapKey) : Lane where
  view := system.device.view key
  stream := (system.muxer.streams.lookup key).or (system.phase.pending key)
  accepted := (system.muxer.streams.lookup key).isSome || system.phase.replies key
  attached := (system.muxer.streams.lookup key).isSome
  inFlight := system.phase.inFlight key

end System

namespace Lane
def withConn (lane : Lane) (conn : Option VsockConnection) : Lane :=
  { lane with view := { lane.view with conn := conn } }

def unexpired (now : Nat) (conn : Option VsockConnection) : Option VsockConnection :=
  conn.filter fun conn => !conn.hasExpired now

end Lane

section
variable (key : ConnMapKey) (condemned : Prop)

/-- What one step of the system does to the lane of a key. The cleanup removes it only
if it is condemned. -/
inductive LaneStep : Event → Lane → Lane → Prop where
  | same {event : Event} {lane : Lane} : LaneStep event lane lane
  | transmitted {tx : TxPass} {rx : RxPass} {lane : Lane} (device : VsockDevice)
    (was : device.view key = lane.view) : LaneStep (.guestTransmits tx rx) lane
      { lane with view := ((device.transmit tx.packets tx.now).fill rx).view key }
  | filled {event : Event} {rx : RxPass} {lane : Lane} (device : VsockDevice)
    (was : device.view key = lane.view)
    (pass : event = .guestOffers rx ∨ event = .kick rx) :
      LaneStep event lane { lane with view := (device.fill rx).view key }
  | reset {lane : Lane} : LaneStep .guestResets lane (lane.withConn none)
  | clientWrote {data : List U8} {lane : Lane} {stream : UnixStream}
    (had : lane.stream = some stream) (isOpen : stream.closed = false) :
      LaneStep (.clientWrites key data) lane
      { lane with stream := some { stream with unread := stream.unread ++ data } }
  | clientClosed {lane : Lane} {stream : UnixStream} (had : lane.stream = some stream) :
    LaneStep (.clientCloses key) lane
    { lane with stream := some { stream with closed := true } }
  | opened {handshake : HandshakeRead} {lane : Lane} (guestCid : U64)
    (absent : lane.stream = none) : LaneStep (.accept handshake) lane {
    view := ⟨some (.newLocalInit hostCid guestCid key.localPort key.peerPort), {}⟩
    stream := some {}
    accepted := false
    attached := false
    inFlight := [] }
  | dropped {lane : Lane} (pending : lane.attached = false) :
    LaneStep .abandon lane { lane.withConn none with stream := none }
  | accepted {lane : Lane} (pending : lane.attached = false)
    (established : lane.view.conn.map VsockConnection.state = some .established) :
      LaneStep .check lane { lane with accepted := true }
  | attached {lane : Lane} (pending : lane.attached = false) (had : lane.stream.isSome = true)
    (accepted : lane.accepted = true) : LaneStep (.reply true) lane { lane with attached := true }
  | leaked {lane : Lane} (pending : lane.attached = false) (had : lane.stream.isSome = true) :
    LaneStep (.reply false) lane { lane with stream := none, accepted := false }
  | expired {answers : ConnMapKey → IoAnswer} {now : Nat} {lane : Lane}
    (absent : lane.stream = none) :
      LaneStep (.readAndUpdate answers now) lane (lane.withConn (Lane.unexpired now lane.view.conn))
  | updated {answers : ConnMapKey → IoAnswer} {now : Nat} {lane : Lane} {stream : UnixStream}
    (had : lane.stream = some stream)
    (attached : lane.attached = true) (idle : lane.inFlight = []) :
      LaneStep (.readAndUpdate answers now) lane
      { lane.withConn (Lane.unexpired now (lane.view.conn.map
        (synced · (stream.tryRead (answers key)).2))) with
        stream := some (stream.tryRead (answers key)).1
        inFlight := (lane.view.conn.map (·.txBuf.contents)).getD [] }
  | relayed {answers : ConnMapKey → IoAnswer} {lane : Lane} {stream : UnixStream}
    (had : lane.stream = some stream) (attached : lane.attached = true) : LaneStep (.write answers) lane
      { lane with
        stream := some (stream.tryWrite lane.inFlight (answers key)).1
        inFlight := [] }
  | cleaned {lane : Lane} (dead : condemned) (attached : lane.attached = true)
    (idle : lane.inFlight = []) : LaneStep .cleanup lane
    { lane.withConn none with stream := none, accepted := false, attached := false }

end

namespace System
theorem view_rxKick (device : VsockDevice) (rx : RxPass) (key : ConnMapKey) :
    (rxKick device rx).view key = device.view key ∨ (rxKick device rx).view key =
    (device.fill rx).view key := by
  unfold rxKick
  split
  · exact .inr rfl
  · exact .inl rfl

theorem lane_updateStream (system : System) (key other : ConnMapKey)
    (update : UnixStream → UnixStream) : (system.updateStream key update).lane other =
    if other = key then { system.lane other with stream := (system.lane other).stream.map update }
    else system.lane other := by
  have inFlight : (system.updateStream key update).phase.inFlight other = system.phase.inFlight other := by
    cases current : system.phase <;> simp only [updateStream, current, inFlight]
  have pending : (system.updateStream key update).phase.pending other =
    if other = key then (system.phase.pending other).map update
    else system.phase.pending other := by
    cases current : system.phase with
    | handshake waiting =>
      by_cases same : other = waiting
      · subst same
        by_cases named : other = key <;> simp [updateStream, current, pending, named]
      · simp [updateStream, current, pending, same]
    | parked | syncing | writing | cleaning | kicking => simp [updateStream, current, pending]
  have replies : (system.updateStream key update).phase.replies other = system.phase.replies other := by
    cases current : system.phase with
    | handshake waiting stream stage => cases stage <;> simp only [updateStream, current, replies]
    | parked | syncing | writing | cleaning | kicking => simp only [updateStream, current, replies]
  unfold lane
  rw [inFlight, pending, replies]
  by_cases same : other = key
  · subst same
    simp only [updateStream, KeyedMap.lookup_modify, ↓reduceIte, isSome_map]
    cases system.muxer.streams.lookup other <;> rfl
  · simp [updateStream, same]

/-- The two phases say the same about the key. -/
structure Agree (phase next : Phase) (key : ConnMapKey) : Prop where
  pending : next.pending key = phase.pending key
  replies : next.replies key = phase.replies key
  inFlight : next.inFlight key = phase.inFlight key

variable {key : ConnMapKey} {system : System} {condemned : Prop}

theorem Agree.rfl {phase : Phase} : Agree phase phase key := ⟨Eq.refl _, Eq.refl _, Eq.refl _⟩

/-- Phases other than `handshake` and `writing` say nothing about a key. -/
def Silent (phase : Phase) (key : ConnMapKey) : Prop :=
  phase.pending key = none ∧ phase.replies key = false ∧ phase.inFlight key = []

theorem Silent.agree {phase next : Phase} (before : Silent phase key) (after : Silent next key) :
    Agree phase next key :=
  ⟨after.1.trans before.1.symm, after.2.1.trans before.2.1.symm, after.2.2.trans before.2.2.symm⟩

theorem silent_parked (key : ConnMapKey) : Silent .parked key := ⟨rfl, rfl, rfl⟩

theorem silent_handshake {current : ConnMapKey} (stream : UnixStream)
    (stage : HandshakeStage) (other : ¬ key = current) : Silent (.handshake current stream stage) key := by
  refine ⟨by simp [pending, other], ?_, rfl⟩
  cases stage <;> simp [replies, other]

theorem laneStep_of_view {after : System} {event : Event}
    (streams : after.muxer.streams.lookup key = system.muxer.streams.lookup key)
    (agree : Agree system.phase after.phase key)
    (moved : LaneStep key condemned event (system.lane key)
    { system.lane key with view := after.device.view key }) :
    LaneStep key condemned event (system.lane key) (after.lane key) := by
  have same : after.lane key = { system.lane key with view := after.device.view key } := by
    simp only [lane, streams, agree.pending, agree.replies, agree.inFlight]
  rw [same]
  exact moved

theorem laneStep_rxKick {after : System} {rx : RxPass}
    (kicked : after.device = rxKick system.device rx)
    (streams : after.muxer.streams.lookup key = system.muxer.streams.lookup key)
    (agree : Agree system.phase after.phase key) :
    LaneStep key condemned (.kick rx) (system.lane key) (after.lane key) := by
  refine laneStep_of_view streams agree ?_
  rw [kicked]
  rcases view_rxKick system.device rx key with kept | filled
  · rw [kept]
    exact .same
  · rw [filled]
    exact .filled system.device rfl (.inr rfl)

theorem laneStep_beginSync {event : Event} (parked : system.phase = .parked)
    (device : VsockDevice) (view : device.view key = system.device.view key) :
    LaneStep key condemned event (system.lane key)
    ((beginSync { system with device := device }).lane key) := by
  refine laneStep_of_view rfl ?_ ?_
  · rw [parked]
    refine (silent_parked key).agree ?_
    unfold beginSync
    split <;> exact ⟨rfl, rfl, rfl⟩
  · change LaneStep key condemned event _ { system.lane key with view := device.view key }
    rw [view]
    exact .same

theorem clientWrites_lane (system : System) (target key : ConnMapKey) (data : List U8)
    (condemned : Prop) :
    LaneStep key condemned (.clientWrites target data) (system.lane key)
    ((system.clientWrites target data).lane key) := by
  rw [clientWrites, lane_updateStream]
  split
  · next same =>
      subst same
      generalize system.lane key = lane
      obtain ⟨view, stream, accepted, attached, inFlight⟩ := lane
      cases stream with
      | none => exact .same
      | some stream =>
        cases closed : stream.closed with
        | true => simp only [map_some, closed, ↓reduceIte]; exact .same
        | false =>
          have wrote : LaneStep key condemned (.clientWrites key data)
            ⟨view, some stream, accepted, attached, inFlight⟩ _ := .clientWrote rfl closed
          simpa [closed] using wrote
  · exact .same

theorem clientCloses_lane (system : System) (target key : ConnMapKey) (condemned : Prop) :
    LaneStep key condemned (.clientCloses target) (system.lane key)
    ((system.clientCloses target).lane key) := by
  rw [clientCloses, lane_updateStream]
  split
  · next same =>
      subst same
      generalize system.lane key = lane
      obtain ⟨view, stream, accepted, attached, inFlight⟩ := lane
      cases stream with
      | none => exact .same
      | some => exact .clientClosed rfl
  · exact .same

theorem reset_lane (system : System) (key : ConnMapKey) (condemned : Prop) :
    LaneStep key condemned .guestResets (system.lane key)
    ((system.withDevice system.device.reset).lane key) := by
  by_cases active : system.device.activated = true
  · have cleared : (system.withDevice system.device.reset).lane key = (system.lane key).withConn none := by
      simp [lane, withDevice, reset, view, active, Lane.withConn]
    exact cleared ▸ .reset
  · have kept : (system.withDevice system.device.reset).lane key = system.lane key := by
      simp [lane, withDevice, reset, view, active]
    exact kept ▸ .same

abbrev Moves (system : System) (key : ConnMapKey) (event : Event) : Lane → Prop :=
  LaneStep key (key ∈ system.phase.condemned) event (system.lane key)

theorem step_lane (sound : Sound system.muxer system.phase) (event : Event) (key : ConnMapKey) :
    LaneStep key (key ∈ system.phase.condemned) event (system.lane key) ((system.step event).lane key) := by
  have stepped := system.step_stepped event
  have unattached := sound.unattached key
  have carried := sound.carried key
  generalize system.step event = after at stepped ⊢
  cases stepped with
  | idle | activated => exact .same
  | transmitted => exact .transmitted system.device rfl
  | offered => exact .filled system.device rfl (.inl rfl)
  | reset => exact reset_lane system key _
  | clientWrote => exact clientWrites_lane system _ key _ _
  | clientClosed => exact clientCloses_lane system _ key _
  | exhausted refused =>
    obtain ⟨_, streams⟩ := allocatePort_error refused
    exact laneStep_of_view (by rw [streams]) .rfl .same
  | @opened handshake muxer target parked allocated =>
    obtain ⟨fresh, _, streams⟩ := allocatePort_ok allocated
    by_cases same : key = target
    · subst same
      have absent : system.muxer.streams.lookup key = none := by
        rw [← not_isSome_iff_eq_none]
        exact fun attached => fresh (sound.allocated key (.inl attached))
      have opened : system.Moves key (.accept handshake) _ :=
        .opened muxer.guestCid (by simp [lane, absent, parked, pending])
      simpa [Moves, lane, streams, absent, pending, replies, inFlight] using opened
    · refine laneStep_of_view (by rw [streams]) ?_ ?_
      · rw [parked]
        exact (silent_parked key).agree (silent_handshake _ _ same)
      · simp only [view_addConnection, same, ↓reduceIte]
        exact .same
  | @checked target stream stage current accepted =>
    by_cases replying : stage = .replying ∧ key = target
    · obtain ⟨rfl, rfl⟩ := replying
      have absent := unattached (by simp [current, pending])
      have checked : system.Moves key .check _ := .accepted (by simp [lane, absent]) (accepted rfl)
      simpa [Moves, lane, absent, current, pending, replies, inFlight] using checked
    · refine laneStep_of_view rfl ?_ .same
      rw [current]
      refine ⟨rfl, ?_, rfl⟩
      cases stage <;> simp_all [replies]
  | timedOut current | woken current =>
    refine laneStep_of_view rfl ?_ .same
    rw [current]
    exact ⟨rfl, rfl, rfl⟩
  | kickedNew current | kicked current =>
    refine laneStep_rxKick rfl rfl ?_
    rw [current]
    exact ⟨rfl, rfl, rfl⟩
  | @dropped target stream current =>
    by_cases same : key = target
    · subst same
      have absent := unattached (by simp [current, pending])
      have dropped : system.Moves key .abandon _ := .dropped (by simp [lane, absent])
      simpa [Moves, lane, absent, current, pending, replies, inFlight, Lane.withConn] using dropped
    · refine laneStep_of_view rfl ?_ ?_
      · rw [current]
        exact (silent_handshake _ _ same).agree (silent_parked key)
      · simp only [view_removeConnection, same, ↓reduceIte]
        exact .same
  | @attached target stream current =>
    by_cases same : key = target
    · subst same
      have absent := unattached (by simp [current, pending])
      have attached : system.Moves key (.reply true) _ :=
        .attached (by simp [lane, absent]) (by simp [lane, absent, current, pending])
          (by simp [lane, current, replies])
      simpa [Moves, lane, absent, current, pending, replies, inFlight] using attached
    · refine laneStep_of_view (by simp [same]) ?_ .same
      rw [current]
      exact (silent_handshake _ _ same).agree (silent_parked key)
  | @leaked target stream current =>
    by_cases same : key = target
    · subst same
      have absent := unattached (by simp [current, pending])
      have leaked : system.Moves key (.reply false) _ :=
        .leaked (by simp [lane, absent]) (by simp [lane, absent, current, pending])
      simpa [Moves, lane, absent, current, pending, replies, inFlight] using leaked
    · refine laneStep_of_view rfl ?_ .same
      rw [current]
      exact (silent_handshake _ _ same).agree (silent_parked key)
  | notified parked => exact laneStep_beginSync parked _ rfl
  | readable parked => exact laneStep_beginSync parked system.device rfl
  | @updated answers now current =>
    cases attached : system.muxer.streams.lookup key with
    | none =>
      have expired : system.Moves key (.readAndUpdate answers now) _ :=
        .expired (by simp [lane, attached, current, pending])
      simpa [Moves, lane, attached, current, pending, replies, inFlight,
        Lane.withConn, getD_txData, view_readAndUpdateDevice, Lane.unexpired] using expired
    | some stream =>
      have had : (system.lane key).stream = some stream := by simp [lane, attached]
      have updated : system.Moves key (.readAndUpdate answers now) _ :=
        .updated had (by simp [lane, attached]) (by simp [lane, current, inFlight])
      simpa [Moves, lane, attached, current, pending, replies, inFlight,
        Lane.withConn, getD_txData, view_readAndUpdateDevice, Lane.unexpired] using updated
  | @wrote answers plan current =>
    cases attached : system.muxer.streams.lookup key with
    | none =>
      refine laneStep_of_view ?_ ⟨?_, ?_, ?_⟩ .same
      · rw [lookup_streams_writeTxToStreams, attached]
        rfl
      · rw [current]
        rfl
      · rw [current]
        rfl
      · rw [carried attached]
        rfl
    | some stream =>
      have had : (system.lane key).stream = some stream := by simp [lane, attached]
      have relayed : system.Moves key (.write answers) _ := .relayed had (by simp [lane, attached])
      simpa [Moves, lane, attached, current, pending, replies, inFlight,
        lookup_streams_writeTxToStreams] using relayed
  | @cleaned deadKeys kick current =>
    have silent : Silent (if kick then kicking else .parked) key := by cases kick <;> exact ⟨rfl, rfl, rfl⟩
    by_cases dead : key ∈ deadKeys
    · have condemned : key ∈ system.phase.condemned := by simpa [current, condemned] using dead
      have attached := sound.condemned key condemned
      have was : (system.lane key).inFlight = [] := by simp [lane, current, inFlight]
      have cleaned : system.Moves key .cleanup _ := .cleaned condemned (by simpa [lane] using attached) was
      simp only [Lane.withConn, was] at cleaned
      simpa [Moves, lane, dead, silent.1, silent.2.1, silent.2.2, view_removeEach] using cleaned
    · refine laneStep_of_view (by simp [dead]) ?_ ?_
      · rw [current]
        exact Silent.agree ⟨rfl, rfl, rfl⟩ silent
      · simp only [view_removeEach, dead, ↓reduceIte]
        exact .same

end System
end Visor.Muxer
