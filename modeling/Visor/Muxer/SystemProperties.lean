import Visor.Muxer.VsockMuxer

/-! The transitions of the system, each with the phase it starts from, and what holds
of streams and ports in every state that the muxer reaches. -/

namespace Visor.Muxer
open Library Vsock VsockConnection Option VsockMuxer

/-! The muxer is one task: `phase` is where it stands between two accesses to what it
shares with others. Between any two of its steps the guest may notify its queues or
reset the device, and clients may write or close. An event that does not apply in the
current state changes nothing. -/

/-- Stages of `handle_new_connection` once the connection has been added. -/
inductive HandshakeStage where
  | kicking
  | checking
  | waiting
  | dropping
  | replying
deriving DecidableEq

/-- Where the muxer task stands. It waits for its next event in `parked`. -/
inductive Phase where
  | parked
  | handshake (key : ConnMapKey) (stream : UnixStream) (stage : HandshakeStage)
  | syncing
  | writing (plan : SyncPlan)
  | cleaning (deadKeys : List ConnMapKey) (kick : Bool)
  | kicking

structure System where
  device : VsockDevice
  muxer : VsockMuxer
  phase : Phase

inductive Event where
  | guestTransmits (tx : TxPass) (rx : RxPass)
  | guestOffers (rx : RxPass)
  | guestActivates
  | guestResets
  | clientWrites (key : ConnMapKey) (data : List U8)
  | clientCloses (key : ConnMapKey)
  | accept (handshake : HandshakeRead)
  | kick (rx : RxPass)
  | check
  | wake
  | timeout
  | abandon
  | reply (delivered : Bool)
  | notified
  | readable
  | readAndUpdate (answers : ConnMapKey → IoAnswer) (now : Nat)
  | write (answers : ConnMapKey → IoAnswer)
  | cleanup

namespace System
def start (guestCid : U64) : System where
  device := .new guestCid
  muxer := .new guestCid
  phase := .parked

variable (system : System) (answers : ConnMapKey → IoAnswer) (key : ConnMapKey)
  (device : VsockDevice)

/-- Act on the stream of a key, also while its handshake is under way. -/
def updateStream (update : UnixStream → UnixStream) : System :=
  { system with
    muxer := { system.muxer with streams := system.muxer.streams.modify key update }
    phase :=
      match system.phase with
      | .handshake pending stream stage =>
        .handshake pending (if pending = key then update stream else stream) stage
      | phase => phase }

def clientWrites (data : List U8) : System :=
  system.updateStream key fun stream => if stream.closed then stream else
    { stream with unread := stream.unread ++ data }

def clientCloses : System := system.updateStream key fun stream => { stream with closed := true }

/-- Take a client: handshake, local port, and a connection in the device. -/
def accept (handshake : HandshakeRead) : System :=
  match system.phase with
  | .parked =>
      if system.muxer.streams.keys.length ≥ maxConnections then system
      else
        match readConnectHandshake handshake with
        | .error _ => system
        | .ok peerPort =>
            match system.muxer.allocatePort with
            | (muxer, .error _) => { system with muxer := muxer }
            | (muxer, .ok localPort) =>
                let key : ConnMapKey := ⟨localPort, peerPort⟩
                { device := system.device.addConnection key
                    (.newLocalInit hostCid muxer.guestCid localPort peerPort)
                  muxer := muxer
                  phase := .handshake key {} .kicking }
  | _ => system

def rxKick (rx : RxPass) : VsockDevice :=
  if device.activated then device.fill rx else device

def kick (rx : RxPass) : System :=
  match system.phase with
  | .handshake key stream .kicking =>
      { system with
        device := rxKick system.device rx
        phase := .handshake key stream .checking }
  | .kicking => { system with device := rxKick system.device rx, phase := .parked }
  | _ => system

def check : System :=
  match system.phase with
  | .handshake key stream .checking =>
      let stage : HandshakeStage :=
        match (system.device.connections.lookup key).map state with
        | some .established => .replying
        | some .killed | none => .dropping
        | some _ => .waiting
      { system with phase := .handshake key stream stage }
  | _ => system

def consumePermit : VsockDevice := { device with txPermit := false }

def wake : System :=
  match system.phase with
  | .handshake key stream .waiting =>
      if system.device.txPermit then
        { system with
          device := consumePermit system.device
          phase := .handshake key stream .checking }
      else system
  | _ => system

def timeout : System :=
  match system.phase with
  | .handshake key stream .waiting => { system with phase := .handshake key stream .dropping }
  | _ => system

def abandon : System :=
  match system.phase with
  | .handshake key _ .dropping =>
      let (muxer, device) := system.muxer.dropPendingConnection system.device key
      { device := device, muxer := muxer, phase := .parked }
  | _ => system

/-- Answer `OK`. If the client is gone, the error is returned at once. -/
def reply (delivered : Bool) : System :=
  match system.phase with
  | .handshake key stream .replying =>
      if delivered then
        { system with
          muxer := { system.muxer with streams := system.muxer.streams.insert key stream }
          phase := .parked }
      else { system with phase := .parked }
  | _ => system

def beginSync : System :=
  { system with phase := if system.muxer.streams.keys.isEmpty then .parked else .syncing }

def notified : System :=
  match system.phase with
  | .parked =>
      if system.device.txPermit then
        beginSync { system with device := consumePermit system.device }
      else system
  | _ => system

def readable : System :=
  match system.phase with
  | .parked => system.beginSync
  | _ => system

def readAndUpdate (now : Nat) : System :=
  match system.phase with
  | .syncing =>
      let (muxer, device, plan) := system.muxer.readAndUpdateDevice system.device answers now
      { device := device, muxer := muxer, phase := .writing plan }
  | _ => system

def write : System :=
  match system.phase with
  | .writing plan =>
      let (muxer, deadKeys) := system.muxer.writeTxToStreams plan answers
      { system with muxer := muxer, phase := .cleaning deadKeys plan.kick }
  | _ => system

def cleanup : System :=
  match system.phase with
  | .cleaning deadKeys kick =>
      let (muxer, device) := system.muxer.cleanupDeadConnections system.device deadKeys
      { device := device, muxer := muxer, phase := if kick then .kicking else .parked }
  | _ => system

def withDevice : System := { system with device := device }

def step (system : System) : Event → System
  | .guestTransmits tx rx => system.withDevice (system.device.processTx tx rx)
  | .guestOffers rx => system.withDevice (system.device.fill rx)
  | .guestActivates => system.withDevice { system.device with activated := true }
  | .guestResets => system.withDevice system.device.reset
  | .clientWrites key data => system.clientWrites key data
  | .clientCloses key => system.clientCloses key
  | .accept handshake => system.accept handshake
  | .kick rx => system.kick rx
  | .check => system.check
  | .wake => system.wake
  | .timeout => system.timeout
  | .abandon => system.abandon
  | .reply delivered => system.reply delivered
  | .notified => system.notified
  | .readable => system.readable
  | .readAndUpdate answers now => system.readAndUpdate answers now
  | .write answers => system.write answers
  | .cleanup => system.cleanup

def firstKey : ConnMapKey := ⟨localPortStart, 5⟩

def firstPkt (op : VsockOp) (payload : List U8) : VsockPacket × List U8 :=
  ({ srcCid := 3
     dstCid := hostCid
     srcPort := firstKey.peerPort
     dstPort := firstKey.localPort
     len := BitVec.ofNat 32 payload.length
     pktType := vsockTypeStream
     op := op.toU16
     flags := 0
     bufAlloc := connTxBufSize
     fwdCnt := 0 }, payload)

def guestSends (packets : List (VsockPacket × List U8)) : Event :=
  .guestTransmits ⟨packets, true, 0⟩ ⟨[], [], 0⟩

def firstRequest : List Event :=
  [.guestActivates, .accept (.line "CONNECT 5\n".toList), .kick ⟨[⟨0, true, true⟩], [], 0⟩]

def firstConnection : List Event :=
  firstRequest ++ [guestSends [firstPkt .response []], .check, .reply true]

end System

open VsockMuxer
namespace Phase
variable (phase : Phase) (key : ConnMapKey)

/-- The stream whose handshake is under way, if it is for this key. -/
def pending : Option UnixStream :=
  match phase with
  | .handshake current stream _ => if key = current then some stream else none
  | _ => none

/-- The muxer has seen the guest accept the connection, and is about to say so. -/
def replies : Bool :=
  match phase with
  | .handshake current _ .replying => decide (key = current)
  | _ => false

/-- Bytes taken from a connection that its stream has not been offered yet. -/
def inFlight : List U8 :=
  match phase with
  | .writing plan => (plan.txData.lookup key).getD []
  | _ => []

def condemned : List ConnMapKey :=
  match phase with
  | .writing plan => plan.deadKeys
  | .cleaning deadKeys _ => deadKeys
  | _ => []

end Phase

namespace System
section
variable (system : System)

inductive Stepped : Event → System → Prop where
  | idle {event : Event} : Stepped event system
  | transmitted {tx : TxPass} {rx : RxPass} :
    Stepped (.guestTransmits tx rx) (system.withDevice (system.device.processTx tx rx))
  | offered {rx : RxPass} : Stepped (.guestOffers rx) (system.withDevice (system.device.fill rx))
  | activated : Stepped .guestActivates (system.withDevice { system.device with activated := true })
  | reset : Stepped .guestResets (system.withDevice system.device.reset)
  | clientWrote {key : ConnMapKey} {data : List U8} :
    Stepped (.clientWrites key data) (system.clientWrites key data)
  | clientClosed {key : ConnMapKey} : Stepped (.clientCloses key) (system.clientCloses key)
  | exhausted {handshake : HandshakeRead} {muxer : VsockMuxer} {error : MuxerError}
      (refused : system.muxer.allocatePort = (muxer, .error error)) :
        Stepped (.accept handshake) { system with muxer := muxer }
  | opened {handshake : HandshakeRead} {muxer : VsockMuxer} {key : ConnMapKey}
    (parked : system.phase = .parked)
      (allocated : system.muxer.allocatePort = (muxer, .ok key.localPort)) : Stepped (.accept handshake)
        { device := system.device.addConnection key
            (.newLocalInit hostCid muxer.guestCid key.localPort key.peerPort)
          muxer := muxer
          phase := .handshake key {} .kicking }
  | checked {key : ConnMapKey} {stream : UnixStream} {after : HandshakeStage}
    (current : system.phase = .handshake key stream .checking)
      (accepted : after = .replying → (system.device.connections.lookup key).map state =
        some .established) :
      Stepped .check { system with phase := .handshake key stream after }
  | timedOut {key : ConnMapKey} {stream : UnixStream}
    (current : system.phase = .handshake key stream .waiting) :
      Stepped .timeout { system with phase := .handshake key stream .dropping }
  | kickedNew {rx : RxPass} {key : ConnMapKey} {stream : UnixStream}
      (current : system.phase = .handshake key stream .kicking) : Stepped (.kick rx)
        { system with
          device := rxKick system.device rx
          phase := .handshake key stream .checking }
  | kicked {rx : RxPass} (current : system.phase = .kicking) : Stepped (.kick rx)
        { system with device := rxKick system.device rx, phase := .parked }
  | woken {key : ConnMapKey} {stream : UnixStream} (current : system.phase = .handshake key stream .waiting)
      (permit : system.device.txPermit = true) : Stepped .wake
        { system with
          device := consumePermit system.device
          phase := .handshake key stream .checking }
  | dropped {key : ConnMapKey} {stream : UnixStream}
    (current : system.phase = .handshake key stream .dropping) : Stepped .abandon
        { device := system.device.removeConnection key
          muxer := { system.muxer with
            allocatedPorts := system.muxer.allocatedPorts.erase key.localPort }
          phase := .parked }
  | attached {key : ConnMapKey} {stream : UnixStream}
    (current : system.phase = .handshake key stream .replying) : Stepped (.reply true)
        { system with
          muxer := { system.muxer with streams := system.muxer.streams.insert key stream }
          phase := .parked }
  | leaked {key : ConnMapKey} {stream : UnixStream}
      (current : system.phase = .handshake key stream .replying) :
        Stepped (.reply false) { system with phase := .parked }
  | notified (parked : system.phase = .parked) (permit : system.device.txPermit = true) : Stepped .notified
        (beginSync { system with device := consumePermit system.device })
  | readable (parked : system.phase = .parked) : Stepped .readable system.beginSync
  | updated {answers : ConnMapKey → IoAnswer} {now : Nat} (current : system.phase = .syncing) :
    Stepped (.readAndUpdate answers now)
        { device := (system.muxer.readAndUpdateDevice system.device answers now).2.1
          muxer := (system.muxer.readAndUpdateDevice system.device answers now).1
          phase := .writing (system.muxer.readAndUpdateDevice system.device answers now).2.2 }
  | wrote {answers : ConnMapKey → IoAnswer} {plan : SyncPlan}
    (current : system.phase = .writing plan) : Stepped (.write answers)
        { system with
          muxer := (system.muxer.writeTxToStreams plan answers).1
          phase := .cleaning (system.muxer.writeTxToStreams plan answers).2 plan.kick }
  | cleaned {deadKeys : List ConnMapKey} {kick : Bool}
    (current : system.phase = .cleaning deadKeys kick) : Stepped .cleanup
        { device := deadKeys.foldl VsockDevice.removeConnection system.device
          muxer := system.muxer.forget deadKeys
          phase := if kick then .kicking else .parked }

end

theorem accept_stepped (system : System) (handshake : HandshakeRead) :
    Stepped system (.accept handshake) (system.accept handshake) := by
  unfold accept
  split
  · next parked =>
      split
      · exact .idle
      · split
        · exact .idle
        · split
          · next refused => exact .exhausted refused
          · next allocated => exact .opened parked allocated
  · exact .idle

theorem step_stepped (system : System) (event : Event) : Stepped system event (system.step event) := by
  cases event with
  | guestTransmits => exact .transmitted
  | guestOffers => exact .offered
  | guestActivates => exact .activated
  | guestResets => exact .reset
  | clientWrites => exact .clientWrote
  | clientCloses => exact .clientClosed
  | accept handshake => exact accept_stepped system handshake
  | kick =>
    simp only [step, kick]
    split
    · next current => exact .kickedNew current
    · next current => exact .kicked current
    · exact .idle
  | check =>
    simp only [step, check]
    split
    · next current =>
        refine .checked current fun accepted => ?_
        split at accepted
        · assumption
        · cases accepted
        · cases accepted
        · cases accepted
    · exact .idle
  | wake =>
    simp only [step, wake]
    split
    · next current =>
        split
        · next permit => exact .woken current permit
        · exact .idle
    · exact .idle
  | timeout =>
    simp only [step, timeout]
    split
    · next current => exact .timedOut current
    · exact .idle
  | abandon =>
    simp only [step, abandon]
    split
    · next current => exact .dropped current
    · exact .idle
  | reply delivered =>
    simp only [step, reply]
    split
    · next current =>
        cases delivered with
        | true => exact .attached current
        | false => exact .leaked current
    · exact .idle
  | notified =>
    simp only [step, notified]
    split
    · next parked =>
        split
        · next permit => exact .notified parked permit
        · exact .idle
    · exact .idle
  | readable =>
    simp only [step, readable]
    split
    · next parked => exact .readable parked
    · exact .idle
  | readAndUpdate =>
    simp only [step, readAndUpdate]
    split
    · next current => exact .updated current
    · exact .idle
  | write =>
    simp only [step, write]
    split
    · next current => exact .wrote current
    · exact .idle
  | cleanup =>
    simp only [step, cleanup]
    split
    · next current => exact .cleaned current
    · exact .idle

/-- The key has a stream, or one that is still in its handshake. -/
def Holds (muxer : VsockMuxer) (phase : Phase) (key : ConnMapKey) : Prop :=
  (muxer.streams.lookup key).isSome = true ∨ (phase.pending key).isSome = true

structure Sound (muxer : VsockMuxer) (phase : Phase) : Prop where
  allocated : ∀ key, Holds muxer phase key → key.localPort ∈ muxer.allocatedPorts
  distinct : ∀ first second, Holds muxer phase first → Holds muxer phase second →
    first.localPort = second.localPort → first = second
  unattached : ∀ key, (phase.pending key).isSome = true → muxer.streams.lookup key = none
  condemned : ∀ key ∈ phase.condemned, (muxer.streams.lookup key).isSome = true
  carried : ∀ key, muxer.streams.lookup key = none → phase.inFlight key = []

/-- Phases in which a key has no part other than its handshake. -/
def Quiet (phase : Phase) : Prop := phase.condemned = [] ∧ ∀ key, phase.inFlight key = []

variable {muxer after : VsockMuxer} {phase next : Phase} {system : System}

theorem Sound.shrink (sound : Sound muxer phase)
    (held : ∀ key, Holds after next key → Holds muxer phase key ∧
      key.localPort ∈ after.allocatedPorts)
    (unattached : ∀ key, (next.pending key).isSome = true → after.streams.lookup key = none)
    (quiet : Quiet next) : Sound after next where
  allocated key holds := (held key holds).2
  distinct first second holdsFirst holdsSecond :=
    sound.distinct first second (held first holdsFirst).1 (held second holdsSecond).1
  unattached := unattached
  condemned key member := by simp [quiet.1] at member
  carried key _ := quiet.2 key

theorem Sound.same (sound : Sound muxer phase)
    (streams : ∀ key, (after.streams.lookup key).isSome = (muxer.streams.lookup key).isSome)
    (ports : after.allocatedPorts = muxer.allocatedPorts)
    (pending : ∀ key, (next.pending key).isSome = true → (phase.pending key).isSome = true)
    (condemned : ∀ key ∈ next.condemned, (muxer.streams.lookup key).isSome = true)
    (carried : ∀ key, muxer.streams.lookup key = none → next.inFlight key = []) : Sound after next := by
  have absent : ∀ key, after.streams.lookup key = none ↔ muxer.streams.lookup key = none := by
    intro key
    rw [← not_isSome_iff_eq_none, streams key, not_isSome_iff_eq_none]
  have held : ∀ key, Holds after next key → Holds muxer phase key := by
    rintro key (attached | waiting)
    · exact .inl (by rwa [← streams key])
    · exact .inr (pending key waiting)
  exact {
    allocated := fun key holds => ports ▸ sound.allocated key (held key holds)
    distinct := fun first second holdsFirst holdsSecond =>
      sound.distinct first second (held first holdsFirst) (held second holdsSecond)
    unattached := fun key waiting => (absent key).mpr (sound.unattached key (pending key waiting))
    condemned := fun key member => by rw [streams key]; exact condemned key member
    carried := fun key gone => carried key ((absent key).mp gone) }

theorem sound_start (guestCid : U64) : Sound (start guestCid).muxer (start guestCid).phase where
  allocated key holds := by simp [Holds, start, new, Phase.pending] at holds
  distinct first second holds := by simp [Holds, start, new, Phase.pending] at holds
  unattached key waiting := by simp [start, Phase.pending] at waiting
  condemned key member := by simp [start, Phase.condemned] at member
  carried key _ := rfl

theorem Sound.updateStream (sound : Sound system.muxer system.phase) (key : ConnMapKey)
    (update : UnixStream → UnixStream) :
    Sound (system.updateStream key update).muxer (system.updateStream key update).phase := by
  refine sound.same ?_ rfl ?_ ?_ ?_
  · intro other
    by_cases same : other = key
    · subst same
      simp [System.updateStream]
    · simp [System.updateStream, same]
  · intro other waiting
    cases current :
      system.phase <;> simp only [System.updateStream, current, Phase.pending] at waiting ⊢ <;> simp_all
  · intro other member
    refine sound.condemned other ?_
    cases current : system.phase <;> simpa only [System.updateStream, current, Phase.condemned] using member
  · intro other gone
    have carried := sound.carried other gone
    cases current : system.phase <;> simp_all only [System.updateStream, Phase.inFlight]

theorem Sound.opened {key : ConnMapKey} {stream : UnixStream} {stage : HandshakeStage}
    (sound : Sound muxer .parked) (allocated : muxer.allocatePort = (after, .ok key.localPort)) :
    Sound after (.handshake key stream stage) := by
  obtain ⟨fresh, ports, streams⟩ := allocatePort_ok allocated
  have held : ∀ other, Holds after (.handshake key stream stage) other → other = key ∨
    Holds muxer .parked other := by
    rintro other (attached | waiting)
    · exact .inr (.inl (streams ▸ attached))
    · by_cases same : other = key
      · exact .inl same
      · simp [Phase.pending, same] at waiting
  have notFresh : ∀ other, Holds muxer .parked other → other.localPort ≠ key.localPort :=
    fun other holds same => fresh (same ▸ sound.allocated other holds)
  refine {
    allocated := fun other holds => ?_
    distinct := fun first second holdsFirst holdsSecond same => ?_
    unattached := fun other waiting => ?_
    condemned := fun other member => by simp [Phase.condemned] at member
    carried := fun other _ => rfl }
  · rw [ports, Finset.mem_insert]
    rcases held other holds with rfl | before
    · exact .inl rfl
    · exact .inr (sound.allocated other before)
  · rcases held first holdsFirst with rfl | beforeFirst
    · rcases held second holdsSecond with rfl | beforeSecond
      · rfl
      · exact absurd same.symm (notFresh second beforeSecond)
    · rcases held second holdsSecond with rfl | beforeSecond
      · exact absurd same (notFresh first beforeFirst)
      · exact sound.distinct first second beforeFirst beforeSecond same
  · by_cases same : other = key
    · subst same
      rw [streams, ← not_isSome_iff_eq_none]
      exact fun attached => notFresh other (.inl attached) rfl
    · simp [Phase.pending, same] at waiting

theorem Sound.release (sound : Sound muxer phase) (keys : List ConnMapKey)
    (released : ∀ key ∈ keys, Holds muxer phase key)
    (held : ∀ key, Holds after next key → Holds muxer phase key ∧ key ∉ keys)
    (ports : ∀ port, port ∈ muxer.allocatedPorts → (∀ key ∈ keys, key.localPort ≠ port) →
      port ∈ after.allocatedPorts) (idle : ∀ key, next.pending key = none)
    (quiet : Quiet next) : Sound after next := by
  refine sound.shrink (fun key holds => ?_) (fun key waiting => ?_) quiet
  · obtain ⟨before, kept⟩ := held key holds
    refine ⟨before, ports _ (sound.allocated key before) fun other member same => kept ?_⟩
    exact sound.distinct other key (released other member) before same ▸ member
  · simp [idle key] at waiting

theorem quiet_parked : Quiet .parked := ⟨rfl, fun _ => rfl⟩

theorem Sound.beginSync (sound : Sound system.muxer system.phase) :
    Sound system.beginSync.muxer system.beginSync.phase := by
  have idle : ∀ key, system.beginSync.phase.pending key = none := by
    intro key
    unfold System.beginSync
    split <;> rfl
  refine sound.shrink (fun key holds => ?_) (fun key waiting => by simp [idle key] at waiting) ?_
  · rcases holds with attached | waiting
    · exact ⟨.inl attached, sound.allocated key (.inl attached)⟩
    · simp [idle key] at waiting
  · unfold System.beginSync
    split <;> exact ⟨rfl, fun _ => rfl⟩

theorem sound_step (sound : Sound system.muxer system.phase) (event : Event) :
    Sound (system.step event).muxer (system.step event).phase := by
  have stepped := system.step_stepped event
  generalize system.step event = after at stepped ⊢
  cases stepped with
  | idle | transmitted | offered | activated | reset => exact sound
  | clientWrote | clientClosed => exact sound.updateStream _ _
  | exhausted refused =>
    obtain ⟨ports, streams⟩ := allocatePort_error refused
    exact sound.same (fun key => by rw [streams]) ports (fun key waiting => waiting) sound.condemned
      sound.carried
  | opened parked allocated =>
    rw [parked] at sound
    exact sound.opened allocated
  | checked current | timedOut current | kickedNew current | woken current =>
    refine sound.same (fun key => rfl) rfl (fun key waiting => ?_)
      (fun key member => by simp [Phase.condemned] at member) (fun key _ => rfl)
    rw [current]
    exact waiting
  | kicked | leaked =>
    exact sound.same (fun key => rfl) rfl
      (fun key waiting => by simp [Phase.pending] at waiting)
      (fun key member => by simp [Phase.condemned] at member) (fun key _ => rfl)
  | @dropped key stream current =>
    refine sound.release [key] ?_ ?_ ?_ (fun key => rfl) quiet_parked
    · simp [Holds, current, Phase.pending]
    · rintro other (attached | waiting)
      · refine ⟨.inl attached, fun member => ?_⟩
        rw [List.mem_singleton.mp member] at attached
        rw [sound.unattached key (by simp [current, Phase.pending])] at attached
        cases attached
      · simp [Phase.pending] at waiting
    · intro port member kept
      exact Finset.mem_erase.mpr ⟨(kept key (.head _)).symm, member⟩
  | @attached key stream current =>
    refine sound.shrink (fun other holds => ?_)
      (fun other waiting => by simp [Phase.pending] at waiting) quiet_parked
    have before : Holds system.muxer system.phase other := by
      rcases holds with attached | waiting
      · by_cases same : other = key
        · exact .inr (by simp [current, Phase.pending, same])
        · exact .inl (by simpa [same] using attached)
      · simp [Phase.pending] at waiting
    exact ⟨before, sound.allocated other before⟩
  | notified => exact Sound.beginSync sound
  | readable => exact sound.beginSync
  | updated =>
    refine sound.same ?_ rfl (fun key waiting => by simp [Phase.pending] at waiting) ?_ ?_
    · intro key
      simp
    · intro key dead
      exact deadKeys_attached dead
    · intro key gone
      simp [Phase.inFlight, getD_txData, gone]
  | wrote current =>
    refine sound.same ?_ rfl (fun key waiting => by simp [Phase.pending] at waiting) ?_ (fun key _ => rfl)
    · intro key
      simp [lookup_streams_writeTxToStreams]
    · intro key dead
      rcases deadKeys_writeTxToStreams dead with planned | attached
      · exact sound.condemned key (by simpa [current, Phase.condemned] using planned)
      · exact attached
  | @cleaned deadKeys kick current =>
    have idle : ∀ key, (if kick then Phase.kicking else .parked).pending key = none := by
      intro key
      cases kick <;> rfl
    refine sound.release deadKeys ?_ ?_ ?_ idle (by cases kick <;> exact ⟨rfl, fun _ => rfl⟩)
    · intro key dead
      exact .inl (sound.condemned key (by simpa [current, Phase.condemned] using dead))
    · rintro key (attached | waiting)
      · rw [lookup_streams_forget] at attached
        split at attached
        · cases attached
        · next kept => exact ⟨.inl attached, kept⟩
      · simp [idle key] at waiting
    · intro port member kept
      exact (mem_allocatedPorts_forget _ _ _).mpr ⟨member, kept⟩

end System
end Visor.Muxer
