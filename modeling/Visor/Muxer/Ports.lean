import Visor.Library.Run
import Visor.Muxer.Lane

/-! The search goes once around the range. It ends at the first port that is free, and fails when it
is back at its start, which is when it has used up its attempts. -/

namespace Visor.Muxer
open Library Vsock VsockMuxer Muxer.System Phase List KeyedMap

/-! Agreement of the muxer's tables with the device. A client that is gone when the
answer is written leaves its port and its connection behind; every other way out of a
handshake, and every close, undoes what was done. -/

def inPortRange (port : U32) : Prop := localPortStart ≤ port ∧ port < localPortEnd
deriving Decidable

namespace LaneStep
variable {key : ConnMapKey} {condemned : Prop} {event : Event} {lane next : Lane}

theorem stream_kept (moved : LaneStep key condemned event lane next) (has : lane.stream.isSome = true) :
    next.stream.isSome = true ∨ event = .abandon ∨ event = .reply false ∨ event = .cleanup := by
  cases moved with
  | same | transmitted | filled | reset | accepted | attached | expired => exact .inl has
  | clientWrote | clientClosed | opened | updated | relayed => exact .inl rfl
  | dropped => exact .inr (.inl rfl)
  | leaked => exact .inr (.inr (.inl rfl))
  | cleaned => exact .inr (.inr (.inr rfl))

end LaneStep

namespace System
variable (system : System)

theorem holds_iff (key : ConnMapKey) :
    Holds system.muxer system.phase key ↔ (system.lane key).stream.isSome = true := by
  simp [Holds, lane]

/-- At the points where the muxer waits for its next event, the ports in use are those of
its streams, and every connection on a port of the range has a stream. -/
def TablesAgree : Prop :=
  system.phase = .parked →
    system.muxer.allocatedPorts = (system.muxer.streams.keys.map ConnMapKey.localPort).toFinset ∧
      ∀ key ∈ system.device.connections.keys, inPortRange key.localPort → key ∈ system.muxer.streams.keys

/-- Steps of the runs considered: the answer reaches the client, and the guest does not
open connections to the ports of the range. -/

def Undoes (_ : System) : Event → Prop
  | .reply delivered => delivered = true
  | .guestTransmits tx _ =>
    ∀ packet ∈ tx.packets, VsockOp.fromU16 packet.1.op = some .request → ¬ inPortRange packet.1.dstPort
  | _ => True

instance (event : Event) : Decidable (system.Undoes event) :=
  by rcases event with _ | _ <;> (unfold Undoes; infer_instance)

structure TablesInvariant (system : System) : Prop where
  sound : Sound system.muxer system.phase
  ports : ∀ port ∈ system.muxer.allocatedPorts, ∃ key, (system.lane key).stream.isSome = true ∧
    key.localPort = port
  connections : ∀ key, inPortRange key.localPort → (system.lane key).view.conn.isSome = true →
    (system.lane key).stream.isSome = true

theorem tablesInvariant_start (guestCid : U64) : TablesInvariant (start guestCid) where
  sound := sound_start guestCid
  ports port member := by simp [start, new] at member
  connections key _ present := by simp [lane, start, VsockDevice.new] at present

section
variable {system : System} {event : Event} (invariant : TablesInvariant system)
  (undoes : Undoes system event)
include invariant undoes

theorem ports_step : ∀ port ∈ (system.step event).muxer.allocatedPorts,
    ∃ key, ((system.step event).lane key).stream.isSome = true ∧ key.localPort = port := by
  have stepped := system.step_stepped event
  have moved := fun key => step_lane invariant.sound event key
  generalize system.step event = after at stepped moved ⊢
  intro port member
  -- Steps that free no port take no stream away either.
  have unchanged : port ∈ system.muxer.allocatedPorts →
    event ≠ .abandon → event ≠ .reply false → event ≠ .cleanup →
    ∃ key, (after.lane key).stream.isSome = true ∧ key.localPort = port := by
    intro before notAbandon notLeak notCleanup
    obtain ⟨key, has, same⟩ := invariant.ports port before
    rcases (moved key).stream_kept has with kept | impossible | impossible | impossible
    · exact ⟨key, kept, same⟩
    · exact absurd impossible notAbandon
    · exact absurd impossible notLeak
    · exact absurd impossible notCleanup
  cases stepped with
  | idle => exact invariant.ports port member
  | transmitted | offered | activated | reset | clientWrote | clientClosed | checked
  | timedOut | kickedNew | kicked | woken | attached | notified | readable | updated | wrote =>
    exact unchanged member nofun nofun nofun
  | exhausted refused =>
    rw [(allocatePort_error refused).1] at member
    exact unchanged member nofun nofun nofun
  | @opened handshake muxer key parked allocated =>
    rw [(allocatePort_ok allocated).2.1, Finset.mem_insert] at member
    rcases member with rfl | before
    · exact ⟨key, by simp [lane, pending], rfl⟩
    · exact unchanged before nofun nofun nofun
  | leaked => exact absurd undoes (by simp [Undoes])
  | @dropped key stream current =>
    obtain ⟨other, before⟩ := Finset.mem_erase.mp member
    obtain ⟨holder, has, same⟩ := invariant.ports port before
    have distinct : holder ≠ key := by
      rintro rfl
      exact other same.symm
    refine ⟨holder, ?_, same⟩
    simpa [lane, current, pending, distinct] using has
  | @cleaned deadKeys kick current =>
    obtain ⟨before, kept⟩ := (mem_allocatedPorts_forget _ _ _).mp member
    obtain ⟨holder, has, same⟩ := invariant.ports port before
    have alive : holder ∉ deadKeys := fun dead => kept holder dead same
    refine ⟨holder, ?_, same⟩
    simp only [lane, current, pending, Option.or_none] at has
    simp [lane, alive, has]

theorem connections_step (key : ConnMapKey) (ranged : inPortRange key.localPort)
    (present : ((system.step event).lane key).view.conn.isSome = true) :
    ((system.step event).lane key).stream.isSome = true := by
  have moved := step_lane invariant.sound event key
  have before := invariant.connections key ranged
  generalize (system.step event).lane key = next at moved present ⊢
  generalize system.lane key = lane at moved before
  cases moved with
  | same | accepted | attached => exact before present
  | @transmitted tx rx _ device was =>
    refine before ?_
    rw [← was]
    refine VsockDevice.present_of_transmit (fun packet member mine isRequest => ?_)
      (VsockDevice.present_of_fill present)
    rw [← mine] at ranged
    exact undoes packet member isRequest ranged
  | @filled _ rx _ device was pass =>
    refine before ?_
    rw [← was]
    exact VsockDevice.present_of_fill present
  | reset | dropped | cleaned => cases present
  | clientWrote | clientClosed | opened | updated | relayed => rfl
  | leaked => cases undoes
  | @expired answers now _ absent =>
    refine before ?_
    simp only [Lane.withConn, Lane.unexpired] at present
    exact Option.isSome_of_isSome_filter _ _ present

theorem TablesInvariant.step : TablesInvariant (system.step event) where
  sound := sound_step invariant.sound event
  ports := ports_step invariant undoes
  connections := connections_step invariant undoes

end

theorem TablesInvariant.tablesAgree {system : System} (invariant : TablesInvariant system) :
    TablesAgree system := by
  intro parked
  have attached : ∀ key, (system.lane key).stream.isSome = true ↔ key ∈ system.muxer.streams.keys := by
    intro key
    simp [lane, parked, pending, mem_keys_iff]
  refine ⟨?_, fun key present ranged => ?_⟩
  · ext port
    simp only [mem_toFinset, mem_map, ← attached]
    constructor
    · exact invariant.ports port
    · rintro ⟨key, has, rfl⟩
      exact invariant.sound.allocated key ((holds_iff _ _).mpr has)
  · rw [← attached]
    exact invariant.connections key ranged ((mem_keys_iff _ _).mp present)

/-- While answers reach their clients, no port, stream or connection is left behind. -/
theorem tablesAgree_throughout (guestCid : U64) (events : List Event)
    (admitted : Along step Undoes (start guestCid) events) :
    Throughout step TablesAgree (start guestCid) events :=
  throughout_of_invariant TablesInvariant
    (fun _ _ invariant undoes => invariant.step undoes)
    (fun _ invariant => invariant.tablesAgree)
    (tablesInvariant_start guestCid) admitted

def closeFirst : List Event :=
  [.clientCloses firstKey, .readable, .readAndUpdate (fun _ => .upTo 1) 0, .write fun _ =>
    .upTo 0, .cleanup]

theorem tablesAgree_after_close : Throughout step TablesAgree (start 3) (firstConnection ++ closeFirst) ∧
    (run step (start 3) firstConnection).muxer.allocatedPorts = {localPortStart} ∧
    (run step (start 3) (firstConnection ++ closeFirst)).muxer.allocatedPorts = ∅ :=
  ⟨tablesAgree_throughout 3 (firstConnection ++ closeFirst)
    (by decide +kernel), by decide +kernel, by decide +kernel⟩

/-- A client that is gone when the answer is written leaves a port and a connection. -/
theorem tables_disagree_when_client_gone : ¬ Throughout step TablesAgree (start 3)
    (firstRequest ++ [guestSends [firstPkt .response []], .check, .reply false]) := by
  intro holds
  rw [throughout_iff_prefixes] at holds
  exact absurd (holds _ prefix_rfl rfl).1 (by decide +kernel)

end System

def portAt (start : U32) (turn : Nat) : U32 :=
  BitVec.ofNat 32 (2 ^ 30 + (start.toNat - 2 ^ 30 + turn) % 2 ^ 30)

theorem inPortRange_iff (port : U32) : inPortRange port ↔ 2 ^ 30 ≤ port.toNat ∧ port.toNat < 2 ^ 31 :=
  Iff.rfl

theorem toNat_portAt (start : U32) (turn : Nat) :
    (portAt start turn).toNat = 2 ^ 30 + (start.toNat - 2 ^ 30 + turn) % 2 ^ 30 := by
  rw [portAt, BitVec.toNat_ofNat]
  omega

theorem inPortRange_portAt (start : U32) (turn : Nat) : inPortRange (portAt start turn) := by
  rw [inPortRange_iff, toNat_portAt]
  omega

theorem portAfter_portAt (start : U32) (turn : Nat) :
    portAfter (portAt start turn) = portAt start (turn + 1) := by
  have here := toNat_portAt start turn
  have next : (portAt start turn + 1).toNat = (portAt start turn).toNat + 1 := by
    rw [BitVec.toNat_add]
    change ((portAt start turn).toNat + 1) % 2 ^ 32 = _
    omega
  have last : localPortEnd.toNat = 2 ^ 31 := rfl
  have first : localPortStart.toNat = 2 ^ 30 := rfl
  apply BitVec.eq_of_toNat_eq
  rw [toNat_portAt, portAfter]
  split
  case isTrue ends =>
    rw [ge_iff_le, BitVec.le_def] at ends
    omega
  case isFalse inside =>
    rw [ge_iff_le, BitVec.le_def] at inside
    omega

section
variable {start : U32} (ranged : inPortRange start)
include ranged

theorem portAt_zero : portAt start 0 = start := by
  rw [inPortRange_iff] at ranged
  apply BitVec.eq_of_toNat_eq
  rw [toNat_portAt]
  omega

theorem portAt_around : portAt start (2 ^ 30) = start := by
  rw [inPortRange_iff] at ranged
  apply BitVec.eq_of_toNat_eq
  rw [toNat_portAt]
  omega

theorem portAt_ne {turn : Nat} (some : 0 < turn) (early : turn < 2 ^ 30) : portAt start turn ≠ start := by
  rw [inPortRange_iff] at ranged
  intro same
  have place := toNat_portAt start turn
  rw [same] at place
  omega

theorem exists_portAt {port : U32} (inside : inPortRange port) :
    ∃ turn < 2 ^ 30, portAt start turn = port := by
  rw [inPortRange_iff] at ranged inside
  refine ⟨(port.toNat + 2 ^ 30 - start.toNat) % 2 ^ 30, by omega, ?_⟩
  apply BitVec.eq_of_toNat_eq
  rw [toNat_portAt]
  omega

end

namespace VsockMuxer
/-- How the search from `start` ends that has the turns from `turn` on left. -/
inductive Searched (start : U32) (muxer : VsockMuxer) (turn : Nat) :
    VsockMuxer × Except MuxerError U32 → Prop where
  | found (last : Nat) (early : last < 2 ^ 30) (free : portAt start last ∉ muxer.allocatedPorts) :
    Searched start muxer turn
    ({ muxer with
      nextLocalPort := portAt start (last + 1)
      allocatedPorts := insert (portAt start last) muxer.allocatedPorts }, .ok (portAt start last))
  | exhausted (taken : ∀ other, turn ≤ other → other < 2 ^ 30 →
    portAt start other ∈ muxer.allocatedPorts) : Searched start muxer turn
    ({ muxer with nextLocalPort := start }, .error .portExhausted)

theorem allocateLoop_searched {start : U32} (ranged : inPortRange start) (attempts turn : Nat)
    (left : turn + attempts = 2 ^ 30) (some : 0 < attempts) (muxer : VsockMuxer)
    (here : muxer.nextLocalPort = portAt start turn) :
    Searched start muxer turn (allocateLoop start attempts muxer) := by
  induction attempts generalizing turn muxer with
  | zero => cases some
  | succ attempts ih =>
    unfold allocateLoop
    dsimp only
    rw [here, portAfter_portAt]
    by_cases free : portAt start turn ∉ muxer.allocatedPorts
    · rw [if_pos free]
      exact .found turn (by omega) free
    · rw [if_neg free]
      rw [not_not] at free
      by_cases last : attempts = 0
      · have around : turn + 1 = 2 ^ 30 := by omega
        rw [around, portAt_around ranged, if_pos rfl]
        refine .exhausted fun other from_ early => ?_
        have same : other = turn := by omega
        rwa [same]
      · rw [if_neg (portAt_ne ranged (Nat.succ_pos turn) (by omega))]
        have rest := ih (turn + 1) (by omega) (by omega)
          { muxer with nextLocalPort := portAt start (turn + 1) } rfl
        generalize allocateLoop start attempts
          { muxer with nextLocalPort := portAt start (turn + 1) } = result at rest ⊢
        cases rest with
        | found last early isFree => exact .found last early isFree
        | exhausted taken =>
          refine .exhausted fun other from_ early => ?_
          by_cases same : other = turn
          · rwa [same]
          · exact taken other (by omega) early

variable (muxer : VsockMuxer)

theorem allocatePort_searched (ranged : inPortRange muxer.nextLocalPort) :
    Searched muxer.nextLocalPort muxer 0 muxer.allocatePort := by
  have size : (localPortEnd - localPortStart).toNat = 2 ^ 30 := by decide
  rw [allocatePort, size]
  exact allocateLoop_searched ranged (2 ^ 30) 0 rfl (by decide) muxer (portAt_zero ranged).symm

/-- What a call of `allocate_port` does. It looks at ports of the range one after the other, at
most at each of them once. -/
structure Allocates (muxer : VsockMuxer) : Prop where
  ok : ∀ after port, muxer.allocatePort = (after, .ok port) → inPortRange port ∧
    port ∉ muxer.allocatedPorts ∧ ∃ turn < 2 ^ 30,
    port = portAt muxer.nextLocalPort turn ∧
    after = { muxer with
      nextLocalPort := portAt muxer.nextLocalPort (turn + 1)
      allocatedPorts := insert port muxer.allocatedPorts } ∧
    inPortRange after.nextLocalPort
  error : ∀ after error, muxer.allocatePort = (after, .error error) → error = .portExhausted ∧ after = muxer
  exhausted : (muxer.allocatePort).2 = .error .portExhausted ↔
    ∀ port, inPortRange port → port ∈ muxer.allocatedPorts

theorem allocates (ranged : inPortRange muxer.nextLocalPort) : muxer.Allocates := by
  have searched := muxer.allocatePort_searched ranged
  constructor
  · intro after port allocated
    rw [allocated] at searched
    cases searched with
    | found last early free =>
      exact ⟨inPortRange_portAt _ _, free, last, early, rfl, rfl, inPortRange_portAt _ _⟩
  · intro after error refused
    rw [refused] at searched
    cases searched with
    | exhausted => exact ⟨rfl, rfl⟩
  · generalize muxer.allocatePort = result at searched ⊢
    cases searched with
    | found last early free => exact ⟨nofun, fun all => absurd (all _ (inPortRange_portAt _ _)) free⟩
    | exhausted taken =>
      refine ⟨fun _ port inside => ?_, fun _ => rfl⟩
      obtain ⟨turn, early, rfl⟩ := exists_portAt ranged inside
      exact taken turn (Nat.zero_le _) early

theorem nextLocalPort_forget (deadKeys : List ConnMapKey) :
    (muxer.forget deadKeys).nextLocalPort = muxer.nextLocalPort := by
  induction deadKeys generalizing muxer with
  | nil => rfl
  | cons first rest ih => exact ih _

end VsockMuxer

namespace System
/-- No two connections of the muxer share a port, and its next port is one of the range. -/
structure PortsSound (system : System) : Prop where
  sound : Sound system.muxer system.phase
  next : inPortRange system.muxer.nextLocalPort

theorem portsSound_step {system : System} (ports : PortsSound system) (event : Event) :
    PortsSound (system.step event) := by
  refine ⟨sound_step ports.sound event, ?_⟩
  have stepped := system.step_stepped event
  have allocates := system.muxer.allocates ports.next
  generalize system.step event = after at stepped ⊢
  cases stepped with
  | exhausted refused =>
    rw [(allocates.error _ _ refused).2]
    exact ports.next
  | opened _ allocated =>
    obtain ⟨_, _, _, _, _, _, inside⟩ := allocates.ok _ _ allocated
    exact inside
  | cleaned =>
    rw [nextLocalPort_forget]
    exact ports.next
  | _ => exact ports.next

/-- A port that is handed out is a free one of the range, and there is one unless all of them are
in use. So no two connections of the muxer ever share a port. -/
theorem allocatePort_never_shares :
    (∀ muxer : VsockMuxer, inPortRange muxer.nextLocalPort → muxer.Allocates) ∧
    ∀ guestCid events, let system := run step (start guestCid) events
      inPortRange system.muxer.nextLocalPort ∧ ∀ first second : ConnMapKey,
        Holds system.muxer system.phase first → Holds system.muxer system.phase second →
        first.localPort = second.localPort → first = second := by
  refine ⟨allocates, fun guestCid events => ?_⟩
  have first : inPortRange localPortStart := by decide
  have begins : PortsSound (start guestCid) := ⟨sound_start guestCid, first⟩
  have ports : PortsSound (run step (start guestCid) events) :=
    stable_run PortsSound events (fun _ event ports => portsSound_step ports event) begins
  exact ⟨ports.next, ports.sound.distinct⟩

end System
end Visor.Muxer
