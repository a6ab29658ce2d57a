import Visor.Library.Run
import Visor.Muxer.Lane

/-! Wake-ups of the muxer. The permit that a TX pass leaves behind is what makes the
muxer look at the TX buffers, and it is also what the wait for a guest's RESPONSE
consumes. -/

namespace Visor.Muxer
open Library Vsock Option VsockMuxer Muxer.System VsockDevice Lane List TxBuf KeyedMap
variable (conn : Option VsockConnection)

/-- There is no connection, or nothing in its TX buffer. -/
def Empty : Prop := conn.all (·.txBuf.isEmpty) = true
deriving Decidable

private theorem empty_receive {view : ConnView} (empty : Empty view.conn) (now : Nat) (buffer : RxBuffer) :
    Empty (view.receive now buffer).conn := by
  unfold ConnView.receive
  split
  · exact empty
  · next conn present =>
      have kept : Empty (some (conn.recvPkt buffer.maxDataLen now).1) := by
        simpa [Empty, present] using empty
      generalize conn.recvPkt buffer.maxDataLen now = outcome at kept ⊢
      obtain ⟨after, failed | ⟨pkt, payload⟩⟩ := outcome
      · exact kept
      · dsimp only
        split
        · split
          · rfl
          · exact kept
        · exact kept

theorem empty_fill {device : VsockDevice} {key : ConnMapKey}
    (empty : Empty (device.view key).conn) (rx : RxPass) : Empty ((device.fill rx).view key).conn :=
  view_fill_induction (fun view => Empty view.conn)
    (fun buffer _ _ before => empty_receive before rx.now buffer) empty

theorem empty_unexpired {conn : Option VsockConnection} (empty : Empty conn) (now : Nat) :
    Empty (unexpired now conn) := by
  cases conn with
  | none => rfl
  | some =>
    simp only [unexpired, filter_some]
    split
    · exact empty
    · rfl

theorem empty_synced (result : Except IoError (List U8)) : Empty (conn.map (synced · result)) := by
  cases conn with
  | none => rfl
  | some conn =>
    obtain ⟨txBuf, sink, after, flush, shape, emptied, _⟩ := (hostRead conn result).flushTxBuf_vec
    subst shape
    simp only [Empty, map_some, synced, flush, all_some]
    exact (isEmpty_iff txBuf).mpr emptied

namespace Lane
/-- A connection with a stream has nothing in its TX buffer. -/
def Drained (lane : Lane) : Prop := lane.stream.isSome = true → Empty lane.view.conn

theorem drained_step {lane next : Lane} {key : ConnMapKey} {condemned : Prop} {event : Event}
    (moved : LaneStep key condemned event lane next)
    (silent : ∀ tx rx, event = .guestTransmits tx rx → tx.packets = []) (drained : lane.Drained) :
    next.Drained := by
  intro has
  cases moved with
  | same | accepted => exact drained has
  | @transmitted tx rx _ device was =>
    rw [silent tx rx rfl]
    have empty := drained has
    rw [← was] at empty
    exact empty_fill empty rx
  | @filled _ rx _ device was pass =>
    have empty := drained has
    rw [← was] at empty
    exact empty_fill empty rx
  | reset => rfl
  | clientWrote had | clientClosed had | relayed had => exact drained (by simp [had])
  | opened => exact (isEmpty_iff .new).mpr contents_new
  | dropped | leaked | cleaned => cases has
  | attached pending had => exact drained had
  | expired => exact empty_unexpired (drained has) _
  | updated => exact empty_unexpired (empty_synced _ _) _

end Lane

namespace Phase
def pendingKeys : Phase → List ConnMapKey
  | .handshake key _ _ => [key]
  | _ => []

end Phase

namespace System
/-- Nothing is left in the TX buffer of a connection that has a stream, or is about to. -/
def AllDrained (system : System) : Prop :=
  ∀ key ∈ system.muxer.streams.keys ++ system.phase.pendingKeys,
    Empty (system.device.connections.lookup key)
deriving Decidable

/-- A muxer that waits with no permit and no readable stream has left no bytes behind. -/
def NoLostWakeup (system : System) : Prop :=
  system.phase = .parked → system.device.txPermit = false →
    (∀ key ∈ system.muxer.streams.keys, (system.muxer.streams.lookup key).any UnixStream.readable = false) →
    ∀ key ∈ system.muxer.streams.keys, Empty (system.device.connections.lookup key)

/-- Steps of the runs considered: a TX pass that takes packets completes, and the wait
for a guest takes the permit only when nothing is left to drain. -/
def PermitSpared (system : System) : Event → Prop
  | .guestTransmits tx _ => tx.packets ≠ [] → tx.completed = true
  | .wake => system.device.txPermit = true → system.AllDrained
  | _ => True

instance (system : System) (event : Event) : Decidable (system.PermitSpared event) := by
  rcases event with _ | _ <;> (unfold PermitSpared; infer_instance)

theorem stream_isSome_iff (system : System) (key : ConnMapKey) : (system.lane key).stream.isSome = true ↔
    key ∈ system.muxer.streams.keys ++ system.phase.pendingKeys := by
  simp only [lane, isSome_or, Bool.or_eq_true, mem_append, mem_keys_iff]
  cases current : system.phase <;> simp [Phase.pending, Phase.pendingKeys]

theorem allDrained_iff (system : System) : system.AllDrained ↔ ∀ key, (system.lane key).Drained :=
  forall_congr' fun key => by rw [Lane.Drained, stream_isSome_iff]; rfl

/-- The invariant of a run: the buffers are empty, or the muxer is about to look. -/
structure WakeInvariant (system : System) : Prop where
  sound : Sound system.muxer system.phase
  covered : system.device.txPermit = true ∨ system.phase = .syncing ∨
    ∀ key, (system.lane key).Drained

theorem wakeInvariant_start (guestCid : U64) : WakeInvariant (start guestCid) where
  sound := sound_start guestCid
  covered := .inr (.inr fun _ _ => rfl)

variable {system : System} {event : Event}

theorem covered_of_drained {after : System} (invariant : WakeInvariant system)
    (moved : ∀ key, LaneStep key (key ∈ system.phase.condemned) event (system.lane key)
      (after.lane key)) (permit : after.device.txPermit = system.device.txPermit)
    (syncing : system.phase = .syncing → after.phase = .syncing)
    (silent : ∀ tx rx, event = .guestTransmits tx rx → tx.packets = []) :
    after.device.txPermit = true ∨ after.phase = .syncing ∨ ∀ key, (after.lane key).Drained := by
  rcases invariant.covered with stored | looking | drained
  · exact .inl (permit.trans stored)
  · exact .inr (.inl (syncing looking))
  · exact .inr (.inr fun key => drained_step (moved key) silent (drained key))

theorem txPermit_rxKick (device : VsockDevice) (rx : RxPass) :
    (rxKick device rx).txPermit = device.txPermit := by
  unfold rxKick
  split
  · simp
  · rfl

theorem covered_beginSync (system : System) :
    system.beginSync.phase = .syncing ∨ ∀ key, (system.beginSync.lane key).Drained := by
  by_cases none : system.muxer.streams.keys.isEmpty = true
  · refine .inr fun key has => ?_
    have attached : key ∈ system.muxer.streams.keys := by
      rw [mem_keys_iff]
      simpa [beginSync, none, lane, Phase.pending] using has
    rw [isEmpty_iff.mp none] at attached
    cases attached
  · exact .inl (by simp [beginSync, none])

section
variable (invariant : WakeInvariant system)
include invariant

theorem covered_step (spared : PermitSpared system event) :
    (system.step event).device.txPermit = true ∨ (system.step event).phase = .syncing ∨
    ∀ key, ((system.step event).lane key).Drained := by
  have stepped := system.step_stepped event
  have moved := fun key => step_lane invariant.sound event key
  generalize system.step event = after at stepped moved ⊢
  cases stepped with
  | idle => exact invariant.covered
  | @transmitted tx rx =>
    by_cases silent : tx.packets = []
    · rcases invariant.covered with stored | looking | drained
      · exact .inl (by simp [withDevice, processTx, stored])
      · exact .inr (.inl looking)
      · refine .inr (.inr fun key => drained_step (moved key) ?_ (drained key))
        rintro _ _ ⟨rfl, rfl⟩
        exact silent
    · exact .inl (by simp [withDevice, processTx, spared silent])
  | offered => exact covered_of_drained invariant moved (by simp [withDevice]) id (by rintro _ _ ⟨⟩)
  | activated | reset | exhausted => exact covered_of_drained invariant moved rfl id (by rintro _ _ ⟨⟩)
  | clientWrote | clientClosed =>
    refine covered_of_drained invariant moved rfl (fun looking => ?_) (by rintro _ _ ⟨⟩)
    simp [clientWrites, clientCloses, updateStream, looking]
  | opened parked => exact covered_of_drained invariant moved rfl (by simp [parked]) (by rintro _ _ ⟨⟩)
  | checked current | timedOut current | dropped current | attached current | leaked current
  | wrote current => exact covered_of_drained invariant moved rfl (by simp [current]) (by rintro _ _ ⟨⟩)
  | kickedNew current | kicked current =>
    exact covered_of_drained invariant moved (by simp [txPermit_rxKick]) (by simp [current])
      (by rintro _ _ ⟨⟩)
  | woken current permit =>
    have drained := (allDrained_iff system).mp (spared permit)
    exact .inr (.inr fun key => drained_step (moved key) (by rintro _ _ ⟨⟩) (drained key))
  | cleaned current =>
    exact covered_of_drained invariant moved (by simp) (by simp [current]) (by rintro _ _ ⟨⟩)
  | notified => exact .inr (covered_beginSync _)
  | readable => exact .inr (covered_beginSync system)
  | updated =>
    refine .inr (.inr fun key has => ?_)
    have attached : (system.muxer.streams.lookup key).isSome = true := by
      simpa [lane, Phase.pending] using has
    obtain ⟨stream, attached⟩ := isSome_iff_exists.mp attached
    simp only [lane, view_readAndUpdateDevice, attached]
    exact empty_unexpired (empty_synced _ _) _

theorem WakeInvariant.step (spared : PermitSpared system event) : WakeInvariant (system.step event) where
  sound := sound_step invariant.sound event
  covered := covered_step invariant spared

theorem WakeInvariant.noLostWakeup : NoLostWakeup system := by
  intro parked spent _ key attached
  rcases invariant.covered with stored | looking | drained
  · rw [spent] at stored
    cases stored
  · rw [parked] at looking
    cases looking
  · exact drained key ((stream_isSome_iff system key).mpr (mem_append_left _ attached))

end

/-- While handshakes take the permit only when there is nothing to drain, no TX data
waits for a wake-up that does not come. -/
theorem noLostWakeup_throughout (guestCid : U64) (events : List Event)
    (admitted : Along step PermitSpared (start guestCid) events) :
    Throughout step NoLostWakeup (start guestCid) events :=
  throughout_of_invariant WakeInvariant
    (fun _ _ invariant spared => invariant.step spared)
    (fun _ invariant => invariant.noLostWakeup)
    (wakeInvariant_start guestCid) admitted

/-- The muxer waits for the guest, which sends these packets in one batch. -/
def answerFirst (packets : List (VsockPacket × List U8)) : List Event :=
  firstRequest ++ [.check, guestSends packets, .wake, .check, .reply true]

/-- Data in a batch of its own wakes the muxer, which relays it. -/
def thenRelay : List Event := [guestSends [firstPkt .rw [1, 2, 3, 4]], .notified,
  .readAndUpdate (fun _ => .upTo 0) 0, .write fun _ => .upTo 4, .cleanup]

theorem noLostWakeup_relayed :
    Throughout step NoLostWakeup (start 3) (answerFirst [firstPkt .response []] ++ thenRelay) ∧
    ((run step (start 3) (answerFirst [firstPkt .response []] ++ thenRelay)).muxer.streams.lookup
      firstKey).map UnixStream.received = some [1, 2, 3, 4] :=
  ⟨noLostWakeup_throughout 3 (answerFirst [firstPkt .response []] ++ thenRelay)
    (by decide +kernel), by decide +kernel⟩

/-- Data in the same batch as the RESPONSE stays behind: the wait took the permit. -/
theorem wakeup_lost_with_response : ¬ Throughout step NoLostWakeup (start 3)
    (answerFirst [firstPkt .response [], firstPkt .rw [1, 2, 3, 4]]) := by
  intro holds
  rw [throughout_iff_prefixes] at holds
  have final := holds _ prefix_rfl rfl (by decide +kernel) (by decide +kernel) firstKey (by decide +kernel)
  exact absurd final (by decide +kernel)

end System
end Visor.Muxer
