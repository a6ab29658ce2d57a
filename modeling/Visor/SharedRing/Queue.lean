import Visor.SharedRing.Refinement

/-! Every call returns after a bounded number of its own moves, whatever the other side does, and
what the calls return is what a bounded queue of packets returns. -/

namespace Visor.SharedRing
open Library List Move Cells

/-! Entries are multiples of eight bytes, so the end of the data area may be less than the four
bytes of a marker away. Sending and receiving packets of four bytes leads there. -/

section
open BitVec
namespace Ring
/-- A ring with both sides at the same index and no call under way. -/
def quiet (capacity : U64) (data : Cells U8) (idx : U64) : Ring := ⟨capacity, data, idx, idx, .idle, .idle⟩
def fourBytes : List U8 := [0, 0, 0, 0]
def sendFour : List Move := [.send fourBytes, .produce, .produce, .produce, .produce, .produce]
def receiveFour : List Move := [.recv maxPacketSize, .consume, .consume, .consume, .consume, .consume]

theorem entrySize_four : entrySize fourBytes.length = 8 := by decide

variable {capacity idx : U64} {data : Cells U8}

theorem run_sendFour (fits : idx.toNat % capacity.toNat + 8 ≤ capacity.toNat) :
    run step (quiet capacity data idx) sendFour =
    ⟨capacity, (data.write (idx.toNat % capacity.toNat) (toLeBytes 4 4)).write
      (idx.toNat % capacity.toNat + 4) fourBytes, idx + 8, idx, .idle, .idle⟩ := by
  have room : 8 ≤ capacity.toNat := by omega
  have short : ¬ fourBytes.length > maxPacketSize := by decide
  simp only [sendFour, run_cons, run_nil, step, advance, trySend, quiet, if_neg short, produce,
    position_eq, entrySize_four, size, if_pos fits, BitVec.sub_self, BitVec.sub_zero, ge_iff_le,
      if_pos room]
  rfl

private theorem run_receiveFour (noWrap : idx.toNat + 8 < 2 ^ 64)
    (fourThere : data.read (idx.toNat % capacity.toNat) 4 = toLeBytes 4 4) :
    run step ⟨capacity, data, idx + 8, idx, .idle, .idle⟩ receiveFour = quiet capacity data (idx + 8) := by
  have later : ¬ idx + 8 ≤ idx := by
    rw [le_def, toNat_add]
    show ¬ (idx.toNat + 8) % 2 ^ 64 ≤ idx.toNat
    omega
  have isFour : BitVec.ofNat 32 (fromLeBytes (toLeBytes 4 4)) = 4 := by decide
  have notMarker : ¬ (4 : U32) = skipMarker := by decide
  have small : ¬ (4 : U32).toNat > maxPacketSize := by decide
  simp only [receiveFour, run_cons, run_nil, step, advance, tryRecv, consume, ge_iff_le,
    if_neg later, position_eq, size, fourThere, isFour, if_neg notMarker, if_neg small, quiet, length_read]
  rfl

theorem run_four (data : Cells U8) (fits : idx.toNat % capacity.toNat + 8 ≤ capacity.toNat)
    (noWrap : idx.toNat + 8 < 2 ^ 64) :
    ∃ after, run step (quiet capacity data idx) (sendFour ++ receiveFour) =
    quiet capacity after (idx + 8) := by
  refine ⟨(data.write (idx.toNat % capacity.toNat) (toLeBytes 4 4)).write
    (idx.toNat % capacity.toNat + 4) fourBytes, ?_⟩
  rw [run_append, run_sendFour fits, run_receiveFour noWrap]
  have kept := read_write_disjoint (data.write (idx.toNat % capacity.toNat) (toLeBytes 4 4))
    (idx.toNat % capacity.toNat + 4) fourBytes (idx.toNat % capacity.toNat) 4
    (.inl (Nat.le_refl _))
  rw [kept]
  exact read_write_same _ _ _

def fours (count : Nat) : List Move := (List.replicate count (sendFour ++ receiveFour)).flatten

theorem run_fours (data : Cells U8) (count : Nat) (below : 8 * count ≤ capacity.toNat)
    (noWrap : capacity.toNat + 8 < 2 ^ 64) : ∃ after, run step (quiet capacity data 0) (fours count) =
    quiet capacity after (BitVec.ofNat 64 (8 * count)) := by
  induction count with
  | zero => exact ⟨data, rfl⟩
  | succ count ih =>
    obtain ⟨middle, reached⟩ := ih (by omega)
    have number : (BitVec.ofNat 64 (8 * count)).toNat = 8 * count := by
      rw [toNat_ofNat]
      omega
    have fits : (BitVec.ofNat 64 (8 * count)).toNat % capacity.toNat + 8 ≤ capacity.toNat := by
      rw [number, Nat.mod_eq_of_lt (by omega)]
      omega
    obtain ⟨after, through⟩ := run_four middle fits (by omega)
    refine ⟨after, ?_⟩
    unfold fours
    rw [List.replicate_succ', List.flatten_append, run_append]
    show run step (run step _ (fours count)) ([sendFour ++ receiveFour].flatten) = _
    rw [reached, List.flatten_singleton, through]
    congr 1
    rw [Nat.mul_add, ofNat_add]
    rfl

/-- Packets of four bytes up to the end of the data area, and one more. -/
def overrun (capacity : Nat) : List Move :=
  fours (capacity / 8) ++ [.send fourBytes, .produce, .produce, .produce]

theorem overrun_unsafe (large : minCapacity ≤ capacity.toNat)
    (unmarkable : 0 < capacity.toNat % 8 ∧ capacity.toNat % 8 < 4) (noWrap : capacity.toNat + 8 < 2 ^ 64) :
    ¬ Along step WriteSafe (quiet capacity data 0) (overrun capacity.toNat) := by
  intro safe
  unfold minCapacity at large
  obtain ⟨middle, reached⟩ := run_fours data (capacity.toNat / 8) (by omega) noWrap
  have number : (BitVec.ofNat 64 (8 * (capacity.toNat / 8))).toNat = 8 * (capacity.toNat / 8) := by
    rw [toNat_ofNat]
    omega
  have place : 8 * (capacity.toNat / 8) % capacity.toNat = 8 * (capacity.toNat / 8) :=
    Nat.mod_eq_of_lt (by omega)
  obtain ⟨_, later⟩ := (along_append step WriteSafe _ _ _).mp safe
  rw [reached] at later
  obtain ⟨_, _, _, marker, _⟩ := later
  have short : ¬ fourBytes.length > maxPacketSize := by decide
  have wraps : ¬ 8 * (capacity.toNat / 8) + 8 ≤ capacity.toNat := by omega
  have room : capacity.toNat - 8 * (capacity.toNat / 8) + 8 ≤ capacity.toNat := by omega
  simp only [step, advance, trySend, quiet, if_neg short, produce,
    position_eq, entrySize_four, size, number, place, if_neg wraps, BitVec.sub_self,
      BitVec.sub_zero, ge_iff_le, if_pos room] at marker
  have span := (marker _ rfl).1.2
  simp only [position_eq, number, size, place] at span
  omega

end Ring
end

def Sending.left : Sending → Nat
  | .idle => 0
  | .loadWriteIdx _ => 6
  | .loadReadIdx _ _ => 5
  | .writeSkipMarker _ _ => 4
  | .writeLength _ _ => 3
  | .writePayload _ _ => 2
  | .storeWriteIdx _ _ => 1

theorem Sending.left_le (sending : Sending) : sending.left ≤ 6 := by cases sending <;> simp [left]

/-- The moves that a call of `try_recv` has left, if it does not start again. -/
def Receiving.left : Receiving → Nat
  | .idle => 0
  | .loadReadIdx _ => 5
  | .loadWriteIdx _ _ => 4
  | .readLength _ _ => 3
  | .storeSkipped _ _ => 1
  | .readPayload _ _ => 2
  | .storeReadIdx _ _ => 1

theorem Receiving.left_le (receiving : Receiving) : receiving.left ≤ 5 := by cases receiving <;> simp [left]

namespace Ring
variable {ring : Ring} {queue : List (List U8)} {move : Move} (moves : List Move)

/-- A call starts again once at most, and at the start of the data area it does not. -/
def receivingLeft (ring : Ring) : Nat := ring.consumer.left + if ring.head % ring.size = 0 then 0 else 5

theorem step_capacity (ring : Ring) (move : Move) : (ring.step move).capacity = ring.capacity := by
  unfold step
  fun_cases ring.advance move with
  | case1 packet => fun_cases ring.trySend packet <;> rfl
  | case3 bufLen => fun_cases ring.tryRecv bufLen <;> rfl
  | case2 => fun_cases produce ring <;> rfl
  | case4 => fun_cases consume ring <;> rfl

theorem produce_progress (busy : ring.producer ≠ .idle) :
    (∃ packet accepted, ring.produce.2 = some (.send packet accepted)) ∨ ring.produce.1.producer ≠
    .idle ∧ ring.produce.1.producer.left < ring.producer.left := by
  unfold produce
  cases which : ring.producer with
  | idle => exact absurd which busy
  | loadReadIdx packet =>
    dsimp only
    split <;> split
    · exact .inr ⟨nofun, show 3 < 5 by decide⟩
    · exact .inl ⟨packet, false, rfl⟩
    · exact .inr ⟨nofun, show 4 < 5 by decide⟩
    · exact .inl ⟨packet, false, rfl⟩
  | storeWriteIdx packet => exact .inl ⟨packet, true, rfl⟩
  | _ => exact .inr ⟨nofun, Nat.lt_succ_self _⟩

theorem Holds.consume_progress (holds : ring.Holds queue) (busy : ring.consumer ≠ .idle) :
    (∃ result, ring.consume.2 = some (.receive result)) ∨ ring.consume.1.consumer ≠ .idle ∧
    ring.consume.1.receivingLeft < ring.receivingLeft := by
  have receiving := holds.receiving
  unfold Ring.consume receivingLeft
  cases which : ring.consumer with
  | idle => exact absurd which busy
  | loadReadIdx => exact .inr ⟨nofun, Nat.add_lt_add_right (show 4 < 5 by decide) _⟩
  | loadWriteIdx =>
    dsimp only
    split
    · exact .inl ⟨none, rfl⟩
    · exact .inr ⟨nofun, Nat.add_lt_add_right (show 3 < 4 by decide) _⟩
  | readLength =>
    dsimp only
    split
    · exact .inr ⟨nofun, Nat.add_lt_add_right (show 1 < 3 by decide) _⟩
    · split
      · exact .inl ⟨none, rfl⟩
      · exact .inr ⟨nofun, Nat.add_lt_add_right (show 2 < 3 by decide) _⟩
  | storeSkipped =>
    rw [which] at receiving
    obtain ⟨_, rfl, apart, skipped⟩ := receiving
    obtain ⟨middle, inside, _⟩ := holds.layout.skipped_front apart skipped
    have room := skipped.room
    have newIdx : (ring.readIdx + BitVec.ofNat 64 (ring.size - ring.head % ring.size)).toNat =
      ring.head + (ring.size - ring.head % ring.size) :=
      toNat_add_ofNat (inside.trans ring.writeIdx.isLt)
    have restart : (ring.readIdx + BitVec.ofNat 64 (ring.size - ring.position ring.readIdx)).toNat %
      ring.size = 0 := by
      rw [position_eq, newIdx, position_gap (by omega)]
    refine .inr ⟨nofun, ?_⟩
    show 5 + (if _ = 0 then 0 else 5) < 1 + _
    rw [if_pos restart, if_neg (by omega)]
    decide
  | readPayload => exact .inr ⟨nofun, Nat.add_lt_add_right (show 1 < 2 by decide) _⟩
  | storeReadIdx readIdx buf => exact .inl ⟨some buf, rfl⟩

theorem step_producer (busy : ring.producer ≠ .idle) (other : move ≠ .produce) :
    (ring.step move).producer = ring.producer := by
  unfold step
  fun_cases ring.advance move with
  | case2 => exact absurd rfl other
  | case1 packet =>
    fun_cases ring.trySend packet with
    | case1 idle | case2 idle => exact absurd idle busy
    | case3 => rfl
  | case3 bufLen => fun_cases ring.tryRecv bufLen <;> rfl
  | case4 => fun_cases consume ring <;> rfl

theorem step_consumer (busy : ring.consumer ≠ .idle) (other : move ≠ .consume) :
    (ring.step move).consumer = ring.consumer ∧ (ring.step move).readIdx = ring.readIdx := by
  unfold step
  fun_cases ring.advance move with
  | case4 => exact absurd rfl other
  | case3 bufLen =>
    fun_cases ring.tryRecv bufLen with
    | case1 idle => exact absurd idle busy
    | case2 => exact ⟨rfl, rfl⟩
  | case1 packet => fun_cases ring.trySend packet <;> exact ⟨rfl, rfl⟩
  | case2 => fun_cases produce ring <;> exact ⟨rfl, rfl⟩

theorem send_returns (busy : ring.producer ≠ .idle) (enough : ring.producer.left ≤ moves.count .produce) :
    ∃ packet accepted, some (.send packet accepted) ∈ ring.events moves := by
  induction moves generalizing ring with
  | nil =>
    exfalso
    revert busy enough
    cases ring.producer <;> simp [Sending.left]
  | cons move rest ih =>
    by_cases own : move = .produce
    · subst own
      rw [count_cons_self] at enough
      rcases produce_progress busy with ⟨packet, accepted, returned⟩ | ⟨still, closer⟩
      · exact ⟨packet, accepted, returned ▸ .head _⟩
      · obtain ⟨packet, accepted, later⟩ :=
          ih still (show ring.produce.1.producer.left ≤ rest.count .produce by omega)
        exact ⟨packet, accepted, .tail _ later⟩
    · have same := step_producer busy own
      rw [count_cons_of_ne own] at enough
      obtain ⟨packet, accepted, later⟩ := ih (same ▸ busy) (same ▸ enough)
      exact ⟨packet, accepted, .tail _ later⟩

/-- The index does not wrap during the moves. -/
def Affordable (ring : Ring) (moves : List Move) : Prop := ring.reserve + (moves.map reserves).sum < 2 ^ 64

theorem Holds.cons {rest : List Move} (holds : ring.Holds queue)
    (roomy : ∀ each ∈ move :: rest, each.Roomy) (affordable : ring.Affordable (move :: rest)) :
    ∃ after, (bounds ring.size).Step queue (ring.event move) after ∧ (ring.step move).Holds after ∧
    (∀ each ∈ rest, each.Roomy) ∧ (ring.step move).Affordable rest := by
  unfold Affordable at affordable
  rw [map_cons, sum_cons, ← Nat.add_assoc] at affordable
  obtain ⟨after, step, held, reserved⟩ :=
    holds.advanced (roomy move (.head _)) (Nat.lt_of_le_of_lt (Nat.le_add_right _ _) affordable)
  refine ⟨after, step, held, fun each member => roomy each (.tail _ member), ?_⟩
  exact Nat.lt_of_le_of_lt (Nat.add_le_add_right reserved _) affordable

theorem Holds.recv_returns {moves : List Move} (holds : ring.Holds queue)
    (roomy : ∀ each ∈ moves, each.Roomy) (affordable : ring.Affordable moves)
    (busy : ring.consumer ≠ .idle) (enough : ring.receivingLeft ≤ moves.count .consume) :
    ∃ result, some (.receive result) ∈ ring.events moves := by
  induction moves generalizing ring queue with
  | nil =>
    exfalso
    unfold receivingLeft at enough
    revert busy enough
    cases ring.consumer <;> simp [Receiving.left]
  | cons move rest ih =>
    obtain ⟨after, _, held, roomyRest, affordableRest⟩ := holds.cons roomy affordable
    by_cases own : move = .consume
    · subst own
      rw [count_cons_self] at enough
      rcases holds.consume_progress busy with ⟨result, returned⟩ | ⟨still, closer⟩
      · exact ⟨result, returned ▸ .head _⟩
      · obtain ⟨result, later⟩ := ih held roomyRest affordableRest still
          (show ring.consume.1.receivingLeft ≤ rest.count .consume by omega)
        exact ⟨result, .tail _ later⟩
    · obtain ⟨sameConsumer, sameHead⟩ := step_consumer busy own
      have same : (ring.step move).receivingLeft = ring.receivingLeft := by
        unfold receivingLeft head size
        rw [sameConsumer, sameHead, step_capacity]
      rw [count_cons_of_ne own] at enough
      obtain ⟨result, later⟩ := ih held roomyRest affordableRest (sameConsumer ▸ busy) (same ▸ enough)
      exact ⟨result, .tail _ later⟩

/-- An empty ring does not refuse a packet. -/
def AcceptsWhenEmpty (ring : Ring) (move : Move) : Prop :=
  ∀ packet, ring.event move = some (.send packet false) → packet.length ≤ maxPacketSize →
    ring.readIdx ≠ ring.writeIdx

private theorem Holds.acceptsWhenEmpty (holds : ring.Holds queue) {after : List (List U8)}
    (step : (bounds ring.size).Step queue (ring.event move) after) : ring.AcceptsWhenEmpty move := by
  intro packet refused admitted empty
  rw [refused] at step
  cases step with
  | refuse full =>
    have apart := holds.layout.lt (full admitted).1
    exact Nat.ne_of_lt apart (congrArg BitVec.toNat empty)

theorem Holds.runs {moves : List Move} (holds : ring.Holds queue)
    (roomy : ∀ each ∈ moves, each.Roomy) (affordable : ring.Affordable moves) :
    (∃ last, (bounds ring.size).Run queue (ring.events moves) last) ∧
    Along step WriteSafe ring moves ∧ Along step AcceptsWhenEmpty ring moves := by
  induction moves generalizing ring queue with
  | nil => exact ⟨⟨queue, .nil queue⟩, trivial, trivial⟩
  | cons move rest ih =>
    obtain ⟨after, step, held, roomyRest, affordableRest⟩ := holds.cons roomy affordable
    obtain ⟨⟨last, later⟩, safe, accepts⟩ := ih held roomyRest affordableRest
    unfold size at later
    rw [step_capacity] at later
    exact ⟨⟨last, .cons step later⟩, ⟨holds.writeSafe move, safe⟩, holds.acceptsWhenEmpty step, accepts⟩

theorem Holds.reached {before after : List Move} (holds : ring.Holds queue)
    (roomy : ∀ each ∈ before ++ after, each.Roomy)
    (affordable : ring.Affordable (before ++ after)) :
    ∃ middle, (run step ring before).Holds middle ∧ (∀ each ∈ after, each.Roomy) ∧
    (run step ring before).Affordable after := by
  induction before generalizing ring queue with
  | nil => exact ⟨queue, holds, roomy, affordable⟩
  | cons move rest ih =>
    obtain ⟨next, _, held, roomyRest, affordableRest⟩ := holds.cons roomy affordable
    exact ih held roomyRest affordableRest

/-- What the ring promises for a run: it is a run of a bounded queue, in which every packet that
was accepted has come out once, in order, or is still there; it writes where it may; it takes a
packet when it is empty; and a call returns once it has had ten moves, or six for a send. -/
structure Correct (ring : Ring) (moves : List Move) : Prop where
  fifo : ∃ queue, (bounds ring.size).Run [] (ring.events moves) queue ∧
    QueueEvent.accepted (ring.events moves) = QueueEvent.received (ring.events moves) ++ queue
  writes : Along step WriteSafe ring moves
  accepts : Along step AcceptsWhenEmpty ring moves
  sends : ∀ before after, before ++ after = moves → (run step ring before).producer ≠ .idle →
    6 ≤ after.count .produce →
    ∃ packet accepted, some (.send packet accepted) ∈ (run step ring before).events after
  receives : ∀ before after, before ++ after = moves → (run step ring before).consumer ≠ .idle →
    10 ≤ after.count .consume →
    ∃ result, some (.receive result) ∈ (run step ring before).events after

theorem Holds.correct {moves : List Move} (holds : ring.Holds [])
    (roomy : ∀ each ∈ moves, each.Roomy) (affordable : ring.Affordable moves) : ring.Correct moves := by
  obtain ⟨⟨last, ran⟩, safe, accepts⟩ := holds.runs roomy affordable
  refine ⟨⟨last, ran, ran.exactly_once⟩, safe, accepts, ?_, ?_⟩
  · rintro before after rfl busy enough
    exact send_returns after busy ((Sending.left_le _).trans enough)
  · rintro before after rfl busy enough
    obtain ⟨middle, held, roomyRest, affordableRest⟩ := holds.reached roomy affordable
    apply held.recv_returns roomyRest affordableRest busy
    refine Nat.le_trans ?_ enough
    unfold receivingLeft
    have calls := (run step ring before).consumer.left_le
    split <;> omega

/-- At most `2 ^ 49` sends, and receive buffers for any packet. -/
def Moderate : Prop := moves.countP isSend ≤ 2 ^ 49 ∧ ∀ each ∈ moves, each.Roomy

theorem fresh_holds {capacity : U64} (data : Cells U8) (large : minCapacity ≤ capacity.toNat)
    (markable : capacity.toNat % 8 = 0 ∨ 4 ≤ capacity.toNat % 8) : (quiet capacity data 0).Holds [] := by
  constructor
  · exact large
  · exact markable
  · show 0 % capacity.toNat % 8 = 0
    rw [Nat.zero_mod]
  · exact .empty 0
  · exact Nat.zero_le _
  · trivial
  · trivial
  · show 0 + 0 < 2 ^ 64
    decide

private theorem sum_reserves : (moves.map reserves).sum = moves.countP isSend * (2 * maxEntry) := by
  induction moves with
  | nil => simp
  | cons move rest ih =>
    rw [map_cons, sum_cons, ih, countP_cons]
    unfold reserves
    split <;> rw [Nat.add_mul] <;> omega

theorem fresh_affordable (capacity : U64) (data : Cells U8) {moves : List Move}
    (moderate : Moderate moves) : (quiet capacity data 0).Affordable moves := by
  have few := moderate.1
  show 0 + 0 + (moves.map reserves).sum < 2 ^ 64
  rw [sum_reserves]
  unfold maxEntry
  omega

private theorem count_fours (count : Nat) : (fours count).countP isSend = count := by
  induction count with
  | zero => rfl
  | succ count ih =>
    unfold fours at ih ⊢
    rw [replicate_succ, flatten_cons, countP_append, ih]
    show 1 + count = count + 1
    omega

theorem overrun_moderate {capacity : Nat} (small : capacity ≤ 2 ^ 50) : Moderate (overrun capacity) := by
  constructor
  · unfold overrun
    rw [countP_append, count_fours]
    show capacity / 8 + 1 ≤ 2 ^ 49
    omega
  · intro move member
    rcases mem_append.mp member with inFours | last
    · obtain ⟨round, inReplicate, inRound⟩ := mem_flatten.mp inFours
      rw [eq_of_mem_replicate inReplicate] at inRound
      have roomy : ∀ each ∈ sendFour ++ receiveFour, each.Roomy := by decide
      exact roomy move inRound
    · have roomy : ∀ each ∈ [send fourBytes, .produce, .produce, .produce], each.Roomy := by decide
      exact roomy move last

/-- From its creation on the ring is a bounded queue, if the marker fits at the end of the data
area; if it does not, there is a run that writes behind the area. -/
theorem refines_boundedQueue (data : Cells U8) (capacity : U64) (ring : Ring)
    (created : fromRaw data capacity = .ok ring) :
    (capacity.toNat % 8 = 0 ∨ 4 ≤ capacity.toNat % 8 → ∀ moves, Moderate moves →
      ring.Correct moves) ∧
    (¬ (capacity.toNat % 8 = 0 ∨ 4 ≤ capacity.toNat % 8) → capacity.toNat ≤ 2 ^ 50 →
      ∃ moves, Moderate moves ∧ ¬ Along step WriteSafe ring moves) := by
  unfold fromRaw at created
  split at created
  · cases created
  next notSmall =>
    cases created
    have large : minCapacity ≤ capacity.toNat := Nat.le_of_not_lt notSmall
    constructor
    · intro markable moves moderate
      exact (fresh_holds data large markable).correct moderate.2 (fresh_affordable capacity data moderate)
    · intro unmarkable small
      exact ⟨overrun capacity.toNat, overrun_moderate small, overrun_unsafe large (by omega) (by omega)⟩

/-- A packet of four bytes goes through a ring of 64 KiB. -/
theorem four_through : (quiet 65536 (fun _ => 0) 0).Correct (sendFour ++ receiveFour) ∧
    QueueEvent.received ((quiet 65536 (fun _ => 0) 0).events (sendFour ++ receiveFour)) = [fourBytes] := by
  have created : fromRaw (fun _ => 0) 65536 = .ok (quiet 65536 (fun _ => 0) 0) := if_neg (by decide)
  refine ⟨(refines_boundedQueue _ _ _ created).1 (.inl (by decide)) _ ⟨?_, ?_⟩, ?_⟩
  · decide
  · decide
  · decide +kernel

/-- With 65537 bytes the marker is written behind the data area. -/
theorem marker_overruns : fromRaw (fun _ => 0) 65537 = .ok (quiet 65537 (fun _ => 0) 0) ∧
    Moderate (overrun 65537) ∧ ¬ Along step WriteSafe (quiet 65537 (fun _ => 0) 0) (overrun 65537) :=
  ⟨if_neg (by decide), overrun_moderate (by decide), overrun_unsafe (by decide) (by decide) (by decide)⟩

end Ring
end Visor.SharedRing
