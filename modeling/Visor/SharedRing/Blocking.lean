import Visor.SharedRing.Queue

/-! A receive buffer may be smaller than the largest packet. As long as every packet fits it, the
ring runs as it does with a buffer for any packet. -/

namespace Visor.SharedRing
open Library Move List BitVec QueueEvent

def Receiving.narrow (bufLen : Nat) : Receiving → Receiving
  | .loadReadIdx _ => .loadReadIdx bufLen
  | .loadWriteIdx _ readIdx => .loadWriteIdx bufLen readIdx
  | .readLength _ readIdx => .readLength bufLen readIdx
  | .storeSkipped _ readIdx => .storeSkipped bufLen readIdx
  | receiving => receiving

def Sending.packet : Sending → List U8
  | .idle => []
  | .loadWriteIdx packet | .loadReadIdx packet _ | .writeSkipMarker packet _
  | .writeLength packet _ | .writePayload packet _ | .storeWriteIdx packet _ => packet

namespace Move
def widen : Move → Move
  | .recv _ => .recv maxPacketSize
  | move => move

/-- The buffer is the one that is given, and the packet fits it or is refused. -/
def Fits (bufLen : Nat) : Move → Prop
  | .send packet => packet.length ≤ bufLen ∨ maxPacketSize < packet.length
  | .recv given => given = bufLen
  | _ => True

theorem widen_roomy (moves : List Move) : ∀ each ∈ moves.map widen, each.Roomy := by
  refine forall_mem_map.mpr fun move _ => ?_
  cases move with
  | recv => exact Nat.le_refl _
  | _ => trivial

theorem isSend_widen (move : Move) : move.widen.isSend = move.isSend := by cases move <;> rfl

end Move

namespace Ring
variable {ring : Ring} {queue : List (List U8)} {bufLen : Nat} {move : Move}

def narrow (ring : Ring) (bufLen : Nat) : Ring := { ring with consumer := ring.consumer.narrow bufLen }

theorem packet_step (sending : ring.producer.packet.length ≤ bufLen) (fits : move.Fits bufLen) :
    (ring.step move.widen).producer.packet.length ≤ bufLen ∧
    ∀ packet, ring.event move.widen = some (.send packet true) → packet.length ≤ bufLen := by
  cases move with
  | send packet =>
    simp only [widen, step, event, advance, trySend]
    unfold Fits at fits
    grind [Sending.packet]
  | recv =>
    simp only [widen, step, event, advance, tryRecv]
    grind
  | produce =>
    simp only [widen, step, event, advance, produce]
    grind [Sending.packet]
  | consume =>
    simp only [widen, step, event, advance, consume]
    grind

theorem Holds.length_fits (holds : ring.Holds queue) (apart : ring.head < ring.tail)
    (fits : ∀ packet ∈ queue, packet.length ≤ bufLen) :
    let len := BitVec.ofNat 32 (fromLeBytes (ring.data.read (ring.position ring.readIdx) 4))
    len = skipMarker ∨ len.toNat ≤ bufLen ∧ len.toNat ≤ maxPacketSize := by
  rw [position_eq]
  rcases holds.layout.front apart with ⟨packet, stored⟩ | skipped
  · obtain ⟨rest, rfl, _⟩ := holds.layout.stored_front apart stored
    rw [stored.length_eq]
    refine .inr ?_
    rw [toNat_ofNat]
    exact ⟨(Nat.mod_le ..).trans (fits packet mem_cons_self), (Nat.mod_le ..).trans stored.admitted⟩
  · rw [skipped.length_eq, ofNat_toNat, setWidth_eq]
    exact .inl rfl

section
variable (holds : ring.Holds queue) (fits : ∀ packet ∈ queue, packet.length ≤ bufLen)
include holds fits

theorem Holds.advance_narrow (fitting : move.Fits bufLen) :
    (ring.narrow bufLen).step move = (ring.step move.widen).narrow bufLen ∧
    (ring.narrow bufLen).event move = ring.event move.widen := by
  have receiving := holds.receiving
  have length (apart : ring.head < ring.tail) := holds.length_fits apart fits
  obtain ⟨capacity, data, writeIdx, readIdx, producer, consumer⟩ := ring
  cases move with
  | send packet =>
    simp only [narrow, widen, step, event, advance, trySend]
    cases producer <;> grind
  | produce =>
    simp only [narrow, widen, step, event, advance, Ring.produce, position]
    cases producer <;> grind
  | recv given =>
    cases fitting
    cases consumer <;> exact ⟨rfl, rfl⟩
  | consume =>
    cases consumer with
    | loadWriteIdx =>
      simp only [narrow, widen, step, event, advance, Ring.consume, Receiving.narrow]
      grind
    | readLength given readIdx =>
      obtain ⟨enough, rfl, apart⟩ := receiving
      have short := length apart
      simp only [narrow, widen, step, event, advance, Ring.consume, Receiving.narrow, position] at short ⊢
      grind
    | _ => exact ⟨rfl, rfl⟩

theorem Holds.run_narrow {moves later : List Move}
    (sending : ring.producer.packet.length ≤ bufLen) (fitting : ∀ each ∈ moves, each.Fits bufLen)
    (affordable : ring.Affordable ((moves ++ later).map widen)) :
    let wide := run step ring (moves.map widen)
    ∃ last, wide.Holds last ∧ (∀ packet ∈ last, packet.length ≤ bufLen) ∧
      wide.Affordable (later.map widen) ∧
      (bounds ring.size).Run queue ((ring.narrow bufLen).events moves) last ∧
      run step (ring.narrow bufLen) moves = wide.narrow bufLen := by
  induction moves generalizing ring queue with
  | nil => exact ⟨queue, holds, fits, affordable, .nil queue, rfl⟩
  | cons move rest ih =>
    obtain ⟨fitsMove, fitsRest⟩ := forall_mem_cons.mp fitting
    obtain ⟨after, step, held, _, affordableRest⟩ :=
      holds.cons (widen_roomy (move :: (rest ++ later))) affordable
    obtain ⟨sendingNext, pushed⟩ := packet_step sending fitsMove
    obtain ⟨next, same⟩ := holds.advance_narrow fits fitsMove
    rw [← same] at step pushed
    have fitsNext : ∀ packet ∈ after, packet.length ≤ bufLen := by
      generalize (ring.narrow bufLen).event move = event at step pushed
      cases step with
      | silent | refuse | empty => exact fits
      | push => exact forall_mem_append.mpr ⟨fits, forall_mem_singleton.mpr (pushed _ rfl)⟩
      | pop => exact (forall_mem_cons.mp fits).2
    obtain ⟨last, holdsLast, fitsLast, afford, ran, state⟩ :=
      ih held fitsNext sendingNext fitsRest affordableRest
    unfold size at ran
    rw [← next] at ran state
    rw [step_capacity] at ran
    exact ⟨last, holdsLast, fitsLast, afford, .cons step ran, state⟩

end

def held (ring : Ring) (moves : List Move) : List (List U8) :=
  (accepted (ring.events moves)).drop (received (ring.events moves)).length

/-- No call finds nothing while the ring holds a packet that fits the buffer. -/
def Flows (ring : Ring) (bufLen : Nat) (moves : List Move) : Prop :=
  ∀ before move after, before ++ move :: after = moves →
    (run step ring before).event move = some (.receive none) →
      ∀ packet ∈ ring.held before, bufLen < packet.length

theorem fitting_packets_flow (data : Cells U8) (capacity : U64) (ring : Ring) (bufLen : Nat)
    (moves : List Move) (created : fromRaw data capacity = .ok ring)
    (markable : capacity.toNat % 8 = 0 ∨ 4 ≤ capacity.toNat % 8)
    (few : moves.countP isSend ≤ 2 ^ 49) (fits : ∀ each ∈ moves, each.Fits bufLen) :
    ring.Flows bufLen moves := by
  obtain ⟨notSmall, rfl⟩ : ¬ capacity.toNat < minCapacity ∧ ring = quiet capacity data 0 := by
    unfold fromRaw at created
    split at created <;> cases created
    exact ⟨‹_›, rfl⟩
  rintro before move after rfl nothing
  have narrowed : (quiet capacity data 0).narrow bufLen = quiet capacity data 0 := rfl
  have moderate : Moderate ((before ++ [move]).map widen) := by
    refine ⟨?_, widen_roomy _⟩
    rw [countP_map, show isSend ∘ widen = isSend from funext isSend_widen]
    refine Nat.le_trans (List.Sublist.countP_le ?_) few
    simp
  have fresh := fresh_holds data (Nat.le_of_not_lt notSmall) markable
  obtain ⟨queue, holds, fitting, affordable, ran, state⟩ := fresh.run_narrow nofun (Nat.zero_le _)
    (fun each member => fits each (mem_append_left _ member))
    (fresh_affordable capacity data moderate)
  have moved := (holds.advance_narrow fitting (fits move (by simp))).2
  obtain ⟨next, step, _⟩ := holds.cons (widen_roomy [move]) affordable
  have once := ran.exactly_once
  rw [narrowed] at once state
  rw [← moved, ← state, nothing] at step
  -- a call finds nothing in an empty queue only
  cases step
  rw [append_nil, nil_append] at once
  intro packet member
  rw [held, once, drop_length] at member
  cases member

theorem four_bytes_flow : fromRaw (fun _ => 0) 65536 = .ok (quiet 65536 (fun _ => 0) 0) ∧
    (quiet 65536 (fun _ => 0) 0).Flows 4 (sendFour ++ [.recv 4, .consume, .consume]) := by
  have created : fromRaw (fun _ => 0) 65536 = .ok (quiet 65536 (fun _ => 0) 0) := if_neg (by decide)
  refine ⟨created, fitting_packets_flow _ _ _ 4 _ created (.inl (by decide)) (by decide) ?_⟩
  simp [sendFour, Fits, fourBytes]

theorem Holds.ends {moves : List Move} (holds : ring.Holds queue)
    (roomy : ∀ each ∈ moves, each.Roomy) (affordable : ring.Affordable moves) :
    ∃ last, (bounds ring.size).Run queue (ring.events moves) last ∧ (run step ring moves).Holds last := by
  induction moves generalizing ring queue with
  | nil => exact ⟨queue, .nil queue, holds⟩
  | cons move rest ih =>
    obtain ⟨after, step, next, roomyRest, affordableRest⟩ := holds.cons roomy affordable
    obtain ⟨last, ran, final⟩ := ih next roomyRest affordableRest
    unfold size at ran
    rw [step_capacity] at ran
    exact ⟨last, .cons step ran, final⟩

/-- The consumer is told of data exactly while a packet is held. -/
theorem has_data_exact (data : Cells U8) (capacity : U64) (moves : List Move)
    (created : fromRaw data capacity = .ok ring)
    (markable : capacity.toNat % 8 = 0 ∨ 4 ≤ capacity.toNat % 8) (moderate : Moderate moves) :
    (run step ring moves).hasData = true ↔ ring.held moves ≠ [] := by
  obtain ⟨large, rfl⟩ : minCapacity ≤ capacity.toNat ∧ ring = quiet capacity data 0 := by
    grind [fromRaw, quiet]
  obtain ⟨last, ran, holds⟩ :=
    (fresh_holds data large markable).ends moderate.2 (fresh_affordable capacity data moderate)
  have once : accepted _ = _ := ran.exactly_once
  rw [held, once, drop_left, hasData, decide_eq_true_eq]
  refine ⟨?_, holds.layout.lt⟩
  rintro apart rfl
  exact absurd holds.layout.eq_of_nil (Nat.ne_of_lt apart)

theorem four_bytes_shown : (run step (quiet 65536 (fun _ => 0) 0) sendFour).hasData = true := by
  refine (has_data_exact (fun _ => 0) 65536 sendFour (if_neg (by decide)) (.inl (by decide))
    ⟨by decide, by decide⟩).mpr ?_
  decide +kernel

def bytes (count : Nat) : List U8 := replicate count 0

/-- A packet of 1515 bytes, then one of four, and a call with the frame buffer of the net device. -/
def oversized : List Move :=
  [.send (bytes 1515), .produce, .produce, .produce, .produce, .produce, .send (bytes 4), .produce,
    .produce, .produce, .produce, .produce, .recv 1514, .consume, .consume, .consume]

theorem oversized_blocks :
    fromRaw (fun _ => 0) 65536 = .ok (quiet 65536 (fun _ => 0) 0) ∧
    ¬ (quiet 65536 (fun _ => 0) 0).Flows 1514 oversized ∧
    (run step (quiet 65536 (fun _ => 0) 0) oversized).readIdx = 0 := by
  refine ⟨if_neg (by decide), fun flows => ?_, by decide +kernel⟩
  have fits := flows (oversized.take 15) .consume [] rfl (by decide +kernel) (bytes 4) (by decide +kernel)
  exact absurd fits (by decide)

end Ring
end Visor.SharedRing
