import Visor.SharedRing.Layout

/-! The two sides may be anywhere in their calls. What each has found out so far stays true while
the other one moves: the consumer only gives bytes back, and the producer only adds entries behind
those that the consumer looks at. -/

namespace Visor.SharedRing
open Library BitVec Nat Cells FifoBounds
namespace Ring
abbrev head (ring : Ring) : Nat := ring.readIdx.toNat
abbrev tail (ring : Ring) : Nat := ring.writeIdx.toNat
abbrev size (ring : Ring) : Nat := ring.capacity.toNat

theorem position_eq (ring : Ring) (idx : U64) : ring.position idx = idx.toNat % ring.size := toNat_umod

abbrev gap (ring : Ring) : Nat := ring.size - ring.tail % ring.size

/-- An entry for the packet fits at the index, in bytes that the consumer has released. -/
structure Prepared (ring : Ring) (packet : List U8) (idx : U64) : Prop where
  admitted : packet.length ≤ maxPacketSize
  fits : idx.toNat % ring.size + entrySize packet.length ≤ ring.size
  released : idx.toNat + entrySize packet.length ≤ ring.head + ring.size
  next : idx.toNat = ring.tail ∨ Skipped ring.data ring.size ring.tail ∧
    ring.gap < entrySize packet.length ∧ idx.toNat = ring.tail + ring.gap

def SendingOk (ring : Ring) : Sending → Prop
  | .idle => True
  | .loadWriteIdx packet => packet.length ≤ maxPacketSize
  | .loadReadIdx packet writeIdx => packet.length ≤ maxPacketSize ∧ writeIdx = ring.writeIdx
  | .writeSkipMarker packet writeIdx =>
    packet.length ≤ maxPacketSize ∧ writeIdx = ring.writeIdx ∧ ring.gap < entrySize packet.length ∧
      ring.tail + ring.gap + entrySize packet.length ≤ ring.head + ring.size
  | .writeLength packet idx => ring.Prepared packet idx
  | .writePayload packet idx =>
    ring.Prepared packet idx ∧ ring.data.read (idx.toNat % ring.size) 4 = toLeBytes 4 packet.length
  | .storeWriteIdx packet idx => ring.Prepared packet idx ∧ Stored ring.data ring.size idx.toNat packet

def ReceivingOk (ring : Ring) : Receiving → Prop
  | .idle => True
  | .loadReadIdx bufLen => maxPacketSize ≤ bufLen
  | .loadWriteIdx bufLen readIdx => maxPacketSize ≤ bufLen ∧ readIdx = ring.readIdx
  | .readLength bufLen readIdx => maxPacketSize ≤ bufLen ∧ readIdx = ring.readIdx ∧ ring.head < ring.tail
  | .storeSkipped bufLen readIdx =>
    maxPacketSize ≤ bufLen ∧ readIdx = ring.readIdx ∧ ring.head < ring.tail ∧
      Skipped ring.data ring.size ring.head
  | .readPayload readIdx len =>
    readIdx = ring.readIdx ∧ ring.head < ring.tail ∧
      ∃ packet, Stored ring.data ring.size ring.head packet ∧ len.toNat = packet.length
  | .storeReadIdx readIdx buf =>
    readIdx = ring.readIdx ∧ ring.head < ring.tail ∧ Stored ring.data ring.size ring.head buf

/-- The write index, with what the call under way may add to it. -/
def reserve (ring : Ring) : Nat := ring.tail + if ring.producer = .idle then 0 else 2 * maxEntry

/-- The ring holds the queue. The marker fits wherever it may have to stand. -/
structure Holds (ring : Ring) (queue : List (List U8)) : Prop where
  large : minCapacity ≤ ring.size
  markable : ring.size % 8 = 0 ∨ 4 ≤ ring.size % 8
  aligned : ring.tail % ring.size % 8 = 0
  layout : Layout ring.data ring.size ring.head ring.tail queue
  within : ring.tail ≤ ring.head + ring.size
  sending : ring.SendingOk ring.producer
  receiving : ring.ReceivingOk ring.consumer
  counted : ring.reserve < 2 ^ 64

variable {ring next : Ring} {queue : List (List U8)} {packet : List U8} {idx : U64}

theorem Prepared.mono (prepared : ring.Prepared packet idx)
    (sameCapacity : next.capacity = ring.capacity) (sameData : next.data = ring.data)
    (sameTail : next.writeIdx = ring.writeIdx) (later : ring.head ≤ next.head) :
    next.Prepared packet idx := by
  obtain ⟨admitted, fits, released, place⟩ := prepared
  constructor
  · exact admitted
  · unfold size
    rw [sameCapacity]
    exact fits
  · unfold size
    rw [sameCapacity]
    exact released.trans (Nat.add_le_add_right later _)
  · unfold gap size tail
    rw [sameCapacity, sameData, sameTail]
    exact place

theorem SendingOk.mono {sending : Sending} (holds : ring.SendingOk sending)
    (sameCapacity : next.capacity = ring.capacity) (sameData : next.data = ring.data)
    (sameTail : next.writeIdx = ring.writeIdx) (later : ring.head ≤ next.head) :
    next.SendingOk sending := by
  cases sending with
  | idle => trivial
  | loadWriteIdx => exact holds
  | loadReadIdx => exact ⟨holds.1, holds.2.trans sameTail.symm⟩
  | writeSkipMarker =>
    obtain ⟨admitted, isTail, short, released⟩ := holds
    refine ⟨admitted, isTail.trans sameTail.symm, ?_, ?_⟩ <;> unfold gap size tail <;>
      rw [sameCapacity, sameTail]
    · exact short
    · exact released.trans (Nat.add_le_add_right later _)
  | writeLength => exact Prepared.mono holds sameCapacity sameData sameTail later
  | writePayload =>
    obtain ⟨prepared, length⟩ := holds
    refine ⟨prepared.mono sameCapacity sameData sameTail later, ?_⟩
    unfold size at length ⊢
    rw [sameCapacity, sameData]
    exact length
  | storeWriteIdx =>
    obtain ⟨prepared, stored⟩ := holds
    refine ⟨prepared.mono sameCapacity sameData sameTail later, ?_⟩
    unfold size at stored ⊢
    rw [sameCapacity, sameData]
    exact stored

theorem ReceivingOk.frame {receiving : Receiving} (holds : ring.ReceivingOk receiving)
    (layout : Layout ring.data ring.size ring.head ring.tail queue)
    (sameCapacity : next.capacity = ring.capacity) (sameHead : next.readIdx = ring.readIdx)
    (later : ring.tail ≤ next.tail)
    (agree : Agree ring.size ring.data next.data ring.head ring.tail) : next.ReceivingOk receiving := by
  have keepsSkipped : ring.head < ring.tail → Skipped ring.data ring.size ring.head →
    Skipped next.data next.size next.head := by
    intro apart skipped
    have room := skipped.room
    obtain ⟨_, inside, _⟩ := layout.skipped_front apart skipped
    unfold size head
    rw [sameCapacity, sameHead]
    exact skipped.frame (agree.narrow (Nat.le_refl _) (by omega))
  have keepsStored : ∀ packet, ring.head < ring.tail →
    Stored ring.data ring.size ring.head packet → Stored next.data next.size next.head packet := by
    intro packet apart stored
    obtain ⟨_, _, rest⟩ := layout.stored_front apart stored
    unfold size head
    rw [sameCapacity, sameHead]
    exact stored.frame (agree.narrow (Nat.le_refl _) rest.le)
  have keepsApart : ring.head < ring.tail → next.head < next.tail := by
    intro apart
    unfold head
    rw [sameHead]
    exact Nat.lt_of_lt_of_le apart later
  cases receiving with
  | idle => trivial
  | loadReadIdx => exact holds
  | loadWriteIdx => exact ⟨holds.1, holds.2.trans sameHead.symm⟩
  | readLength =>
    obtain ⟨enough, isHead, apart⟩ := holds
    exact ⟨enough, isHead.trans sameHead.symm, keepsApart apart⟩
  | storeSkipped =>
    obtain ⟨enough, isHead, apart, skipped⟩ := holds
    exact ⟨enough, isHead.trans sameHead.symm, keepsApart apart, keepsSkipped apart skipped⟩
  | readPayload =>
    obtain ⟨isHead, apart, packet, stored, isLength⟩ := holds
    exact ⟨isHead.trans sameHead.symm, keepsApart apart, packet, keepsStored packet apart stored, isLength⟩
  | storeReadIdx readIdx buf =>
    obtain ⟨isHead, apart, stored⟩ := holds
    exact ⟨isHead.trans sameHead.symm, keepsApart apart, keepsStored buf apart stored⟩

theorem toNat_add_ofNat {count : Nat} (small : idx.toNat + count < 2 ^ 64) :
    (idx + BitVec.ofNat 64 count).toNat = idx.toNat + count := by
  rw [toNat_add, toNat_ofNat]
  omega

theorem reserve_busy (busy : ring.producer ≠ .idle) : ring.reserve = ring.tail + 2 * maxEntry := by
  unfold reserve
  rw [if_neg busy]

/-- What a move leads to is what the queue may do, and uses no more of the index than was
reserved. -/
def Follows (ring : Ring) (queue : List (List U8)) (result : Ring × Option Event) : Prop :=
  ∃ after, (bounds ring.size).Step queue result.2 after ∧ result.1.Holds after ∧
    result.1.reserve ≤ ring.reserve

section
variable (holds : ring.Holds queue) (busy : ring.producer ≠ .idle) {event : Option Event}
  (step : (bounds ring.size).Step queue event queue)
include holds busy step

theorem Holds.rewritten {cells : Cells U8} {producer : Sending}
    (agree : Agree ring.size ring.data cells ring.head ring.tail)
    (sending : { ring with data := cells, producer := producer }.SendingOk producer) :
    ring.Follows queue ({ ring with data := cells, producer := producer }, event) := by
  have reserved : { ring with data := cells, producer := producer }.reserve ≤ ring.reserve := by
    rw [reserve_busy busy]
    show ring.tail + (if producer = .idle then 0 else 2 * maxEntry) ≤ _
    split <;> omega
  refine ⟨queue, step, ?_, reserved⟩
  constructor
  · exact holds.large
  · exact holds.markable
  · exact holds.aligned
  · exact holds.layout.frame agree
  · exact holds.within
  · exact sending
  · exact holds.receiving.frame holds.layout rfl rfl (Nat.le_refl _) agree
  · exact Nat.lt_of_le_of_lt reserved holds.counted

theorem Holds.decided {producer : Sending}
    (sending : { ring with producer := producer }.SendingOk producer) :
    ring.Follows queue ({ ring with producer := producer }, event) :=
  holds.rewritten busy step (fun _ _ _ => rfl) sending

end

section
variable (holds : ring.Holds queue)
include holds

theorem Holds.availableSpace : ring.availableSpace + ring.tail = ring.size + ring.head := by
  have ordered := holds.layout.le
  have within := holds.within
  have used : (ring.writeIdx - ring.readIdx).toNat = ring.tail - ring.head := toNat_sub_of_le ordered
  have free : ring.availableSpace = ring.size - (ring.tail - ring.head) := by
    rw [← used]
    apply toNat_sub_of_le
    rw [le_def, used]
    exact Nat.sub_le_iff_le_add'.mpr within
  omega

variable {packet : List U8}

theorem Holds.refuses (admitted : packet.length ≤ maxPacketSize)
    (tight : ring.size < ring.tail - ring.head + entrySize packet.length + maxEntry) :
    (bounds ring.size).Step queue (some (.send packet false)) queue := by
  apply Step.refuse
  intro _
  have large := holds.large
  have within := holds.within
  obtain ⟨_, _, small, _⟩ := entrySize_bounds admitted
  have packed := holds.layout.le_total (by omega)
  have full : ring.size < (bounds ring.size).total queue + entrySize packet.length + 2 *
    maxEntry := by omega
  refine ⟨?_, full⟩
  rintro rfl
  unfold minCapacity at large
  unfold maxEntry at small full
  rw [total_nil] at full
  omega

theorem produce_loadReadIdx {writeIdx : U64}
    (which : ring.producer = .loadReadIdx packet writeIdx) : ring.Follows queue ring.produce := by
  have busy : ring.producer ≠ .idle := by
    rw [which]
    nofun
  have sending := holds.sending
  rw [which] at sending
  obtain ⟨admitted, rfl⟩ := sending
  have room := holds.availableSpace
  unfold availableSpace at room
  obtain ⟨_, _, small, _⟩ := entrySize_bounds admitted
  unfold produce
  rw [which]
  simp only [position_eq]
  rw [show ring.capacity.toNat = ring.size from rfl]
  rw [show ring.writeIdx.toNat = ring.tail from rfl]
  split
  next fits =>
    split
    · refine holds.decided busy (.silent queue) ⟨admitted, fits, ?_, .inl rfl⟩
      show ring.tail + entrySize packet.length ≤ ring.head + ring.size
      omega
    · exact holds.decided busy (holds.refuses admitted (by omega)) trivial
  · split
    · refine holds.decided busy (.silent queue) ⟨admitted, rfl, ?_, ?_⟩
      · show ring.size - ring.tail % ring.size < entrySize packet.length
        omega
      · show ring.tail + (ring.size - ring.tail % ring.size) + entrySize packet.length ≤
          ring.head + ring.size
        omega
    · exact holds.decided busy (holds.refuses admitted (by omega)) trivial

theorem Holds.marker_fits : ring.tail % ring.size + 4 ≤ ring.size := by
  have large := holds.large
  have aligned := holds.aligned
  have markable := holds.markable
  have below : ring.tail % ring.size < ring.size := mod_lt _ (by unfold minCapacity at large; omega)
  omega

theorem produce_writeSkipMarker {writeIdx : U64}
    (which : ring.producer = .writeSkipMarker packet writeIdx) : ring.Follows queue ring.produce := by
  have busy : ring.producer ≠ .idle := by
    rw [which]
    nofun
  have sending := holds.sending
  rw [which] at sending
  obtain ⟨admitted, rfl, short, released⟩ := sending
  have counted := holds.counted
  rw [reserve_busy busy] at counted
  obtain ⟨_, _, small, _⟩ := entrySize_bounds admitted
  have fits := holds.marker_fits
  have newIdx : (ring.writeIdx + BitVec.ofNat 64 ring.gap).toNat = ring.tail + ring.gap :=
    toNat_add_ofNat (show ring.tail + ring.gap < 2 ^ 64 by omega)
  unfold produce
  rw [which]
  simp only [position_eq]
  have agree : Agree ring.size ring.data
    (ring.data.write (ring.tail % ring.size + 0) (toLeBytes 4 skipMarker.toNat))
    ring.head ring.tail := agree_write fits (Nat.le_refl _) (by omega) (by simp)
  refine holds.rewritten busy (.silent queue) agree ⟨admitted, ?_, ?_, .inr ⟨⟨fits, ?_⟩, short, newIdx⟩⟩
  · show (ring.writeIdx + BitVec.ofNat 64 ring.gap).toNat % ring.size + _ ≤ ring.size
    have large := holds.large
    unfold minCapacity at large
    unfold maxEntry at small
    rw [newIdx, position_gap (by omega)]
    omega
  · rw [newIdx]
    exact released
  · have written := read_write_same ring.data (ring.tail % ring.size) (toLeBytes 4 skipMarker.toNat)
    rwa [length_toLeBytes] at written

end

section
variable {packet : List U8} {idx : U64} (prepared : ring.Prepared packet idx)
include prepared

theorem Prepared.behind : ring.tail ≤ idx.toNat := by
  rcases prepared.next with here | ⟨_, _, there⟩
  · exact here.ge
  · rw [there]
    exact le_add_right _ _

theorem Prepared.agree {offset : Nat} {bytes : List U8}
    (inside : offset + bytes.length ≤ entrySize packet.length) :
    Agree ring.size ring.data (ring.data.write (idx.toNat % ring.size + offset) bytes) ring.head
    ring.tail := agree_write prepared.fits prepared.behind prepared.released inside

theorem Prepared.rewritten (ordered : ring.head ≤ ring.tail) {offset : Nat} {bytes : List U8}
    (producer : Sending) (inside : offset + bytes.length ≤ entrySize packet.length) : { ring with
    data := ring.data.write (idx.toNat % ring.size + offset) bytes
    producer := producer }.Prepared packet idx := by
  refine ⟨prepared.admitted, prepared.fits, prepared.released, ?_⟩
  rcases prepared.next with here | ⟨skipped, short, there⟩
  · exact .inl here
  · have room := skipped.room
    have behind : ring.tail + 4 ≤ idx.toNat := by
      rw [there]
      show ring.tail + 4 ≤ ring.tail + (ring.size - ring.tail % ring.size)
      omega
    have within := prepared.released
    exact .inr ⟨skipped.frame (agree_write prepared.fits behind (by omega) inside), short, there⟩

end

theorem produce_writeLength (holds : ring.Holds queue)
    (which : ring.producer = .writeLength packet idx) : ring.Follows queue ring.produce := by
  have sending := holds.sending
  rw [which] at sending
  have prepared : ring.Prepared packet idx := sending
  obtain ⟨header, _, _, _⟩ := entrySize_bounds prepared.admitted
  have inside : 0 + (toLeBytes 4 packet.length).length ≤ entrySize packet.length := by
    rw [length_toLeBytes]
    omega
  unfold produce
  rw [which]
  simp only [position_eq]
  refine holds.rewritten (by rw [which]; nofun) (.silent queue) (prepared.agree inside)
    ⟨prepared.rewritten holds.layout.le _ inside, ?_⟩
  have written := read_write_same ring.data (idx.toNat % ring.size) (toLeBytes 4 packet.length)
  rwa [length_toLeBytes] at written

theorem produce_writePayload (holds : ring.Holds queue)
    (which : ring.producer = .writePayload packet idx) : ring.Follows queue ring.produce := by
  have sending := holds.sending
  rw [which] at sending
  obtain ⟨prepared, length⟩ := sending
  obtain ⟨header, _, _, _⟩ := entrySize_bounds prepared.admitted
  have inside : 4 + packet.length ≤ entrySize packet.length := by omega
  unfold produce
  rw [which]
  simp only [position_eq]
  refine holds.rewritten (by rw [which]; nofun) (.silent queue) (prepared.agree inside)
    ⟨prepared.rewritten holds.layout.le _ inside, prepared.admitted, prepared.fits, ?_, ?_⟩
  · have kept := read_write_disjoint ring.data (idx.toNat % ring.size + 4) packet
      (idx.toNat % ring.size) 4 (.inl (Nat.le_refl _))
    exact kept.trans length
  · exact read_write_same _ _ _

theorem Prepared.layout (prepared : ring.Prepared packet idx)
    (stored : Stored ring.data ring.size idx.toNat packet)
    (layout : Layout ring.data ring.size ring.head ring.tail queue) :
    Layout ring.data ring.size ring.head (idx.toNat + entrySize packet.length) (queue ++ [packet]) := by
  rcases prepared.next with here | ⟨skipped, short, there⟩
  · rw [here] at stored ⊢
    exact layout.append (.entry stored (.empty _))
  · rw [there] at stored ⊢
    exact layout.append (.skip skipped short stored (.empty _))

private theorem produce_storeWriteIdx (holds : ring.Holds queue)
    (which : ring.producer = .storeWriteIdx packet idx) : ring.Follows queue ring.produce := by
  have busy : ring.producer ≠ .idle := by
    rw [which]
    nofun
  have sending := holds.sending
  rw [which] at sending
  obtain ⟨prepared, stored⟩ := sending
  have large := holds.large
  have counted := holds.counted
  rw [reserve_busy busy] at counted
  obtain ⟨_, _, small, eights⟩ := entrySize_bounds prepared.admitted
  have layout := prepared.layout stored holds.layout
  have room := layout.total_le
  have released := prepared.released
  have added : idx.toNat + entrySize packet.length ≤ ring.tail + 2 * maxEntry := by
    rcases prepared.next with here | ⟨_, short, there⟩ <;> omega
  have newIdx : (idx + BitVec.ofNat 64 (entrySize packet.length)).toNat =
    idx.toNat + entrySize packet.length := toNat_add_ofNat (by omega)
  have start : idx.toNat % ring.size % 8 = 0 := by
    rcases prepared.next with here | ⟨_, _, there⟩
    · rw [here]
      exact holds.aligned
    · rw [there, position_gap (by unfold minCapacity at large; omega)]
  unfold produce
  rw [which]
  have fullest : (bounds ring.size).total (queue ++ [packet]) ≤ ring.size := by omega
  refine ⟨queue ++ [packet], .push prepared.admitted fullest, ?_, ?_⟩
  · constructor
    · exact large
    · exact holds.markable
    · show (idx + BitVec.ofNat 64 (entrySize packet.length)).toNat % ring.size % 8 = 0
      rw [newIdx]
      rcases position_entry prepared.fits with ⟨_, place⟩ | ⟨_, place⟩ <;> rw [place]
      omega
    · show Layout _ _ _ (idx + BitVec.ofNat 64 (entrySize packet.length)).toNat _
      rw [newIdx]
      exact layout
    · show (idx + BitVec.ofNat 64 (entrySize packet.length)).toNat ≤ _
      rw [newIdx]
      exact released
    · trivial
    · refine holds.receiving.frame holds.layout rfl rfl ?_ fun _ _ _ => rfl
      show ring.tail ≤ (idx + BitVec.ofNat 64 (entrySize packet.length)).toNat
      rw [newIdx]
      exact prepared.behind.trans (le_add_right _ _)
    · show (idx + BitVec.ofNat 64 (entrySize packet.length)).toNat + 0 < 2 ^ 64
      omega
  · rw [reserve_busy busy]
    show (idx + BitVec.ofNat 64 (entrySize packet.length)).toNat + 0 ≤ _
    omega

theorem Holds.produce (holds : ring.Holds queue) : ring.Follows queue ring.produce := by
  cases which : ring.producer with
  | idle =>
    unfold Ring.produce
    rw [which]
    exact ⟨queue, .silent queue, holds, Nat.le_refl _⟩
  | loadWriteIdx =>
    have sending := holds.sending
    rw [which] at sending
    unfold Ring.produce
    rw [which]
    exact holds.decided (by rw [which]; nofun) (.silent queue) ⟨sending, rfl⟩
  | loadReadIdx => exact produce_loadReadIdx holds which
  | writeSkipMarker => exact produce_writeSkipMarker holds which
  | writeLength => exact produce_writeLength holds which
  | writePayload => exact produce_writePayload holds which
  | storeWriteIdx => exact produce_storeWriteIdx holds which

section
variable (holds : ring.Holds queue) {readIdx : U64}
include holds
section
variable {event : Option Event} {consumer : Receiving}

theorem Holds.released {after : List (List U8)} (step : (bounds ring.size).Step queue event after)
    (later : ring.head ≤ readIdx.toNat) (layout : Layout ring.data ring.size readIdx.toNat ring.tail after)
    (receiving : { ring with readIdx := readIdx, consumer := consumer }.ReceivingOk consumer) :
    ring.Follows queue ({ ring with readIdx := readIdx, consumer := consumer }, event) := by
  refine ⟨after, step, ?_, Nat.le_refl _⟩
  constructor
  · exact holds.large
  · exact holds.markable
  · exact holds.aligned
  · exact layout
  · exact holds.within.trans (Nat.add_le_add_right later _)
  · exact holds.sending.mono rfl rfl rfl later
  · exact receiving
  · exact holds.counted

theorem Holds.found (step : (bounds ring.size).Step queue event queue)
    (receiving : { ring with consumer := consumer }.ReceivingOk consumer) :
    ring.Follows queue ({ ring with consumer := consumer }, event) :=
  holds.released step (Nat.le_refl _) holds.layout receiving

end

theorem consume_readLength {bufLen : Nat} (which : ring.consumer = .readLength bufLen readIdx) :
    ring.Follows queue ring.consume := by
  have receiving := holds.receiving
  rw [which] at receiving
  obtain ⟨enough, rfl, apart⟩ := receiving
  unfold consume
  rw [which]
  simp only [position_eq]
  rcases holds.layout.front apart with ⟨packet, stored⟩ | skipped
  · have admitted := stored.admitted
    unfold maxPacketSize at admitted enough
    have isLength : (BitVec.ofNat 32 packet.length).toNat = packet.length := by
      rw [toNat_ofNat]
      omega
    have notMarker : BitVec.ofNat 32 packet.length ≠ skipMarker := by
      intro same
      rw [same, show skipMarker.toNat = 4294967295 from rfl] at isLength
      omega
    rw [stored.length_eq, if_neg notMarker, isLength, if_neg (by omega)]
    exact holds.found (.silent queue) ⟨rfl, apart, packet, stored, isLength⟩
  · rw [skipped.length_eq, ofNat_toNat, setWidth_eq, if_pos rfl]
    exact holds.found (.silent queue) ⟨enough, rfl, apart, skipped⟩

theorem consume_storeSkipped {bufLen : Nat} (which : ring.consumer = .storeSkipped bufLen readIdx) :
    ring.Follows queue ring.consume := by
  have receiving := holds.receiving
  rw [which] at receiving
  obtain ⟨enough, rfl, apart, skipped⟩ := receiving
  obtain ⟨_, inside, layout⟩ := holds.layout.skipped_front apart skipped
  have bound := ring.writeIdx.isLt
  have newIdx : (ring.readIdx + BitVec.ofNat 64 (ring.size - ring.head % ring.size)).toNat =
    ring.head + (ring.size - ring.head % ring.size) := toNat_add_ofNat (inside.trans bound)
  unfold consume
  rw [which]
  simp only [position_eq]
  refine holds.released (.silent queue) ?_ ?_ enough
  · rw [newIdx]
    exact le_add_right _ _
  · rw [newIdx]
    exact layout

private theorem consume_storeReadIdx {buf : List U8} (which : ring.consumer = .storeReadIdx readIdx buf) :
    ring.Follows queue ring.consume := by
  have receiving := holds.receiving
  rw [which] at receiving
  obtain ⟨rfl, apart, stored⟩ := receiving
  obtain ⟨rest, rfl, layout⟩ := holds.layout.stored_front apart stored
  have bound := ring.writeIdx.isLt
  have newIdx : (ring.readIdx + BitVec.ofNat 64 (entrySize buf.length)).toNat =
    ring.head + entrySize buf.length := toNat_add_ofNat (Nat.lt_of_le_of_lt layout.le bound)
  unfold consume
  rw [which]
  refine holds.released (.pop buf rest) ?_ ?_ trivial
  · rw [newIdx]
    exact le_add_right _ _
  · rw [newIdx]
    exact layout

theorem Holds.consume : ring.Follows queue ring.consume := by
  have receiving := holds.receiving
  cases which : ring.consumer with
  | idle =>
    unfold Ring.consume
    rw [which]
    exact ⟨queue, .silent queue, holds, Nat.le_refl _⟩
  | loadReadIdx =>
    rw [which] at receiving
    unfold Ring.consume
    rw [which]
    exact holds.found (.silent queue) ⟨receiving, rfl⟩
  | loadWriteIdx =>
    rw [which] at receiving
    obtain ⟨enough, rfl⟩ := receiving
    unfold Ring.consume
    rw [which]
    dsimp only
    split
    next nothing =>
      have isEmpty : queue = [] := by
        by_contra filled
        exact absurd (holds.layout.lt filled) (Nat.not_lt.mpr nothing)
      subst isEmpty
      exact holds.found .empty trivial
    next some =>
      exact holds.found (.silent queue) ⟨enough, rfl, Nat.lt_of_not_le some⟩
  | readLength => exact consume_readLength holds which
  | storeSkipped => exact consume_storeSkipped holds which
  | readPayload =>
    rw [which] at receiving
    obtain ⟨rfl, apart, packet, stored, isLength⟩ := receiving
    unfold Ring.consume
    rw [which]
    simp only [position_eq, isLength]
    have copied : ring.data.read (ring.head % ring.size + entryHeader) packet.length = packet :=
      stored.payload
    rw [copied]
    exact holds.found (.silent queue) ⟨rfl, apart, stored⟩
  | storeReadIdx => exact consume_storeReadIdx holds which

end
end Ring

namespace Move
def isSend : Move → Bool
  | .send _ => true
  | _ => false

def reserves (move : Move) : Nat := if move.isSend then 2 * maxEntry else 0

def Roomy : Move → Prop
  | .recv bufLen => maxPacketSize ≤ bufLen
  | _ => True

instance : DecidablePred Roomy := fun move => by cases move <;> (unfold Roomy; infer_instance)

end Move

namespace Ring
variable {ring : Ring} {queue : List (List U8)}

theorem Holds.advanced (holds : ring.Holds queue) {move : Move} (roomy : move.Roomy)
    (counted : ring.reserve + move.reserves < 2 ^ 64) :
    ∃ after, (bounds ring.size).Step queue (ring.event move) after ∧ (ring.step move).Holds after ∧
    (ring.step move).reserve ≤ ring.reserve + move.reserves := by
  cases move with
  | produce => exact holds.produce
  | consume => exact holds.consume
  | recv bufLen =>
    show ring.Follows queue (ring.tryRecv bufLen)
    unfold tryRecv
    split
    · exact holds.found (.silent queue) roomy
    · exact ⟨queue, .silent queue, holds, Nat.le_refl _⟩
  | send packet =>
    have unchanged : ring.reserve ≤ ring.reserve + (Move.send packet).reserves := le_add_right _ _
    unfold event step advance trySend
    dsimp only
    split
    next idle =>
      split
      next tooLarge =>
        refine ⟨queue, .refuse fun admitted => ?_, holds, unchanged⟩
        exact absurd admitted (Nat.not_le.mpr tooLarge)
      next admitted =>
        have reserved : { ring with producer := .loadWriteIdx packet }.reserve =
          ring.reserve + (Move.send packet).reserves := by
          unfold reserve
          rw [if_pos idle, if_neg nofun]
          rfl
        refine ⟨queue, .silent queue, ?_, reserved.le⟩
        constructor
        · exact holds.large
        · exact holds.markable
        · exact holds.aligned
        · exact holds.layout
        · exact holds.within
        · exact Nat.le_of_not_lt admitted
        · exact holds.receiving.frame holds.layout rfl rfl (Nat.le_refl _) fun _ _ _ => rfl
        · rw [reserved]
          exact counted
    · exact ⟨queue, .silent queue, holds, unchanged⟩

/-- A move writes in the data area only, and nothing that the consumer has not released. -/
def WriteSafe (ring : Ring) (move : Move) : Prop :=
  ∀ span, ring.writes move = some span → span.Within ⟨0, ring.size⟩ ∧
    ∀ idx, ring.head ≤ idx → idx < ring.tail → ¬ span.Covers (idx % ring.size)

private theorem writeSafe_span {idx count : Nat} {span : Span} (fits : idx % ring.size + count ≤ ring.size)
    (behind : ring.tail ≤ idx) (released : idx + count ≤ ring.head + ring.size)
    (within : span.Within ⟨idx % ring.size, count⟩) :
    span.Within ⟨0, ring.size⟩ ∧ ∀ earlier, ring.head ≤ earlier → earlier < ring.tail →
    ¬ span.Covers (earlier % ring.size) := by
  obtain ⟨lower, upper⟩ := within
  dsimp only at lower upper
  refine ⟨⟨zero_le _, by dsimp only; omega⟩, fun earlier above below covers => ?_⟩
  obtain ⟨left, right⟩ := covers
  have place : (idx + (earlier % ring.size - idx % ring.size)) % ring.size = earlier % ring.size := by
    rw [position_add fits (by omega)]
    omega
  exact position_ne (by omega) (by omega) place.symm

theorem Holds.writeSafe (holds : ring.Holds queue) (move : Move) : ring.WriteSafe move := by
  intro span wrote
  cases move with
  | send | recv | consume => cases wrote
  | produce =>
    have sending := holds.sending
    unfold writes at wrote
    cases which : ring.producer with
    | idle | loadWriteIdx | loadReadIdx | storeWriteIdx => rw [which] at wrote; cases wrote
    | writeSkipMarker =>
      rw [which] at wrote sending
      obtain ⟨admitted, rfl, short, released⟩ := sending
      cases wrote
      have fits := holds.marker_fits
      rw [position_eq]
      refine writeSafe_span fits (Nat.le_refl _) ?_ ⟨Nat.le_refl _, Nat.le_refl _⟩
      obtain ⟨_, _, _, _⟩ := entrySize_bounds admitted
      omega
    | writeLength packet idx =>
      rw [which] at wrote sending
      have prepared : ring.Prepared packet idx := sending
      cases wrote
      rw [position_eq]
      refine writeSafe_span prepared.fits prepared.behind prepared.released ⟨Nat.le_refl _, ?_⟩
      obtain ⟨_, _, _, _⟩ := entrySize_bounds prepared.admitted
      dsimp only
      omega
    | writePayload packet idx =>
      rw [which] at wrote sending
      have prepared : ring.Prepared packet idx := sending.1
      cases wrote
      rw [position_eq]
      refine writeSafe_span prepared.fits prepared.behind prepared.released ⟨le_add_right _ _, ?_⟩
      obtain ⟨_, _, _, _⟩ := entrySize_bounds prepared.admitted
      unfold entryHeader
      dsimp only
      omega

end Ring
end Visor.SharedRing
