import Visor.Library.Run
import Visor.Machine.Words

/-! An entry lies in one piece, at a position that is its index modulo the capacity. Where the next
entry would not fit before the end of the area, a marker takes up the rest of it. The layout says
which packets stand between two indices. -/

namespace Visor.SharedRing
open Library Nat FifoBounds

/-! A producer and a consumer of packets share two byte indices and a data area. Each of their
calls is cut into the accesses it makes to what they share, which may interleave in any way;
what a call has in its local variables stands in its state. -/

def headerSize : Nat := 192
def minCapacity : Nat := 64 * 1024
def maxPacketSize : Nat := 9014
def entryHeader : Nat := 4
def entryAlign : Nat := 8
def skipMarker : U32 := 0xFFFFFFFF
def alignUp (value align : Nat) : Nat :=
  (BitVec.ofNat 64 (value + align - 1) &&& ~~~ BitVec.ofNat 64 (align - 1)).toNat

def entrySize (length : Nat) : Nat := alignUp (entryHeader + length) entryAlign

inductive RingError where
  | tooSmall (size min : Nat)

inductive Sending where
  | idle
  | loadWriteIdx (packet : List U8)
  | loadReadIdx (packet : List U8) (writeIdx : U64)
  | writeSkipMarker (packet : List U8) (writeIdx : U64)
  | writeLength (packet : List U8) (idx : U64)
  | writePayload (packet : List U8) (idx : U64)
  | storeWriteIdx (packet : List U8) (idx : U64)
deriving DecidableEq

inductive Receiving where
  | idle
  | loadReadIdx (bufLen : Nat)
  | loadWriteIdx (bufLen : Nat) (readIdx : U64)
  | readLength (bufLen : Nat) (readIdx : U64)
  | storeSkipped (bufLen : Nat) (readIdx : U64)
  | readPayload (readIdx : U64) (len : U32)
  | storeReadIdx (readIdx : U64) (buf : List U8)

structure Ring where
  capacity : U64
  data : Cells U8
  writeIdx : U64
  readIdx : U64
  producer : Sending
  consumer : Receiving

namespace Ring
/-- Both sides over the same memory, which has room for the header and `capacity` bytes. -/
def fromRaw (data : Cells U8) (capacity : U64) : Except RingError Ring :=
  if capacity.toNat < minCapacity then .error (.tooSmall capacity.toNat minCapacity)
  else .ok ⟨capacity, data, 0, 0, .idle, .idle⟩

def createPair (data : Cells U8) (size : U64) : Except RingError Ring :=
  fromRaw data (size - BitVec.ofNat 64 headerSize)

variable (ring : Ring)

def position (idx : U64) : Nat := (idx % ring.capacity).toNat
def availableSpace : Nat := (ring.capacity - (ring.writeIdx - ring.readIdx)).toNat
def hasData : Bool := decide (ring.readIdx < ring.writeIdx)
abbrev Event := QueueEvent (List U8)

def trySend (packet : List U8) : Ring × Option Event :=
  match ring.producer with
  | .idle =>
    if packet.length > maxPacketSize then (ring, some (.send packet false))
    else ({ ring with producer := .loadWriteIdx packet }, none)
  | _ => (ring, none)

def produce : Ring × Option Event :=
  match ring.producer with
  | .idle => (ring, none)
  | .loadWriteIdx packet => ({ ring with producer := .loadReadIdx packet ring.writeIdx }, none)
  | .loadReadIdx packet writeIdx =>
    let entrySize := entrySize packet.length
    let writePos := ring.position writeIdx
    let used := writeIdx - ring.readIdx
    let available := (ring.capacity - used).toNat
    if writePos + entrySize ≤ ring.capacity.toNat then
      if available ≥ entrySize then
        ({ ring with producer := .writeLength packet writeIdx }, none)
      else ({ ring with producer := .idle }, some (.send packet false))
    else
      let gap := ring.capacity.toNat - writePos
      let totalNeeded := gap + entrySize
      if available ≥ totalNeeded then
        ({ ring with producer := .writeSkipMarker packet writeIdx }, none)
      else ({ ring with producer := .idle }, some (.send packet false))
  | .writeSkipMarker packet writeIdx =>
    let writePos := ring.position writeIdx
    let newWriteIdx := writeIdx + BitVec.ofNat 64 (ring.capacity.toNat - writePos)
    ({ ring with
      data := ring.data.write writePos (toLeBytes 4 skipMarker.toNat)
      producer := .writeLength packet newWriteIdx }, none)
  | .writeLength packet idx =>
    ({ ring with
      data := ring.data.write (ring.position idx) (toLeBytes 4 packet.length)
      producer := .writePayload packet idx }, none)
  | .writePayload packet idx =>
    ({ ring with
      data := ring.data.write (ring.position idx + entryHeader) packet
      producer := .storeWriteIdx packet idx }, none)
  | .storeWriteIdx packet idx =>
    ({ ring with
      writeIdx := idx + BitVec.ofNat 64 (entrySize packet.length)
      producer := .idle }, some (.send packet true))

def tryRecv (bufLen : Nat) : Ring × Option Event :=
  match ring.consumer with
  | .idle => ({ ring with consumer := .loadReadIdx bufLen }, none)
  | _ => (ring, none)

def consume : Ring × Option Event :=
  match ring.consumer with
  | .idle => (ring, none)
  | .loadReadIdx bufLen => ({ ring with consumer := .loadWriteIdx bufLen ring.readIdx }, none)
  | .loadWriteIdx bufLen readIdx =>
    if readIdx ≥ ring.writeIdx then ({ ring with consumer := .idle }, some (.receive none))
    else ({ ring with consumer := .readLength bufLen readIdx }, none)
  | .readLength bufLen readIdx =>
    let len := BitVec.ofNat 32 (fromLeBytes (ring.data.read (ring.position readIdx) 4))
    if len = skipMarker then ({ ring with consumer := .storeSkipped bufLen readIdx }, none)
    else if len.toNat > bufLen then ({ ring with consumer := .idle }, some (.receive none))
    else ({ ring with consumer := .readPayload readIdx len }, none)
  | .storeSkipped bufLen readIdx =>
      -- The call starts again behind the gap.
      let newReadIdx := readIdx + BitVec.ofNat 64 (ring.capacity.toNat - ring.position readIdx)
      ({ ring with readIdx := newReadIdx, consumer := .loadReadIdx bufLen }, none)
  | .readPayload readIdx len =>
    let payload := ring.data.read (ring.position readIdx + entryHeader) len.toNat
    ({ ring with consumer := .storeReadIdx readIdx payload }, none)
  | .storeReadIdx readIdx buf =>
    ({ ring with
      readIdx := readIdx + BitVec.ofNat 64 (entrySize buf.length)
      consumer := .idle }, some (.receive (some buf)))

end Ring

/-- Who moves next. A side with a call under way does not begin another. -/
inductive Move where
  | send (packet : List U8)
  | produce
  | recv (bufLen : Nat)
  | consume
deriving DecidableEq

namespace Ring
variable (ring : Ring) (move : Move)

def advance : Move → Ring × Option Event
  | .send packet => ring.trySend packet
  | .produce => ring.produce
  | .recv bufLen => ring.tryRecv bufLen
  | .consume => ring.consume

def step : Ring := (ring.advance move).1
def event : Option Event := (ring.advance move).2

def events : Ring → List Move → List (Option Event)
  | _, [] => []
  | ring, move :: rest => ring.event move :: (ring.step move).events rest

def writes : Move → Option Span
  | .produce =>
    match ring.producer with
    | .writeSkipMarker _ writeIdx => some ⟨ring.position writeIdx, 4⟩
    | .writeLength _ idx => some ⟨ring.position idx, 4⟩
    | .writePayload packet idx => some ⟨ring.position idx + entryHeader, packet.length⟩
    | _ => none
  | _ => none

/-- A move changes the data area only where it writes. -/
theorem data_step (place : Nat)
    (outside : ∀ span, ring.writes move = some span → ¬ span.Covers place) :
    (ring.step move).data place = ring.data place := by
  unfold step advance
  unfold writes at outside
  cases move with
  | send packet =>
    dsimp only
    unfold trySend
    split
    next => split <;> rfl
    next => rfl
  | produce =>
    dsimp only at outside ⊢
    fun_cases produce ring with
    | case7 packet idx writing | case8 packet idx writing | case9 packet idx writing =>
      rw [writing] at outside
      have apart := outside _ rfl
      simp only [Span.Covers, not_and_or, not_le, not_lt] at apart
      exact Cells.write_outside _ _ _ _ apart
    | _ => rfl
  | recv bufLen =>
    dsimp only
    unfold tryRecv
    split <;> rfl
  | consume =>
    dsimp only
    fun_cases consume ring <;> rfl

end Ring

theorem alignUp_eight {value : Nat} (small : value + 7 < 2 ^ 64) :
    alignUp value 8 = (value + 7) / 8 * 8 := by
  unfold alignUp
  rw [show value + 8 - 1 = value + 7 from rfl,
    show ~~~ BitVec.ofNat 64 (8 - 1) = BitVec.allOnes 64 <<< 3 from rfl, toNat_mask, BitVec.toNat_ofNat]
  omega

def maxEntry : Nat := 9024

variable {length idx count : Nat} {packet : List U8} {capacity : Nat} {cells other : Cells U8}

private theorem entrySize_eq (admitted : length ≤ maxPacketSize) :
    entrySize length = (length + 11) / 8 * 8 := by
  unfold maxPacketSize at admitted
  unfold entrySize entryHeader entryAlign
  rw [alignUp_eight (by omega), show 4 + length + 7 = length + 11 by omega]

theorem entrySize_bounds (admitted : length ≤ maxPacketSize) :
    length + 4 ≤ entrySize length ∧ 8 ≤ entrySize length ∧ entrySize length ≤ maxEntry ∧
    entrySize length % 8 = 0 := by
  rw [entrySize_eq admitted]
  unfold maxPacketSize at admitted
  unfold maxEntry
  omega

theorem position_add {offset : Nat} (fits : idx % capacity + count ≤ capacity)
    (inside : offset < count) : (idx + offset) % capacity = idx % capacity + offset := by
  rw [add_mod, mod_eq_of_lt (show offset < capacity by omega),
    mod_eq_of_lt (show idx % capacity + offset < capacity by omega)]

theorem position_ne {first second : Nat} (earlier : first < second)
    (close : second < first + capacity) : first % capacity ≠ second % capacity := by
  intro same
  have divides : capacity ∣ second - first := (modEq_iff_dvd' earlier.le).mp same
  have atMost := le_of_dvd (by omega) divides
  omega

theorem position_gap (positive : 0 < capacity) : (idx + (capacity - idx % capacity)) % capacity = 0 := by
  have below := mod_lt idx positive
  have whole : idx + (capacity - idx % capacity) = capacity * (idx / capacity + 1) := by
    have parts := div_add_mod idx capacity
    rw [Nat.mul_add, Nat.mul_one]
    omega
  rw [whole, mul_mod_right]

/-- Behind an entry the index is in the same round of the area, or at the start of the next. -/
theorem position_entry {size : Nat} (fits : idx % capacity + size ≤ capacity) :
    idx % capacity + size < capacity ∧ (idx + size) % capacity = idx % capacity + size ∨
    idx % capacity + size = capacity ∧ (idx + size) % capacity = 0 := by
  rw [← mod_add_mod]
  rcases Nat.lt_or_eq_of_le fits with inside | full
  · exact .inl ⟨inside, mod_eq_of_lt inside⟩
  · rw [full]
    exact .inr ⟨rfl, mod_self capacity⟩

/-- The two areas hold the same bytes at the positions of the indices from `first` to `last`. -/
def Agree (capacity : Nat) (cells other : Cells U8) (first last : Nat) : Prop :=
  ∀ idx, first ≤ idx → idx < last → other (idx % capacity) = cells (idx % capacity)

theorem Agree.narrow {first last left right : Nat} (agree : Agree capacity cells other first last)
    (lower : first ≤ left) (upper : right ≤ last) : Agree capacity cells other left right :=
  fun idx above below => agree idx (lower.trans above) (Nat.lt_of_lt_of_le below upper)

theorem Agree.read (agree : Agree capacity cells other idx (idx + count))
    (fits : idx % capacity + count ≤ capacity) (offset length : Nat) (inside : offset + length ≤ count) :
    other.read (idx % capacity + offset) length = cells.read (idx % capacity + offset) length := by
  apply Cells.read_congr
  intro index lower upper
  have place : (idx + (index - idx % capacity)) % capacity = index := by
    rw [position_add fits (by omega)]
    omega
  rw [← place]
  exact agree _ (by omega) (by omega)

theorem agree_write {first last offset : Nat} {bytes : List U8}
    (fits : idx % capacity + count ≤ capacity) (behind : last ≤ idx)
    (released : idx + count ≤ first + capacity) (inside : offset + bytes.length ≤ count) :
    Agree capacity cells (cells.write (idx % capacity + offset) bytes) first last := by
  intro earlier lower upper
  apply Cells.write_outside
  by_contra overlaps
  have place : (idx + (earlier % capacity - idx % capacity)) % capacity = earlier % capacity := by
    rw [position_add fits (by omega)]
    omega
  exact position_ne (by omega) (by omega) place.symm

structure Stored (cells : Cells U8) (capacity idx : Nat) (packet : List U8) : Prop where
  admitted : packet.length ≤ maxPacketSize
  fits : idx % capacity + entrySize packet.length ≤ capacity
  length : cells.read (idx % capacity) 4 = toLeBytes 4 packet.length
  payload : cells.read (idx % capacity + 4) packet.length = packet

structure Skipped (cells : Cells U8) (capacity idx : Nat) : Prop where
  room : idx % capacity + 4 ≤ capacity
  marker : cells.read (idx % capacity) 4 = toLeBytes 4 skipMarker.toNat

theorem Stored.frame (stored : Stored cells capacity idx packet)
    (agree : Agree capacity cells other idx (idx + entrySize packet.length)) :
    Stored other capacity idx packet := by
  obtain ⟨header, _, _, _⟩ := entrySize_bounds stored.admitted
  have lengthRead := agree.read stored.fits 0 4 (by omega)
  have payloadRead := agree.read stored.fits 4 packet.length (by omega)
  exact ⟨stored.admitted, stored.fits, lengthRead.trans stored.length, payloadRead.trans stored.payload⟩

theorem Skipped.frame (skipped : Skipped cells capacity idx)
    (agree : Agree capacity cells other idx (idx + 4)) : Skipped other capacity idx :=
  ⟨skipped.room, (agree.read skipped.room 0 4 (Nat.le_refl 4)).trans skipped.marker⟩

private theorem fromLeBytes_length (admitted : length ≤ maxPacketSize) :
    fromLeBytes (toLeBytes 4 length) = length := by
  unfold maxPacketSize at admitted
  rw [fromLeBytes_toLeBytes]
  omega

theorem Stored.length_eq (stored : Stored cells capacity idx packet) :
    fromLeBytes (cells.read (idx % capacity) 4) = packet.length := by
  rw [stored.length, fromLeBytes_length stored.admitted]

theorem Skipped.length_eq (skipped : Skipped cells capacity idx) :
    fromLeBytes (cells.read (idx % capacity) 4) = skipMarker.toNat := by
  rw [skipped.marker, fromLeBytes_toLeBytes]
  rfl

theorem Stored.unique {first second : List U8} (one : Stored cells capacity idx first)
    (two : Stored cells capacity idx second) : first = second := by
  have sameLength : first.length = second.length := one.length_eq.symm.trans two.length_eq
  rw [← one.payload, ← two.payload, sameLength]

theorem Stored.not_skipped (stored : Stored cells capacity idx packet) : ¬ Skipped cells capacity idx := by
  intro skipped
  have admitted := stored.admitted
  have same := stored.length_eq.symm.trans skipped.length_eq
  rw [same] at admitted
  exact absurd admitted (by decide)

section
variable (cells : Cells U8) (capacity : Nat)

inductive Layout : Nat → Nat → List (List U8) → Prop where
  | empty (idx : Nat) : Layout idx idx []
  | entry {idx last : Nat} {packet : List U8} {rest : List (List U8)}
    (stored : Stored cells capacity idx packet)
    (later : Layout (idx + entrySize packet.length) last rest) : Layout idx last (packet :: rest)
  | skip {idx last : Nat} {packet : List U8} {rest : List (List U8)} (skipped : Skipped cells capacity idx)
    (short : capacity - idx % capacity < entrySize packet.length)
    (stored : Stored cells capacity (idx + (capacity - idx % capacity)) packet)
    (later : Layout (idx + (capacity - idx % capacity) + entrySize packet.length) last rest) :
      Layout idx last (packet :: rest)

end

namespace Layout
variable {first last : Nat} {queue : List (List U8)}

theorem le (layout : Layout cells capacity first last queue) : first ≤ last := by
  induction layout with
  | empty idx => exact Nat.le_refl idx
  | entry | skip => omega

theorem eq_of_nil (layout : Layout cells capacity first last []) : first = last := by
  cases layout
  rfl

theorem frame (layout : Layout cells capacity first last queue)
    (agree : Agree capacity cells other first last) : Layout other capacity first last queue := by
  induction layout with
  | empty idx => exact .empty idx
  | entry stored later ih =>
    have within := later.le
    exact .entry (stored.frame (agree.narrow (Nat.le_refl _) within))
      (ih (agree.narrow (by omega) (Nat.le_refl _)))
  | skip skipped short stored later ih =>
    have within := later.le
    have room := skipped.room
    exact .skip (skipped.frame (agree.narrow (Nat.le_refl _) (by omega))) short
      (stored.frame (agree.narrow (by omega) within))
      (ih (agree.narrow (by omega) (Nat.le_refl _)))

theorem append {middle : Nat} {more : List (List U8)}
    (layout : Layout cells capacity first middle queue)
    (later : Layout cells capacity middle last more) :
    Layout cells capacity first last (queue ++ more) := by
  induction layout with
  | empty => exact later
  | entry stored _ ih => exact .entry stored (ih later)
  | skip skipped short stored _ ih => exact .skip skipped short stored (ih later)

section
variable (layout : Layout cells capacity first last queue)
include layout

theorem lt (filled : queue ≠ []) : first < last := by
  cases layout with
  | empty => exact absurd rfl filled
  | entry stored later | skip _ _ stored later =>
    obtain ⟨_, positive, _, _⟩ := entrySize_bounds stored.admitted
    have within := later.le
    omega

theorem front (apart : first < last) :
    (∃ packet, Stored cells capacity first packet) ∨ Skipped cells capacity first := by
  cases layout with
  | empty => exact absurd apart (Nat.lt_irrefl _)
  | entry stored => exact .inl ⟨_, stored⟩
  | skip skipped => exact .inr skipped

theorem stored_front (apart : first < last)
    {packet : List U8} (stored : Stored cells capacity first packet) :
    ∃ rest, queue = packet :: rest ∧ Layout cells capacity (first + entrySize packet.length) last rest := by
  cases layout with
  | empty => exact absurd apart (Nat.lt_irrefl _)
  | entry found later =>
    cases stored.unique found
    exact ⟨_, rfl, later⟩
  | skip skipped => exact absurd skipped stored.not_skipped

theorem skipped_front (apart : first < last) (skipped : Skipped cells capacity first) :
    0 < first % capacity ∧ first + (capacity - first % capacity) < last ∧
    Layout cells capacity (first + (capacity - first % capacity)) last queue := by
  cases layout with
  | empty => exact absurd apart (Nat.lt_irrefl _)
  | entry found => exact absurd skipped found.not_skipped
  | skip _ short stored later =>
    have within := later.le
    have fits := stored.fits
    obtain ⟨_, positive, _, _⟩ := entrySize_bounds stored.admitted
    exact ⟨by omega, by omega, .entry stored later⟩

end
end Layout

def bounds (capacity : Nat) : FifoBounds (List U8) where
  cost packet := entrySize packet.length
  capacity := capacity
  slack := 2 * maxEntry
  Admits packet := packet.length ≤ maxPacketSize

namespace Layout
variable {first last : Nat} {queue : List (List U8)}
section
variable (layout : Layout cells capacity first last queue)
include layout

theorem total_le : first + (bounds capacity).total queue ≤ last := by
  induction layout with
  | empty idx => exact Nat.le_refl idx
  | entry stored later ih =>
    rw [total_cons]
    exact (Nat.add_assoc _ _ _).ge.trans ih
  | skip skipped short stored later ih =>
    rw [total_cons]
    have within := (Nat.add_assoc _ _ _).ge.trans ih
    exact (Nat.add_le_add_right (le_add_right _ _) _).trans within

private theorem total_eq (noWrap : last ≤ first + (capacity - first % capacity)) :
    first + (bounds capacity).total queue = last := by
  induction layout with
  | empty => rfl
  | entry stored later ih =>
    rw [total_cons, ← Nat.add_assoc]
    apply ih
    have fits := stored.fits
    rcases position_entry fits with ⟨_, place⟩ | ⟨_, place⟩ <;> rw [place] <;> omega
  | skip skipped short stored later =>
    obtain ⟨_, positive, _, _⟩ := entrySize_bounds stored.admitted
    omega

theorem le_total (close : last ≤ first + (capacity - first % capacity) + capacity) :
    last ≤ first + (bounds capacity).total queue + maxEntry := by
  induction layout with
  | empty => exact le_add_right _ _
  | @entry idx last packet rest stored later ih =>
    have total : idx + (bounds capacity).total (packet :: rest) = idx + entrySize packet.length +
      (bounds capacity).total rest := by
      rw [total_cons, ← Nat.add_assoc]
      rfl
    rw [total]
    rcases position_entry stored.fits with ⟨_, place⟩ | ⟨full, place⟩
    · apply ih
      rw [place]
      omega
    · have exactly := later.total_eq (by rw [place]; omega)
      omega
  | @skip idx last packet rest skipped short stored later ih =>
    obtain ⟨_, _, small, _⟩ := entrySize_bounds stored.admitted
    have place : (idx + (capacity - idx % capacity)) % capacity = 0 :=
      position_gap (by have := skipped.room; omega)
    have behind : Layout cells capacity (idx + (capacity - idx % capacity)) last (packet :: rest) :=
      .entry stored later
    have exactly := behind.total_eq (by rw [place]; omega)
    omega

end
end Layout
end Visor.SharedRing
