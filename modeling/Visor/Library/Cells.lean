import Mathlib.Data.Nat.ModEq

/-! A block of storage read and written by contiguous ranges. A range is given by its first index
and its length; nothing is said about indices outside it. -/

namespace Visor.Library
open List Option

/-! Ranges of addresses, given by the first address and the length. -/

structure Span where
  start : Nat
  length : Nat

namespace Span
def Covers (span : Span) (address : Nat) : Prop := span.start ≤ address ∧ address < span.start + span.length
deriving Decidable

def Within (inner outer : Span) : Prop :=
  outer.start ≤ inner.start ∧ inner.start + inner.length ≤ outer.start + outer.length
deriving Decidable

def Apart (first second : Span) : Prop :=
  first.start + first.length ≤ second.start ∨ second.start + second.length ≤ first.start
deriving Decidable

variable {span inner outer other : Span}

theorem Apart.symm (apart : span.Apart other) : other.Apart span := Or.symm apart

theorem Apart.within (apart : outer.Apart other) (inside : inner.Within outer) : inner.Apart other := by
  unfold Apart Within at *
  omega

theorem Apart.not_covers (apart : span.Apart other)
    {address : Nat} (covers : other.Covers address) : ¬ span.Covers address := by
  unfold Apart Covers at *
  omega

end Span

universe u

abbrev Cells (α : Type u) := Nat → α

namespace Cells
variable {α : Type u} (cells : Cells α)

def read (cells : Cells α) (start count : Nat) : List α :=
  (range count).map fun index => cells (start + index)

def write (cells : Cells α) (start : Nat) (data : List α) : Cells α :=
  fun index => if start ≤ index then data[index - start]?.getD (cells index) else cells index

@[simp] theorem length_read (start count : Nat) : (cells.read start count).length = count := by simp [read]

theorem getElem?_read (start count index : Nat) : (cells.read start count)[index]? =
    if index < count then some (cells (start + index)) else none := by
  by_cases inside : index < count <;> simp [read, inside]

theorem read_congr {first second : Cells α} {start count : Nat}
    (agree : ∀ index, start ≤ index → index < start + count → first index = second index) :
    first.read start count = second.read start count := by
  apply map_congr_left
  intro index member
  exact agree _ (by omega) (by simpa using member)

theorem read_append (start first second : Nat) : cells.read start (first + second) =
    cells.read start first ++ cells.read (start + first) second := by
  apply ext_getElem?
  intro index
  simp only [getElem?_append, getElem?_read, length_read]
  by_cases early : index < first
  · have total : index < first + second := by omega
    simp only [early, total, ↓reduceIte]
  · have shifted : start + first + (index - first) = start + index := by omega
    by_cases late : index < first + second
    · have rest : index - first < second := by omega
      simp only [early, late, rest, shifted, ↓reduceIte]
    · have rest : ¬ index - first < second := by omega
      simp only [early, late, rest, ↓reduceIte]

section
variable (cells : Cells α) (start : Nat) (data : List α)

@[simp] theorem write_nil : cells.write start [] = cells := by
  funext index
  simp [write]

theorem write_outside (index : Nat) (outside : index < start ∨ start + data.length ≤ index) :
    cells.write start data index = cells index := by
  unfold write
  rcases outside with before | after
  · rw [if_neg (by omega)]
  · rw [if_pos (by omega), getElem?_eq_none (by omega), getD_none]

theorem write_inside (offset : Nat) (inside : offset < data.length) :
    cells.write start data (start + offset) = data.get ⟨offset, inside⟩ := by
  unfold write
  rw [if_pos (by omega), Nat.add_sub_cancel_left, getElem?_eq_getElem inside]
  rfl

theorem read_write_same : (cells.write start data).read start data.length = data := by
  apply ext_getElem?
  intro index
  rw [getElem?_read]
  by_cases inside : index < data.length
  · rw [if_pos inside, write_inside cells start data index inside, getElem?_eq_getElem inside]
    rfl
  · rw [if_neg inside, getElem?_eq_none (by omega)]

theorem read_write_disjoint (from' count : Nat)
    (disjoint : from' + count ≤ start ∨ start + data.length ≤ from') :
    (cells.write start data).read from' count = cells.read from' count := by
  apply read_congr
  intro index lower upper
  apply write_outside
  omega

theorem write_write_append (first second : List α) :
    (cells.write start first).write (start + first.length) second =
    cells.write start (first ++ second) := by
  funext index
  by_cases early : index < start + first.length
  · rw [write_outside _ _ second _ (.inl early)]
    by_cases before : index < start
    · rw [write_outside _ _ _ _ (.inl before), write_outside _ _ _ _ (.inl before)]
    · obtain ⟨offset, rfl⟩ : ∃ offset, index = start + offset := ⟨index - start, by omega⟩
      have inside : offset < first.length := by omega
      have longer : offset < (first ++ second).length := by
        rw [length_append]
        omega
      rw [write_inside _ _ _ _ inside, write_inside _ _ _ _ longer]
      simp [getElem_append_left inside]
  · by_cases late : start + first.length + second.length ≤ index
    · rw [write_outside _ _ second _ (.inr late), write_outside _ _ _ _ (.inr (by omega)),
        write_outside _ _ _ _ (.inr (by
        rw [length_append]
        omega))]
    · obtain ⟨offset, rfl⟩ : ∃ offset, index = start + first.length + offset :=
        ⟨index - (start + first.length), by omega⟩
      have inside : offset < second.length := by omega
      have longer : first.length + offset < (first ++ second).length := by
        rw [length_append]
        omega
      rw [write_inside _ _ _ _ inside, Nat.add_assoc, write_inside _ _ _ _ longer]
      simp [getElem_append_right]

end

/-! A ring of `capacity` cells addressed by positions that are reduced modulo the
capacity. Data is copied in at most two contiguous segments, the second one
starting again at cell zero. -/

def ringRead (cells : Cells α) (capacity start count : Nat) : List α :=
  (range count).map fun index => cells ((start + index) % capacity)

/-- Copy data to consecutive ring positions, in one or two segments. -/
def ringWrite (cells : Cells α) (capacity start : Nat) (data : List α) : Cells α :=
  let offset := start % capacity
  let firstLen := min (capacity - offset) data.length
  let cells := cells.write offset (data.take firstLen)
  if firstLen < data.length then cells.write 0 (data.drop firstLen) else cells

section
variable (cells : Cells α)

@[simp] theorem length_ringRead (capacity start count : Nat) :
    (cells.ringRead capacity start count).length = count := by simp [ringRead]

theorem getElem?_ringRead (capacity start count index : Nat) :
    (cells.ringRead capacity start count)[index]? =
    if index < count then some (cells ((start + index) % capacity)) else none := by
  by_cases inside : index < count <;> simp [ringRead, inside]

theorem ringRead_congr (capacity count : Nat)
    {first second : Nat} (same : first % capacity = second % capacity) :
    cells.ringRead capacity first count = cells.ringRead capacity second count := by
  apply map_congr_left
  intro index _
  rw [Nat.add_mod, same, ← Nat.add_mod]

theorem drop_ringRead (capacity start count skipped : Nat) :
    (cells.ringRead capacity start count).drop skipped = cells.ringRead capacity (start + skipped)
    (count - skipped) := by
  apply ext_getElem?
  intro index
  simp only [getElem?_drop, getElem?_ringRead]
  have position : start + (skipped + index) = start + skipped + index := by omega
  by_cases inside : skipped + index < count
  · have rest : index < count - skipped := by omega
    simp only [inside, rest, position, ↓reduceIte]
  · have rest : ¬ index < count - skipped := by omega
    simp only [inside, rest, ↓reduceIte]

theorem read_segment (capacity start count segment : Nat) (fits : segment ≤ count)
    (contiguous : start % capacity + segment ≤ capacity) :
    cells.read (start % capacity) segment = (cells.ringRead capacity start count).take segment := by
  apply ext_getElem?
  intro index
  rw [getElem?_take, getElem?_read, getElem?_ringRead]
  by_cases inside : index < segment
  · have stored : index < count := by omega
    have position : (start + index) % capacity = start % capacity + index := by
      rw [Nat.add_mod_eq_ite, Nat.mod_eq_of_lt (a := index) (by omega)]
      rw [if_neg (by omega)]
    simp only [inside, stored, position, ↓reduceIte]
  · simp only [inside, ↓reduceIte]

private theorem ringWrite_position (capacity start : Nat) (data : List α) (distance : Nat)
    (near : distance < capacity) (short : data.length ≤ capacity) :
    cells.ringWrite capacity start data ((start + distance) % capacity) =
    data[distance]?.getD (cells ((start + distance) % capacity)) := by
  have offsetLt : start % capacity < capacity := Nat.mod_lt _ (by omega)
  have position : (start + distance) % capacity =
    if capacity ≤ start % capacity + distance then
      start % capacity + distance - capacity
    else start % capacity + distance := by rw [Nat.add_mod_eq_ite, Nat.mod_eq_of_lt (a := distance) near]
  unfold ringWrite
  generalize start % capacity = offset at *
  generalize (start + distance) % capacity = cell at *
  by_cases wraps : capacity ≤ offset + distance
  · rw [if_pos wraps] at position
    have firstOut : cells.write offset (data.take (min (capacity - offset) data.length)) cell =
      cells cell := by
      apply write_outside
      left
      omega
    by_cases split : min (capacity - offset) data.length < data.length
    · simp only [split, ↓reduceIte]
      have lengthFirst : min (capacity - offset) data.length = capacity - offset := by omega
      rw [lengthFirst] at firstOut ⊢
      unfold write at firstOut ⊢
      rw [if_pos (Nat.zero_le cell), firstOut, getElem?_drop]
      congr 2
      omega
    · simp only [split, ↓reduceIte]
      rw [firstOut, getElem?_eq_none (by omega), getD_none]
  · rw [if_neg wraps] at position
    have second : ∀ middle : Cells α, (if min (capacity - offset) data.length < data.length then
      middle.write 0 (data.drop (min (capacity - offset) data.length)) else middle) cell =
      middle cell := by
      intro middle
      by_cases split : min (capacity - offset) data.length < data.length
      · rw [if_pos split]
        apply write_outside
        right
        simp only [length_drop]
        omega
      · rw [if_neg split]
    rw [second]
    unfold write
    rw [if_pos (by omega), position, Nat.add_sub_cancel_left, getElem?_take]
    by_cases inside : distance < data.length
    · rw [if_pos (by omega)]
    · rw [if_neg (by omega), getElem?_eq_none (l := data) (by omega)]

/-- Copying behind the stored values appends to them, as long as all fit. -/
theorem ringRead_ringWrite (capacity start stored : Nat) (data : List α)
    (fits : stored + data.length ≤ capacity) :
    (cells.ringWrite capacity (start + stored) data).ringRead capacity start
    (stored + data.length) = cells.ringRead capacity start stored ++ data := by
  apply ext_getElem?
  intro index
  rw [getElem?_ringRead, getElem?_append, length_ringRead, getElem?_ringRead]
  by_cases old : index < stored
  · have inside : index < stored + data.length := by omega
    have around : (start + index) % capacity = (start + stored + (capacity - stored + index)) %
      capacity := by
      have shifted : start + stored + (capacity - stored + index) = start + index + capacity := by omega
      rw [shifted, Nat.add_mod_right]
    rw [if_pos inside, if_pos old, if_pos old, around, ringWrite_position _ _ _ _ _ (by omega) (by omega),
      getElem?_eq_none (by omega), getD_none]
  · by_cases new : index < stored + data.length
    · have position : start + index = start + stored + (index - stored) := by omega
      rw [if_pos new, if_neg old, position, ringWrite_position _ _ _ _ _ (by omega) (by omega),
        getElem?_eq_getElem (by omega), getD_some]
    · rw [if_neg new, if_neg old, getElem?_eq_none (by omega)]

end
end Cells

/-! The byte order of every ring, descriptor and packet field the devices read. -/

def toLeBytes : Nat → Nat → List (BitVec 8)
  | 0, _ => []
  | count + 1, value => BitVec.ofNat 8 value :: toLeBytes count (value / 256)

def fromLeBytes : List (BitVec 8) → Nat
  | [] => 0
  | byte :: rest => byte.toNat + 256 * fromLeBytes rest

@[simp] theorem length_toLeBytes (count value : Nat) : (toLeBytes count value).length = count := by
  induction count generalizing value with
  | zero => rfl
  | succ count ih => simp [toLeBytes, ih]

theorem fromLeBytes_toLeBytes (count value : Nat) :
    fromLeBytes (toLeBytes count value) = value % 256 ^ count := by
  induction count generalizing value with
  | zero => simp [toLeBytes, fromLeBytes, Nat.mod_one]
  | succ count ih =>
    have low : (BitVec.ofNat 8 value).toNat = value % 256 := BitVec.toNat_ofNat value 8
    simp only [toLeBytes, fromLeBytes, low, ih]
    rw [pow_succ', Nat.mod_mul (a := 256)]

/-! A queue with room for a limited amount, as its two users see it: items go in at one end and
come out at the other, and a call may be turned down. The bounds say what an item takes up, how
much there is room for, and how close to full the queue has to be before it refuses one. -/

inductive QueueEvent (α : Type u) where
  | send (item : α) (accepted : Bool)
  | receive (result : Option α)
deriving DecidableEq

structure FifoBounds (α : Type u) where
  cost : α → Nat
  capacity : Nat
  slack : Nat
  Admits : α → Prop

namespace FifoBounds
variable {α : Type u} (bounds : FifoBounds α)

def total (queue : List α) : Nat := (queue.map bounds.cost).sum

@[simp] theorem total_nil : bounds.total [] = 0 := rfl

@[simp] theorem total_cons (item : α) (rest : List α) :
    bounds.total (item :: rest) = bounds.cost item + bounds.total rest := by
  simp [total]

inductive Step (bounds : FifoBounds α) : List α → Option (QueueEvent α) → List α → Prop where
  | silent (queue : List α) : Step bounds queue none queue
  | push {queue : List α} {item : α} (admitted : bounds.Admits item)
    (room : bounds.total (queue ++ [item]) ≤ bounds.capacity) :
    Step bounds queue (some (.send item true)) (queue ++ [item])
  | refuse {queue : List α} {item : α} (full : bounds.Admits item → queue ≠ [] ∧
    bounds.capacity < bounds.total queue + bounds.cost item + bounds.slack) : Step bounds queue
      (some (.send item false)) queue
  | pop (item : α) (rest : List α) : Step bounds (item :: rest) (some (.receive (some item))) rest
  | empty : Step bounds [] (some (.receive none)) []

inductive Run (bounds : FifoBounds α) : List α → List (Option (QueueEvent α)) → List α → Prop where
  | nil (queue : List α) : Run bounds queue [] queue
  | cons {first second last : List α} {event : Option (QueueEvent α)}
    {events : List (Option (QueueEvent α))}
    (step : Step bounds first event second) (later : Run bounds second events last) :
      Run bounds first (event :: events) last

end FifoBounds

namespace QueueEvent
variable {α : Type u} (events : List (Option (QueueEvent α)))

def accepted? : Option (QueueEvent α) → Option α
  | some (.send item true) => some item
  | _ => none

def received? : Option (QueueEvent α) → Option α
  | some (.receive result) => result
  | _ => none

def accepted : List α := events.filterMap accepted?
def received : List α := events.filterMap received?

end QueueEvent

namespace FifoBounds
open QueueEvent
variable {α : Type u} {bounds : FifoBounds α} {first last : List α}

/-- Every item comes out once, in order, or is still in the queue. -/
theorem Run.exactly_once {events : List (Option (QueueEvent α))}
    (ran : Run bounds first events last) : first ++ accepted events = received events ++ last := by
  induction ran with
  | nil => simp [accepted, received]
  | cons step later ih =>
    cases step with
    | silent | refuse | empty => exact ih
    | push => exact (List.append_assoc _ _ _).symm.trans ih
    | pop item => exact congrArg (item :: ·) ih

end FifoBounds
end Visor.Library
