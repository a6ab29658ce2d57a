import Visor.Machine.Words

/-! One contiguous region of guest memory with bounds-checked reads and writes. The region also
records the writes made to it, the last one first; no device reads that record, it only serves to
state where a device writes. -/

namespace Visor
open Library List Cells

inductive MemoryError where
  | outOfBounds (addr : U64) (size : Nat)
  | accessOverflow (addr : U64) (len : Nat) (size : Nat)
deriving DecidableEq

structure GuestMemory where
  guestBase : U64
  size : Nat
  bytes : Cells U8
  writes : List Span := []

namespace GuestMemory
def guestToHost (memory : GuestMemory) (guestAddr : U64) : Option Nat :=
  if guestAddr.toNat < memory.guestBase.toNat then none
  else
    let offset := guestAddr.toNat - memory.guestBase.toNat
    if offset ≥ memory.size then none else some offset

def store (memory : GuestMemory) (offset : Nat) (data : List U8) : GuestMemory :=
  { memory with
    bytes := memory.bytes.write offset data
    writes := ⟨memory.guestBase.toNat + offset, data.length⟩ :: memory.writes }

def writeBytes (memory : GuestMemory) (guestAddr : U64) (data : List U8) : Except MemoryError GuestMemory :=
  match memory.guestToHost guestAddr with
  | none => .error (.outOfBounds guestAddr memory.size)
  | some offset =>
    if offset + data.length > memory.size then
      .error (.accessOverflow guestAddr data.length memory.size)
    else .ok (memory.store offset data)

def readBytes (memory : GuestMemory) (guestAddr : U64) (len : Nat) : Except MemoryError (List U8) :=
  match memory.guestToHost guestAddr with
  | none => .error (.outOfBounds guestAddr memory.size)
  | some offset =>
    if offset + len > memory.size then
      .error (.accessOverflow guestAddr len memory.size)
    else .ok (memory.bytes.read offset len)

/-- The access of `len` bytes at the address stays inside the region. -/
def InBounds (memory : GuestMemory) (guestAddr : U64) (len : Nat) : Prop :=
  memory.guestBase.toNat ≤ guestAddr.toNat ∧
    guestAddr.toNat - memory.guestBase.toNat < memory.size ∧
    guestAddr.toNat - memory.guestBase.toNat + len ≤ memory.size
deriving Decidable

def offsetOf (memory : GuestMemory) (guestAddr : U64) : Nat := guestAddr.toNat - memory.guestBase.toNat

variable {memory : GuestMemory} {guestAddr : U64}

theorem guestToHost_eq_some_iff {offset : Nat} :
    memory.guestToHost guestAddr = some offset ↔ memory.guestBase.toNat ≤ guestAddr.toNat ∧
    offset < memory.size ∧ offset = memory.offsetOf guestAddr := by
  unfold guestToHost offsetOf
  by_cases below : guestAddr.toNat < memory.guestBase.toNat
  · rw [if_pos below]
    constructor
    · intro impossible
      cases impossible
    · rintro ⟨above, _, _⟩
      omega
  · rw [if_neg below]
    by_cases beyond : guestAddr.toNat - memory.guestBase.toNat ≥ memory.size
    · simp only [beyond, ↓reduceIte, reduceCtorEq, false_iff]
      omega
    · simp only [beyond, ↓reduceIte, Option.some.injEq]
      omega

theorem access_eq_ok_iff {Value : Type} {len : Nat} {access : Nat → Value} {value : Value} :
    (match memory.guestToHost guestAddr with
    | none => Except.error (MemoryError.outOfBounds guestAddr memory.size)
    | some offset => if offset + len > memory.size then .error (.accessOverflow guestAddr len memory.size)
    else .ok (access offset)) = .ok value ↔
    memory.InBounds guestAddr len ∧ value = access (memory.offsetOf guestAddr) := by
  unfold InBounds
  cases located : memory.guestToHost guestAddr with
  | none =>
    simp only [reduceCtorEq, false_iff]
    rintro ⟨⟨lower, upper, _⟩, _⟩
    have found :=
      guestToHost_eq_some_iff.mpr
      ⟨lower, upper, (rfl : memory.offsetOf guestAddr = memory.offsetOf guestAddr)⟩
    rw [located] at found
    cases found
  | some =>
    obtain ⟨lower, upper, rfl⟩ := guestToHost_eq_some_iff.mp located
    unfold offsetOf at *
    by_cases overflow : guestAddr.toNat - memory.guestBase.toNat + len > memory.size
    · simp only [overflow, ↓reduceIte, reduceCtorEq, false_iff]
      omega
    · simp only [overflow, ↓reduceIte, Except.ok.injEq]
      constructor
      · intro same
        exact ⟨⟨lower, upper, by omega⟩, same.symm⟩
      · rintro ⟨_, same⟩
        exact same.symm

theorem writeBytes_eq_ok_iff {after : GuestMemory} {data : List U8} :
    memory.writeBytes guestAddr data = .ok after ↔ memory.InBounds guestAddr data.length ∧
    after = memory.store (memory.offsetOf guestAddr) data :=
  access_eq_ok_iff

theorem readBytes_eq_ok_iff {len : Nat} {bytes : List U8} : memory.readBytes guestAddr len = .ok bytes ↔
    memory.InBounds guestAddr len ∧ bytes = memory.bytes.read (memory.offsetOf guestAddr) len :=
  access_eq_ok_iff

theorem writeBytes_isOk_iff {data : List U8} : (∃ after, memory.writeBytes guestAddr data = .ok after) ↔
    memory.InBounds guestAddr data.length := by
  constructor
  · rintro ⟨after, written⟩
    exact (writeBytes_eq_ok_iff.mp written).1
  · intro inBounds
    exact ⟨_, writeBytes_eq_ok_iff.mpr ⟨inBounds, rfl⟩⟩

end GuestMemory

/-! What an operation did to guest memory, given by the spans it wrote. Everything
outside these spans is as before. -/

def spanAt (guestAddr : U64) (len : Nat) : Span := ⟨guestAddr.toNat, len⟩

namespace GuestMemory
/-- From `before` to `after` these spans were written, the last one first. -/
structure Wrote (before after : GuestMemory) (spans : List Span) : Prop where
  guestBase : after.guestBase = before.guestBase
  size : after.size = before.size
  writes : after.writes = spans ++ before.writes
  kept : ∀ offset, (∀ span ∈ spans, ¬ span.Covers (before.guestBase.toNat + offset)) →
    after.bytes offset = before.bytes offset

namespace Wrote
variable {before between after : GuestMemory} {spans later : List Span}

theorem refl (memory : GuestMemory) : Wrote memory memory [] where
  guestBase := rfl
  size := rfl
  writes := rfl
  kept _ _ := rfl

theorem trans (first : Wrote before between spans) (second : Wrote between after later) :
    Wrote before after (later ++ spans) where
  guestBase := second.guestBase.trans first.guestBase
  size := second.size.trans first.size
  writes := by rw [second.writes, first.writes, append_assoc]
  kept := by
    intro offset outside
    have untouched : between.bytes offset = before.bytes offset := by
      apply first.kept
      intro span member
      exact outside span (mem_append_right later member)
    rw [← untouched]
    apply second.kept
    intro span member
    rw [first.guestBase]
    exact outside span (mem_append_left spans member)

theorem inBounds_iff (wrote : Wrote before after spans) (guestAddr : U64) (len : Nat) :
    after.InBounds guestAddr len ↔ before.InBounds guestAddr len := by
  unfold InBounds
  rw [wrote.guestBase, wrote.size]

theorem readBytes_eq (wrote : Wrote before after spans) {guestAddr : U64} {len : Nat}
    (apart : ∀ span ∈ spans, span.Apart (spanAt guestAddr len)) :
    after.readBytes guestAddr len = before.readBytes guestAddr len := by
  have located : after.guestToHost guestAddr = before.guestToHost guestAddr := by
    unfold guestToHost
    rw [wrote.guestBase, wrote.size]
  unfold readBytes
  rw [located, wrote.size]
  cases found : before.guestToHost guestAddr with
  | none => rfl
  | some =>
    obtain ⟨above, _, rfl⟩ := guestToHost_eq_some_iff.mp found
    dsimp only
    split
    · rfl
    · congr 1
      apply read_congr
      intro index lower upper
      apply wrote.kept
      intro span member
      apply (apart span member).not_covers
      unfold offsetOf at lower upper
      unfold Span.Covers spanAt
      dsimp only
      omega

end Wrote

theorem store_wrote (memory : GuestMemory) (offset : Nat) (data : List U8) :
    Wrote memory (memory.store offset data) [⟨memory.guestBase.toNat + offset, data.length⟩] where
  guestBase := rfl
  size := rfl
  writes := rfl
  kept := by
    intro index outside
    apply write_outside
    have away := outside _ (mem_singleton.mpr rfl)
    unfold Span.Covers at away
    dsimp only at away
    omega

section
variable {memory after : GuestMemory} {guestAddr : U64} {data : List U8}
  (written : memory.writeBytes guestAddr data = .ok after)
include written

theorem writeBytes_wrote : Wrote memory after [spanAt guestAddr data.length] := by
  obtain ⟨⟨above, _, _⟩, rfl⟩ := writeBytes_eq_ok_iff.mp written
  have start : memory.guestBase.toNat + memory.offsetOf guestAddr = guestAddr.toNat := by
    unfold offsetOf
    omega
  have wrote := memory.store_wrote (memory.offsetOf guestAddr) data
  rw [start] at wrote
  exact wrote

theorem readBytes_writeBytes : after.readBytes guestAddr data.length = .ok data := by
  have wrote := writeBytes_wrote written
  obtain ⟨inBounds, rfl⟩ := writeBytes_eq_ok_iff.mp written
  refine readBytes_eq_ok_iff.mpr ⟨(wrote.inBounds_iff _ _).mpr inBounds, ?_⟩
  exact (read_write_same _ _ _).symm

end
end GuestMemory
end Visor
