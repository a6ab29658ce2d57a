import Visor.Transport.UsedRingProperties

/-! The guest allows a device to write into the used ring and into the writable buffers of the chain
at hand. A device respects this for a chain if all its writes for the chain lie there and the used
entry reports no more bytes than went into writable buffers. -/

namespace Visor
open Library List VirtqDesc Span
variable (queue : VirtQueue) (descs : List VirtqDesc) (spans : List Span)

def VirtQueue.Permits (address : Nat) : Prop :=
  queue.usedRing.Covers address ∨
    ∃ desc ∈ descs, desc.isWritable = true ∧ desc.buffer.Covers address

/-- Every byte of these writes is at a permitted address. -/
def Permitted : Prop := ∀ span ∈ spans, ∀ address, span.Covers address → queue.Permits descs address

def intoWritable : Nat :=
  bytesOf
    (spans.filter fun span => descs.any fun desc => desc.isWritable && decide (span.Within desc.buffer))

def GuestMemory.writesSince (memory before : GuestMemory) : List Span :=
  memory.writes.take (memory.writes.length - before.writes.length)

namespace QueueService
variable {Device Token Note Error : Type} [DescriptorErrors Error]
variable (service : QueueService Device Token Note Error) (device : Device) (memory : GuestMemory)
  (queue : VirtQueue)

/-- Guest memory when the chain at a head has been dealt with. -/
def take (token : Token) (headIdx : U16) : GuestMemory :=
  match service.serve device memory queue token headIdx with
  | (_, memory, .error _) => memory
  | (_, memory, .ok none) => memory
  | (device, memory, .ok (some (written, note))) =>
    match (queue.writeUsedEntry memory headIdx written : GuestMemory × Except Error Unit) with
    | (memory, .error _) => memory
    | (memory, .ok ()) => (service.settle device memory queue.advance headIdx note).2.1

/-- The writes for a chain are permitted, and no more of them is reported than went into
writable buffers. -/
structure Respects (service : QueueService Device Token Note Error) (device : Device)
    (memory : GuestMemory) (queue : VirtQueue) (token : Token) (headIdx : U16) : Prop where
  confined :
    Permitted queue (queue.chain memory headIdx)
    ((service.take device memory queue token headIdx).writesSince memory)
  counted : ∀ served after written note, service.serve device memory queue token headIdx =
    (served, after, .ok (some (written, note))) →
    written.toNat ≤ intoWritable (queue.chain memory headIdx) (after.writesSince memory)

/-- The chain at a head is respected if the device takes it next. -/
def RespectsNext (headIdx : U16) : Prop :=
  ∀ polled token, service.poll device = (polled, some token) →
    service.Respects polled memory queue token headIdx

end QueueService

/-- The guest keeps the chain at a head in order: its used entry is in memory, and the
used ring, the table and the buffers of the chain are apart from each other. -/
structure Tidy (memory : GuestMemory) (queue : VirtQueue) (headIdx : U16) : Prop where
  nonempty : queue.size ≠ 0
  usedFits : queue.usedRingAddr.toNat + (4 + 8 * queue.size.toNat) ≤ 2 ^ 64
  room : queue.CanEnter memory
  usedTable : queue.usedRing.Apart queue.descTable
  clear : ClearOfTable queue (queue.chain memory headIdx)
  usedBuffers : ∀ desc ∈ queue.chain memory headIdx, desc.area.Apart queue.usedRing
  buffers : ∀ first ∈ queue.chain memory headIdx, ∀ second ∈ queue.chain memory headIdx,
    second.isWritable = true → first = second ∨ first.area.Apart second.area

section
variable {queue : VirtQueue} {descs : List VirtqDesc} {spans later : List Span}

@[simp] theorem permitted_nil : Permitted queue descs [] := nofun

@[simp] theorem permitted_append :
    Permitted queue descs (later ++ spans) ↔ Permitted queue descs later ∧ Permitted queue descs spans := by
  unfold Permitted
  simp only [mem_append, or_imp, forall_and]

theorem permitted_of_within (within : ∀ span ∈ spans, span.Within queue.usedRing) :
    Permitted queue descs spans := by
  intro span member address covers
  have inside := within span member
  left
  unfold Covers Within at *
  omega

section
variable (inside : InBuffers (descs.filter isWritable) spans)
include inside

theorem InBuffers.permitted : Permitted queue descs spans := by
  intro span member address covers
  obtain ⟨desc, inDescs, within⟩ := inside span member
  obtain ⟨inChain, isWritable⟩ := mem_filter.mp inDescs
  refine .inr ⟨desc, inChain, isWritable, ?_⟩
  unfold Covers Within at *
  omega

theorem InBuffers.intoWritable_eq : intoWritable descs spans = bytesOf spans := by
  unfold intoWritable
  congr 1
  apply filter_eq_self.mpr
  intro span member
  obtain ⟨desc, inDescs, within⟩ := inside span member
  obtain ⟨inChain, isWritable⟩ := mem_filter.mp inDescs
  exact any_eq_true.mpr ⟨desc, inChain, by simp [isWritable, within]⟩

end

variable (descs : List VirtqDesc)

@[simp] theorem intoWritable_append (later spans : List Span) :
    intoWritable descs (later ++ spans) = intoWritable descs later + intoWritable descs spans := by
  unfold intoWritable
  rw [filter_append, bytesOf_append]

theorem intoWritable_le (spans : List Span) : intoWritable descs spans ≤ bytesOf spans := by
  unfold intoWritable
  induction spans with
  | nil => exact Nat.le_refl _
  | cons =>
    rw [filter_cons]
    split
    · rw [bytesOf_cons, bytesOf_cons]
      omega
    · rw [bytesOf_cons]
      omega

theorem GuestMemory.Wrote.writesSince {before after : GuestMemory}
    (wrote : before.Wrote after spans) : after.writesSince before = spans := by
  unfold GuestMemory.writesSince
  rw [wrote.writes, length_append, Nat.add_sub_cancel]
  exact take_left' rfl

end

namespace Tidy
variable {memory : GuestMemory} {queue : VirtQueue} {headIdx : U16}
section
variable (tidy : Tidy memory queue headIdx) {desc : VirtqDesc} (member : desc ∈ queue.chain memory headIdx)
include tidy member

private theorem writable_of_permits {address : Nat} (inArea : desc.area.Covers address)
    (permits : queue.Permits (queue.chain memory headIdx) address) :
    desc.isWritable = true ∧ desc.buffer.Covers address := by
  rcases permits with inRing | ⟨other, otherMember, isWritable, covers⟩
  · exact absurd inArea ((tidy.usedBuffers desc member).not_covers inRing)
  · have inOther : other.area.Covers address := by
      unfold area buffer spanAt Covers at *
      dsimp only at *
      omega
    rcases tidy.buffers desc member other otherMember isWritable with rfl | apart
    · exact ⟨isWritable, covers⟩
    · exact absurd inArea (apart.not_covers inOther)

theorem writable_of_permitted {span : Span} {spans : List Span} (within : span.Within desc.area)
    (some : 0 < span.length) (written : span ∈ spans)
    (permitted : Permitted queue (queue.chain memory headIdx) spans) :
    desc.isWritable = true ∧ 0 < desc.len.toNat := by
  have first : span.Covers span.start := by
    unfold Covers
    omega
  have inArea : desc.area.Covers span.start := by
    unfold Covers Within at *
    omega
  obtain ⟨isWritable, covers⟩ := tidy.writable_of_permits member inArea (permitted span written _ first)
  refine ⟨isWritable, ?_⟩
  unfold buffer spanAt Covers at covers
  dsimp only at covers
  omega

end
end Tidy

namespace QueueService
variable {Device Token Note Error : Type} [DescriptorErrors Error]
  {service : QueueService Device Token Note Error} {device : Device} {token : Token}
  {memory : GuestMemory} {queue : VirtQueue} {headIdx : U16} {spans settled : List Span}

theorem respects_iff_of_halted {served : Device} {after : GuestMemory}
    (serves : (∃ error, service.serve device memory queue token headIdx = (served, after, .error error)) ∨
    service.serve device memory queue token headIdx = (served, after, .ok none))
    (wrote : memory.Wrote after spans) : service.Respects device memory queue token headIdx ↔
    Permitted queue (queue.chain memory headIdx) spans := by
  have final : service.take device memory queue token headIdx = after := by
    unfold take
    rcases serves with ⟨error, failed⟩ | stopped
    · rw [failed]
    · rw [stopped]
  constructor
  · rintro ⟨confined, _⟩
    rwa [final, wrote.writesSince] at confined
  · intro permitted
    refine ⟨by rwa [final, wrote.writesSince], fun _ _ _ _ completed => ?_⟩
    rcases serves with ⟨error, failed⟩ | stopped
    · rw [failed] at completed
      cases completed
    · rw [stopped] at completed
      cases completed

section
variable (tidy : Tidy memory queue headIdx) {served : Device} {after : GuestMemory} {written : U32}
  {note : Note}
  (serves : service.serve device memory queue token headIdx =
    (served, after, .ok (some (written, note))))
include tidy serves

theorem respects_iff_of_completed (wrote : memory.Wrote after spans)
    (confined : ForChain (queue.chain memory headIdx) spans)
    (settles : ∀ entered, SameTable queue memory entered →
      entered.Wrote (service.settle served entered queue.advance headIdx note).2.1 settled) :
    service.Respects device memory queue token headIdx ↔
    Permitted queue (queue.chain memory headIdx) settled ∧
    Permitted queue (queue.chain memory headIdx) spans ∧
    written.toNat ≤ intoWritable (queue.chain memory headIdx) spans := by
  have same := tidy.clear.same wrote confined
  obtain ⟨cells, taken, inRing⟩ :
    ∃ cells, memory.Wrote (service.take device memory queue token headIdx) (settled ++ (cells ++ spans)) ∧
    ∀ span ∈ cells, span.Within queue.usedRing := by
    unfold take
    rw [serves]
    dsimp only
    have entry :
      queue.EnteredUsed after headIdx
      (queue.writeUsedEntry after headIdx written : GuestMemory × Except Error Unit) :=
      queue.writeUsedEntry_entered after tidy.nonempty tidy.usedFits headIdx written
    generalize (queue.writeUsedEntry after headIdx written : GuestMemory × Except Error Unit) =
      result at entry ⊢
    cases entry with
    | refused cannot =>
      unfold VirtQueue.CanEnter at cannot
      rw [same.inBounds, same.inBounds] at cannot
      exact absurd tidy.room cannot
    | @entered entered cells _ enteredWrote within _ =>
      have inRing : ∀ span ∈ cells, span.Within queue.usedRing := by
        intro span member
        have inCell := within span member
        have cell := queue.usedCell_within tidy.nonempty tidy.usedFits
        unfold Within at *
        omega
      have table : SameTable queue after entered := by
        refine .of_wrote tidy.clear.tableFits enteredWrote fun span member => ?_
        exact tidy.usedTable.within (inRing span member)
      have final := settles entered (same.trans table)
      exact ⟨cells, (wrote.trans enteredWrote).trans final, inRing⟩
  constructor
  · rintro ⟨allowed, counted⟩
    rw [taken.writesSince, permitted_append, permitted_append] at allowed
    have reported := counted served after written note serves
    rw [wrote.writesSince] at reported
    exact ⟨allowed.1, allowed.2.2, reported⟩
  · rintro ⟨settledPermitted, servedPermitted, reported⟩
    refine ⟨?_, fun _ _ _ _ completed => ?_⟩
    · rw [taken.writesSince, permitted_append, permitted_append]
      exact ⟨settledPermitted, permitted_of_within inRing, servedPermitted⟩
    · rw [serves] at completed
      cases completed
      rw [wrote.writesSince]
      exact reported

theorem respects_of_filled
    (filled : Filled ((queue.chain memory headIdx).filter isWritable) memory after spans
      written.toNat)
    (settles : ∀ entered, (service.settle served entered queue.advance headIdx note).2.1 =
      entered) : service.Respects device memory queue token headIdx := by
  have untouched : ∀ entered, SameTable queue memory entered →
    entered.Wrote (service.settle served entered queue.advance headIdx note).2.1 [] := by
    intro entered _
    rw [settles entered]
    exact .refl entered
  refine (respects_iff_of_completed tidy serves filled.wrote filled.inside.ofWritable.forChain
    untouched).mpr ⟨permitted_nil, filled.inside.permitted, ?_⟩
  rw [filled.inside.intoWritable_eq]
  exact filled.counts

end
end QueueService
end Visor
