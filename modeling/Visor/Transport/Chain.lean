import Mathlib.Data.Fintype.Card
import Visor.Transport.VirtQueue

/-! The chain that starts at a head, as the guest memory holds it, and the walk along a chain that
the block and fs devices make. -/

namespace Visor
open Library List Option GuestMemory VirtqDesc
namespace VirtqDesc
def ofBytes (bytes : List U8) : VirtqDesc where
  addr := BitVec.ofNat 64 (leField bytes 0 8)
  len := BitVec.ofNat 32 (leField bytes 8 4)
  flags := BitVec.ofNat 16 (leField bytes 12 2)
  next := BitVec.ofNat 16 (leField bytes 14 2)

def buffer (desc : VirtqDesc) : Span := spanAt desc.addr desc.len.toNat

end VirtqDesc

namespace VirtQueue
variable (memory : GuestMemory) (queue : VirtQueue) (headIdx : U16)

def descAt (idx : U16) : Option VirtqDesc :=
  if idx ≥ queue.size then none
  else (memory.readBytes (queue.descAddr idx) 16).toOption.map ofBytes

def descsFrom (memory : GuestMemory) (queue : VirtQueue) : Nat → U16 → List VirtqDesc
  | 0, _ => []
  | count + 1, idx =>
    match queue.descAt memory idx with
    | none => []
    | some desc => desc :: if desc.hasNext then descsFrom memory queue count desc.next else []

def descsAfter : Nat → VirtqDesc → List VirtqDesc
  | 0, _ => []
  | count + 1, desc => desc :: if desc.hasNext then queue.descsFrom memory count desc.next else []

/-- The descriptors of the chain at a head. One more than the table holds is enough to
meet them all, and to see a cycle. -/
def chain : List VirtqDesc := queue.descsFrom memory (queue.size.toNat + 1) headIdx

/-- The descriptors of the chain at an index, if it ends within so many. -/
def wholeFrom (memory : GuestMemory) (queue : VirtQueue) : Nat → U16 → Option (List VirtqDesc)
  | 0, _ => none
  | allowed + 1, idx =>
    match queue.descAt memory idx with
    | none => none
    | some desc =>
      if desc.hasNext then (wholeFrom memory queue allowed desc.next).map (desc :: ·)
      else some [desc]

def wholeChain : Option (List VirtqDesc) := queue.wholeFrom memory queue.size.toNat headIdx

/-- The head in the avail entry at `last_avail_idx`, if the entry is in memory. -/
def availHead : Option U16 :=
  (memory.readBytes queue.availEntryAddr 2).toOption.map fun bytes => BitVec.ofNat 16 (leField bytes 0 2)

section
variable {Error : Type} [DescriptorErrors Error]

/-- The descriptors from `idx` to the end of its chain. A chain with more descriptors
than allowed has a cycle. -/
def walk (cycle : Error) (memory : GuestMemory) (queue : VirtQueue) : Nat → U16 →
    Except Error (List VirtqDesc)
  | 0, idx =>
    match queue.readDesc memory idx with
    | .error error => .error error
    | .ok _ => .error cycle
  | allowed + 1, idx =>
    match queue.readDesc memory idx with
    | .error error => .error error
    | .ok desc =>
      if desc.hasNext then
        match walk cycle memory queue allowed desc.next with
        | .error error => .error error
        | .ok rest => .ok (desc :: rest)
      else .ok [desc]

inductive ReadDesc (memory : GuestMemory) (queue : VirtQueue) (idx : U16) :
    Except Error VirtqDesc → Prop where
  | missing {error : Error} (absent : queue.descAt memory idx = none) :
    ReadDesc memory queue idx (.error error)
  | found {desc : VirtqDesc} (present : queue.descAt memory idx = some desc) :
    ReadDesc memory queue idx (.ok desc)

omit [DescriptorErrors Error] in
theorem ReadDesc.ok {memory : GuestMemory} {queue : VirtQueue} {idx : U16} {desc : VirtqDesc}
    {outcome : Except Error VirtqDesc} (read : ReadDesc memory queue idx outcome)
    (present : queue.descAt memory idx = some desc) : outcome = .ok desc := by
  cases read with
  | missing absent => cases absent.symm.trans present
  | found other =>
    cases other.symm.trans present
    rfl

theorem readDesc_read (memory : GuestMemory) (queue : VirtQueue) (idx : U16) :
    ReadDesc memory queue idx (queue.readDesc memory idx : Except Error VirtqDesc) := by
  unfold readDesc tryRead
  by_cases outside : idx ≥ queue.size
  · rw [if_pos outside]
    exact .missing (by simp [descAt, outside])
  · rw [if_neg outside]
    cases read : memory.readBytes (queue.descAddr idx) 16 with
    | error => exact .missing (by simp [descAt, outside, read, Except.toOption])
    | ok => exact .found (by simp [descAt, outside, read, Except.toOption, ofBytes])

inductive ReadHead (memory : GuestMemory) (queue : VirtQueue) : Except Error U16 → Prop where
  | missing {error : Error} (absent : queue.availHead memory = none) : ReadHead memory queue (.error error)
  | found {headIdx : U16} (present : queue.availHead memory = some headIdx) :
    ReadHead memory queue (.ok headIdx)

omit [DescriptorErrors Error] in
theorem ReadHead.ok {memory : GuestMemory} {queue : VirtQueue} {headIdx : U16}
    {outcome : Except Error U16} (read : ReadHead memory queue outcome)
    (present : queue.availHead memory = some headIdx) : outcome = .ok headIdx := by
  cases read with
  | missing absent => cases absent.symm.trans present
  | found other =>
    cases other.symm.trans present
    rfl

theorem readAvailEntry_read (memory : GuestMemory) (queue : VirtQueue) :
    ReadHead memory queue (queue.readAvailEntry memory : Except Error U16) := by
  unfold readAvailEntry tryRead
  cases read : memory.readBytes queue.availEntryAddr 2 with
  | error => exact .missing (by simp [availHead, read, Except.toOption])
  | ok => exact .found (by simp [availHead, read, Except.toOption])

section
variable (memory : GuestMemory) (queue : VirtQueue) (allowed : Nat) (idx : U16)

inductive WalkedChain : Except Error (List VirtqDesc) → Prop where
  | broken {error : Error} (absent : queue.wholeFrom memory allowed idx = none) : WalkedChain (.error error)
  | whole {descs : List VirtqDesc} (present : queue.wholeFrom memory allowed idx = some descs) :
    WalkedChain (.ok descs)

end

omit [DescriptorErrors Error] in
theorem WalkedChain.ok {memory : GuestMemory} {queue : VirtQueue} {allowed : Nat} {idx : U16}
    {descs : List VirtqDesc} {outcome : Except Error (List VirtqDesc)}
    (walked : WalkedChain memory queue allowed idx outcome)
    (present : queue.wholeFrom memory allowed idx = some descs) : outcome = .ok descs := by
  cases walked with
  | broken absent => cases absent.symm.trans present
  | whole other =>
    cases other.symm.trans present
    rfl

theorem walk_walked (cycle : Error) (memory : GuestMemory) (queue : VirtQueue) (allowed : Nat)
    (idx : U16) : WalkedChain memory queue allowed idx (queue.walk cycle memory allowed idx) := by
  induction allowed generalizing idx with
  | zero =>
    unfold walk
    split <;> exact .broken rfl
  | succ allowed ih =>
    unfold walk
    refine (@readDesc_read Error _ memory queue idx).casesOn (fun absent => ?_) @fun desc present => ?_
    · exact .broken (by simp [wholeFrom, absent])
    · dsimp only
      split
      · next more =>
          have rest := ih desc.next
          generalize queue.walk cycle memory allowed desc.next = result at rest ⊢
          cases rest with
          | broken absent => exact .broken (by simp [wholeFrom, present, more, absent])
          | whole found => exact .whole (by simp [wholeFrom, present, more, found])
      · next last => exact .whole (by simp [wholeFrom, present, last])

end

section
variable {memory other : GuestMemory} {queue another : VirtQueue}
  (same : ∀ idx, another.descAt other idx = queue.descAt memory idx)
include same

theorem wholeFrom_congr (allowed : Nat) (idx : U16) :
    another.wholeFrom other allowed idx = queue.wholeFrom memory allowed idx := by
  induction allowed generalizing idx with
  | zero => rfl
  | succ allowed ih =>
    unfold wholeFrom
    rw [same idx]
    cases queue.descAt memory idx with
    | none => rfl
    | some desc =>
      dsimp only
      rw [ih desc.next]

theorem descsFrom_congr (count : Nat) (idx : U16) :
    another.descsFrom other count idx = queue.descsFrom memory count idx := by
  induction count generalizing idx with
  | zero => rfl
  | succ count ih =>
    unfold descsFrom
    rw [same idx]
    cases queue.descAt memory idx with
    | none => rfl
    | some desc =>
      dsimp only
      rw [ih desc.next]

end

section
variable {memory : GuestMemory} {queue : VirtQueue} {idx : U16} {desc : VirtqDesc}
  (present : queue.descAt memory idx = some desc)
include present

theorem size_pos_of_descAt : 0 < queue.size.toNat := by
  unfold descAt at present
  split at present
  · cases present
  · next inTable =>
      have inside : idx.toNat < queue.size.toNat := BitVec.not_le.mp inTable
      omega

theorem descsFrom_eq_descsAfter (count : Nat) :
    queue.descsFrom memory count idx = queue.descsAfter memory count desc := by
  cases count with
  | zero => rfl
  | succ => simp [descsFrom, descsAfter, present]

end

private theorem descsFrom_subset {count more : Nat} (fewer : count ≤ more) (idx : U16) :
    queue.descsFrom memory count idx ⊆ queue.descsFrom memory more idx := by
  induction count generalizing idx more with
  | zero => exact nil_subset _
  | succ count ih =>
    obtain ⟨more, rfl⟩ : ∃ rest, more = rest + 1 := ⟨more - 1, by omega⟩
    unfold descsFrom
    cases queue.descAt memory idx with
    | none => exact nil_subset _
    | some desc =>
      apply cons_subset_cons
      split
      · exact ih (by omega) desc.next
      · exact nil_subset _

theorem descsFrom_subset_chain :
    queue.descsFrom memory queue.size.toNat headIdx ⊆ queue.chain memory headIdx :=
  descsFrom_subset memory queue (by omega) headIdx

section
variable {memory : GuestMemory} {queue : VirtQueue} {descs : List VirtqDesc}

theorem descsFrom_of_wholeFrom {allowed count : Nat} {idx : U16}
    (whole : queue.wholeFrom memory allowed idx = some descs) (enough : allowed ≤ count) :
    queue.descsFrom memory count idx = descs := by
  induction allowed generalizing idx descs count with
  | zero => cases whole
  | succ allowed ih =>
    obtain ⟨count, rfl⟩ : ∃ rest, count = rest + 1 := ⟨count - 1, by omega⟩
    unfold wholeFrom at whole
    unfold descsFrom
    cases present : queue.descAt memory idx with
    | none =>
      rw [present] at whole
      cases whole
    | some =>
      rw [present] at whole
      dsimp only at whole ⊢
      split at whole
      · next more =>
          obtain ⟨rest, found, rfl⟩ := map_eq_some_iff.mp whole
          rw [if_pos more, ih found (by omega)]
      · next last =>
          cases whole
          rw [if_neg last]

theorem chain_of_wholeChain {headIdx : U16} (whole : queue.wholeChain memory headIdx = some descs) :
    queue.chain memory headIdx = descs := descsFrom_of_wholeFrom whole (by omega)

theorem wholeFrom_ne_nil {allowed : Nat} {idx : U16}
    (whole : queue.wholeFrom memory allowed idx = some descs) : descs ≠ [] := by
  cases allowed with
  | zero => cases whole
  | succ =>
    unfold wholeFrom at whole
    split at whole
    · cases whole
    · split at whole
      · obtain ⟨rest, _, rfl⟩ := map_eq_some_iff.mp whole
        simp
      · cases whole
        simp

end
end VirtQueue

namespace GuestMemory
inductive Written {Error : Type} (memory : GuestMemory) (addr : U64) (data : List U8) :
    GuestMemory × Except Error Unit → Prop where
  | refused {error : Error} (outside : ¬ memory.InBounds addr data.length) :
    Written memory addr data (memory, .error error)
  | done {after : GuestMemory} (inside : memory.InBounds addr data.length)
    (wrote : memory.Wrote after [spanAt addr data.length])
    (reads : after.readBytes addr data.length = .ok data) : Written memory addr data (after, .ok ())

theorem Written.ok {Error : Type} {memory : GuestMemory} {addr : U64} {data : List U8}
    {result : GuestMemory × Except Error Unit} (written : Written memory addr data result)
    (inside : memory.InBounds addr data.length) :
    ∃ after, result = (after, .ok ()) ∧ memory.Wrote after [spanAt addr data.length] ∧
    after.readBytes addr data.length = .ok data := by
  cases written with
  | refused outside => exact absurd inside outside
  | done _ wrote reads => exact ⟨_, rfl, wrote, reads⟩

theorem tryWrite_written {Error : Type} [DescriptorErrors Error] (memory : GuestMemory) (addr : U64)
    (data : List U8) :
    Written memory addr data (memory.tryWrite addr data : GuestMemory × Except Error Unit) := by
  unfold tryWrite
  cases written : memory.writeBytes addr data with
  | error =>
    refine .refused fun inside => ?_
    obtain ⟨after, ok⟩ := writeBytes_isOk_iff.mpr inside
    rw [written] at ok
    cases ok
  | ok =>
    exact .done (writeBytes_eq_ok_iff.mp written).1 (writeBytes_wrote written)
      (readBytes_writeBytes written)

end GuestMemory

/-! A chain that ends visits no index twice, so it has no more descriptors than the table. A
walk that may take as many steps as the table has descriptors therefore reaches the end
of every chain that has one. -/

namespace VirtQueue
inductive Ends (memory : GuestMemory) (queue : VirtQueue) : U16 → List VirtqDesc → Prop where
  | last {idx : U16} {desc : VirtqDesc} (present : queue.descAt memory idx = some desc)
    (ends : desc.hasNext = false) : Ends memory queue idx [desc]
  | more {idx : U16} {desc : VirtqDesc} {rest : List VirtqDesc}
    (present : queue.descAt memory idx = some desc)
    (goesOn : desc.hasNext = true) (tail : Ends memory queue desc.next rest) :
      Ends memory queue idx (desc :: rest)

variable {memory : GuestMemory} {queue : VirtQueue} {idx : U16} {descs other : List VirtqDesc}

theorem Ends.unique (first : Ends memory queue idx descs) (second : Ends memory queue idx other) :
    descs = other := by
  induction first generalizing other with
  | last present ends =>
    cases second with
    | last again =>
      rw [present] at again
      cases again
      rfl
    | more again goesOn =>
      rw [present] at again
      cases again
      rw [ends] at goesOn
      cases goesOn
  | more present goesOn _ ih =>
    cases second with
    | last again ends =>
      rw [present] at again
      cases again
      rw [ends] at goesOn
      cases goesOn
    | more again _ tail =>
      rw [present] at again
      cases again
      rw [ih tail]

private theorem descAt_lt {desc : VirtqDesc} (present : queue.descAt memory idx = some desc) :
    idx.toNat < queue.size.toNat := by
  unfold descAt at present
  split at present
  · cases present
  · next inTable => exact BitVec.not_le.mp inTable

private theorem Ends.exists_index (chain : Ends memory queue idx descs) (count : Nat) (positive : 0 < count)
    (short : count ≤ descs.length) :
    ∃ position rest, position.toNat < queue.size.toNat ∧ Ends memory queue position rest ∧
    rest.length = count := by
  induction chain with
  | @last idx desc present ends =>
    have one : count = 1 := by
      rw [length_singleton] at short
      omega
    exact ⟨idx, [desc], descAt_lt present, .last present ends, one.symm⟩
  | @more idx desc rest present goesOn tail ih =>
    by_cases inTail : count ≤ rest.length
    · exact ih inTail
    · have whole : count = rest.length + 1 := by
        rw [length_cons] at short
        omega
      exact ⟨idx, desc :: rest, descAt_lt present, .more present goesOn tail, whole.symm⟩

theorem Ends.length_le (chain : Ends memory queue idx descs) : descs.length ≤ queue.size.toNat := by
  have index (count : Fin descs.length) : ∃ position : Fin queue.size.toNat, ∃ found rest,
    position.val = found.toNat ∧ Ends memory queue found rest ∧ rest.length = count + 1 := by
    obtain ⟨found, rest, inTable, ends, length⟩ :=
      chain.exists_index (count + 1) (Nat.succ_pos _) count.isLt
    exact ⟨⟨found.toNat, inTable⟩, found, rest, rfl, ends, length⟩
  choose position found rest value ends length using index
  have injective : Function.Injective position := by
    intro first second same
    have sameIndex : found first = found second := by
      apply BitVec.eq_of_toNat_eq
      rw [← value, ← value, same]
    have sameRest : rest first = rest second := by
      have firstEnds := ends first
      rw [sameIndex] at firstEnds
      exact firstEnds.unique (ends second)
    have sameLength := length first
    rw [sameRest, length second] at sameLength
    exact Fin.ext (by omega)
  simpa using Fintype.card_le_of_injective position injective

theorem ends_of_wholeFrom {allowed : Nat}
    (whole : queue.wholeFrom memory allowed idx = some descs) : Ends memory queue idx descs := by
  induction allowed generalizing idx descs with
  | zero => cases whole
  | succ allowed ih =>
    unfold wholeFrom at whole
    cases present : queue.descAt memory idx with
    | none =>
      rw [present] at whole
      cases whole
    | some =>
      rw [present] at whole
      dsimp only at whole
      split at whole
      · next goesOn =>
          obtain ⟨rest, found, rfl⟩ := map_eq_some_iff.mp whole
          exact .more present goesOn (ih found)
      · next ends =>
          cases whole
          exact .last present (by simpa using ends)

theorem Ends.wholeFrom (chain : Ends memory queue idx descs) {allowed : Nat}
    (enough : descs.length ≤ allowed) : queue.wholeFrom memory allowed idx = some descs := by
  induction chain generalizing allowed with
  | last present ends =>
    obtain ⟨allowed, rfl⟩ : ∃ fewer, allowed = fewer + 1 := ⟨allowed - 1, by simp at enough; omega⟩
    simp [VirtQueue.wholeFrom, present, ends]
  | more present goesOn _ ih =>
    rw [length_cons] at enough
    obtain ⟨allowed, rfl⟩ : ∃ fewer, allowed = fewer + 1 := ⟨allowed - 1, by omega⟩
    simp [VirtQueue.wholeFrom, present, goesOn, ih (show _ ≤ allowed by omega)]

theorem wholeChain_eq_some_iff : queue.wholeChain memory idx = some descs ↔ Ends memory queue idx descs :=
  ⟨ends_of_wholeFrom, fun chain => chain.wholeFrom chain.length_le⟩

end VirtQueue
end Visor
