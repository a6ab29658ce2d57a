import Visor.Transport.AvailLoop
import Visor.Transport.Chain

/-! A pass leaves its used entries visible to the guest exactly when, by the forecast, no entry
fails once another has been consumed. -/

namespace Visor
open Library VirtqDesc GuestMemory Option List

/-! What a guest can rely on when a pass over a queue is over, and a forecast of the pass:
what becomes of each pending entry, judged by the guest memory before the pass. -/

namespace VirtQueue
variable (memory : GuestMemory) (queue : VirtQueue)

def availRing : Span := spanAt queue.availRingAddr (4 + 2 * queue.size.toNat)
def usedRing : Span := spanAt queue.usedRingAddr (4 + 8 * queue.size.toNat)
def descTable : Span := spanAt queue.descTableAddr (16 * queue.size.toNat)

/-- The queue after so many entries. -/
@[simps]
def advanceBy (count : Nat) : VirtQueue :=
  { queue with
    lastAvailIdx := queue.lastAvailIdx + BitVec.ofNat 16 count
    lastUsedIdx := queue.lastUsedIdx + BitVec.ofNat 16 count }

def pending : Nat :=
  if !queue.ready || queue.size == 0 then 0
  else
    match memory.readBytes (queue.availRingAddr + 2) 2 with
    | .error _ => 0
    | .ok bytes => (BitVec.ofNat 16 (leField bytes 0 2) - queue.lastAvailIdx).toNat

def usedIdx : Option U16 :=
  (memory.readBytes (queue.usedRingAddr + 2) 2).toOption.map fun bytes =>
    BitVec.ofNat 16 (leField bytes 0 2)

def usedHead : Option U32 :=
  (memory.readBytes queue.usedEntryAddr 4).toOption.map fun bytes => BitVec.ofNat 32 (leField bytes 0 4)

def CanEnter : Prop := memory.InBounds queue.usedEntryAddr 4 ∧ memory.InBounds (queue.usedEntryAddr + 4) 4
deriving Decidable

/-- A pass that took the queue from `queue` to `after` is visible to the guest: the used
index is that of the queue, and the used entries up to it hold the heads of the avail
entries consumed, in their order. -/
structure Published (before : GuestMemory) (queue : VirtQueue) (memory : GuestMemory)
    (after : VirtQueue) : Prop where
  index : after.usedIdx memory = some after.lastUsedIdx
  entries : ∃ count ≤ queue.pending before, after = queue.advanceBy count ∧
    ∀ entry < count, ∃ headIdx, (queue.advanceBy entry).availHead before = some headIdx ∧
      (queue.advanceBy entry).usedHead memory = some (headIdx.setWidth 32)

end VirtQueue

/-- The guest addresses at which a device may write for a descriptor: its buffer, and the
first byte of an empty one. -/
def VirtqDesc.area (desc : VirtqDesc) : Span := spanAt desc.addr (max desc.len.toNat 1)

def VirtQueue.pendingHeads (memory : GuestMemory) (queue : VirtQueue) : List U16 :=
  (range (queue.pending memory)).filterMap fun entry => (queue.advanceBy entry).availHead memory

/-- The guest keeps its side: the rings and the descriptor table do not wrap around the
address space, nothing that a device writes for the pending chains lies in them, and the
indices are in step with each other. -/
structure Layout (memory : GuestMemory) (queue : VirtQueue) : Prop where
  together : queue.lastAvailIdx = queue.lastUsedIdx
  availFits : queue.availRingAddr.toNat + (4 + 2 * queue.size.toNat) ≤ 2 ^ 64
  usedFits : queue.usedRingAddr.toNat + (4 + 8 * queue.size.toNat) ≤ 2 ^ 64
  tableFits : queue.descTableAddr.toNat + 16 * queue.size.toNat ≤ 2 ^ 64
  usedAvail : queue.usedRing.Apart queue.availRing
  usedTable : queue.usedRing.Apart queue.descTable
  buffers : ∀ headIdx ∈ queue.pendingHeads memory, ∀ desc ∈ queue.chain memory headIdx,
    desc.addr.toNat + desc.len.toNat ≤ 2 ^ 64 ∧ desc.area.Apart queue.availRing ∧
      desc.area.Apart queue.usedRing ∧ desc.area.Apart queue.descTable

/-- What becomes of an entry: it is completed, the pass stops before it, it fails before
it is counted as consumed, or after. -/
inductive Verdict where
  | completes
  | stops
  | fails
  | failsLate
deriving DecidableEq

/-- A judgment of pending entries by what the device reads of the guest memory before the
pass. -/
structure Forecast (State Token : Type) where
  poll : State → State × Option Token
  entry : GuestMemory → VirtQueue → Token → U16 → State → State × Verdict

namespace Forecast
variable {State Token : Type} (forecast : Forecast State Token) (memory : GuestMemory)
  (queue : VirtQueue) (state : State)

/-- An entry that the device would complete still fails if its used entry is not in
memory. -/
def judge : State × Verdict :=
  match forecast.poll state with
  | (state, none) => (state, .stops)
  | (state, some token) =>
    match queue.availHead memory with
    | none => (state, .fails)
    | some headIdx =>
      match forecast.entry memory queue token headIdx state with
      | (state, .stops) => (state, .stops)
      | (state, .fails) => (state, .fails)
      | (state, .completes) => (state, if queue.CanEnter memory then .completes else .fails)
      | (state, .failsLate) => (state, if queue.CanEnter memory then .failsLate else .fails)

/-- Verdicts on the entries up to the first one that is not completed. -/
def verdicts (forecast : Forecast State Token) (memory : GuestMemory) : Nat → VirtQueue → State →
    List Verdict
  | 0, _, _ => []
  | count + 1, queue, state =>
    match forecast.judge memory queue state with
    | (state, .completes) => .completes :: forecast.verdicts memory count queue.advance state
    | (_, other) => [other]

def pass : List Verdict := forecast.verdicts memory (queue.pending memory) queue state

def always : Forecast Unit Unit where
  poll _ := ((), some ())
  entry _ _ _ _ _ := ((), .completes)

end Forecast

/-- No entry fails once an entry has been counted as consumed. -/
def Orderly (verdicts : List Verdict) : Prop :=
  .failsLate ∉ verdicts ∧ (.fails ∈ verdicts → verdicts = [.fails])
deriving Decidable

/-- The used index in memory is the one the queue has counted to, or the pass stores it anew. -/
def InStep (memory : GuestMemory) (queue : VirtQueue) (verdicts : List Verdict) : Prop :=
  queue.usedIdx memory = some queue.lastUsedIdx ∨
    (queue.usedIdx memory).isSome = true ∧ Orderly verdicts ∧ .completes ∈ verdicts
deriving Decidable

/-- A guest memory of the same extent in which the descriptor table is as it was. -/
structure SameTable (queue : VirtQueue) (before after : GuestMemory) : Prop where
  inBounds : ∀ addr len, after.InBounds addr len ↔ before.InBounds addr len
  descAt : ∀ idx, queue.descAt after idx = queue.descAt before idx

/-- Descriptors for which no write reaches the descriptor table. -/
structure ClearOfTable (queue : VirtQueue) (descs : List VirtqDesc) : Prop where
  tableFits : queue.descTableAddr.toNat + 16 * queue.size.toNat ≤ 2 ^ 64
  fits : ∀ desc ∈ descs, desc.addr.toNat + desc.len.toNat ≤ 2 ^ 64
  apart : ∀ desc ∈ descs, desc.area.Apart queue.descTable

/-- Writes that are made for the descriptors of a chain. -/
def ForChain (descs : List VirtqDesc) (spans : List Span) : Prop :=
  ∀ span ∈ spans, ∃ desc ∈ descs, span.Within desc.area

section
variable {Device Error State : Type} (view : Device → State) (descs : List VirtqDesc)
  (entered : GuestMemory) (foreseen : State × Verdict)

inductive Settled : Device × GuestMemory × Except Error Unit → Prop where
  | completed {device : Device} {after : GuestMemory} {spans : List Span}
    (wrote : entered.Wrote after spans)
    (confined : ForChain descs spans) (verdict : foreseen = (view device, .completes)) :
      Settled (device, after, .ok ())
  | failed {device : Device} {after : GuestMemory} {error : Error} {spans : List Span}
    (wrote : entered.Wrote after spans)
    (confined : ForChain descs spans) (verdict : foreseen.2 = .failsLate) :
      Settled (device, after, .error error)

end

section
variable {Device Token Note Error State : Type} (service : QueueService Device Token Note Error)
  (view : Device → State)
  (descs : List VirtqDesc) (memory : GuestMemory) (queue : VirtQueue) (headIdx : U16)
    (foreseen : State × Verdict)

/-- How the service takes one entry, when the forecast for it is `foreseen`. -/
inductive Taken : Device × GuestMemory × Except Error (Option (U32 × Note)) → Prop where
  | failed {device : Device} {after : GuestMemory} {error : Error} {spans : List Span}
    (wrote : memory.Wrote after spans)
    (confined : ForChain descs spans) (verdict : foreseen.2 = .fails) : Taken (device, after, .error error)
  | stopped {device : Device} {after : GuestMemory} {spans : List Span}
    (wrote : memory.Wrote after spans) (confined : ForChain descs spans)
    (verdict : foreseen.2 = .stops) : Taken (device, after, .ok none)
  | completed {device : Device} {after : GuestMemory} {written : U32} {note : Note} {spans : List Span}
    (wrote : memory.Wrote after spans) (confined : ForChain descs spans)
      (settles : ∀ entered, SameTable queue memory entered →
      Settled view descs entered foreseen
        (service.settle device entered queue.advance headIdx note)) : Taken
      (device, after, .ok (some (written, note)))

end

/-- The forecast is right about every entry that the service takes. -/
structure Foretells {Device Token Note Error State : Type}
    (forecast : Forecast State Token) (service : QueueService Device Token Note Error)
      (view : Device → State) : Prop where
  poll : ∀ device, forecast.poll (view device) = (view (service.poll device).1, (service.poll device).2)
  takes : ∀ device before memory queue token headIdx, SameTable queue before memory →
    ClearOfTable queue (queue.chain before headIdx) →
    Taken service view (queue.chain before headIdx) memory queue headIdx
      (forecast.entry before queue token headIdx (view device))
      (service.serve device memory queue token headIdx)

open BitVec List
namespace VirtQueue
@[simp] theorem advanceBy_zero (queue : VirtQueue) : queue.advanceBy 0 = queue := by simp [advanceBy]

theorem advance_advanceBy (queue : VirtQueue) (count : Nat) :
    (queue.advanceBy count).advance = queue.advanceBy (count + 1) := by
  simp only [advance, advanceBy, ofNat_add, BitVec.add_assoc]
  rfl

section
variable (queue : VirtQueue)

theorem toNat_mod_lt (idx size : U16) (positive : size ≠ 0) : (idx % size).toNat < size.toNat := by
  rw [toNat_umod]
  apply Nat.mod_lt
  have nonzero : size.toNat ≠ 0 := by
    intro zero
    exact positive (eq_of_toNat_eq zero)
  omega

theorem toNat_usedEntryAddr_mod : queue.usedEntryAddr.toNat =
    (queue.usedRingAddr.toNat + (4 + 8 * (queue.lastUsedIdx % queue.size).toNat)) % 2 ^ 64 := by
  unfold usedEntryAddr
  bv_omega

theorem toNat_availEntryAddr_mod : queue.availEntryAddr.toNat =
    (queue.availRingAddr.toNat + (4 + 2 * (queue.lastAvailIdx % queue.size).toNat)) % 2 ^ 64 := by
  unfold availEntryAddr
  bv_omega

theorem toNat_descAddr_mod (idx : U16) :
    (queue.descAddr idx).toNat = (queue.descTableAddr.toNat + 16 * idx.toNat) % 2 ^ 64 := by
  unfold descAddr
  bv_omega

theorem toNat_availEntryAddr (positive : queue.size ≠ 0)
    (fits : queue.availRingAddr.toNat + (4 + 2 * queue.size.toNat) ≤ 2 ^ 64) : queue.availEntryAddr.toNat =
    queue.availRingAddr.toNat + (4 + 2 * (queue.lastAvailIdx % queue.size).toNat) := by
  have slot := toNat_mod_lt queue.lastAvailIdx queue.size positive
  rw [toNat_availEntryAddr_mod, Nat.mod_eq_of_lt (by omega)]

section
variable {idx : U16} (inTable : idx < queue.size)
  (fits : queue.descTableAddr.toNat + 16 * queue.size.toNat ≤ 2 ^ 64)
include inTable fits

private theorem toNat_descAddr :
    (queue.descAddr idx).toNat = queue.descTableAddr.toNat + 16 * idx.toNat := by
  have inside : idx.toNat < queue.size.toNat := inTable
  rw [toNat_descAddr_mod, Nat.mod_eq_of_lt (by omega)]

theorem descCell_within : (spanAt (queue.descAddr idx) 16).Within queue.descTable := by
  have inside : idx.toNat < queue.size.toNat := inTable
  have address := queue.toNat_descAddr inTable fits
  unfold Span.Within descTable spanAt
  dsimp only
  omega

end

theorem availCell_within (positive : queue.size ≠ 0)
    (fits : queue.availRingAddr.toNat + (4 + 2 * queue.size.toNat) ≤ 2 ^ 64) :
    (spanAt queue.availEntryAddr 2).Within queue.availRing := by
  have slot := toNat_mod_lt queue.lastAvailIdx queue.size positive
  have address := queue.toNat_availEntryAddr positive fits
  unfold Span.Within availRing spanAt
  dsimp only
  omega

section
variable (positive : queue.size ≠ 0)
  (fits : queue.usedRingAddr.toNat + (4 + 8 * queue.size.toNat) ≤ 2 ^ 64)
include fits

theorem toNat_usedIdxAddr : (queue.usedRingAddr + 2).toNat = queue.usedRingAddr.toNat + 2 := by bv_omega

theorem usedIdxCell_within : (spanAt (queue.usedRingAddr + 2) 2).Within queue.usedRing := by
  have address := queue.toNat_usedIdxAddr fits
  unfold Span.Within usedRing spanAt
  dsimp only
  omega

include positive

theorem toNat_usedEntryAddr :
    queue.usedEntryAddr.toNat =
    queue.usedRingAddr.toNat + (4 + 8 * (queue.lastUsedIdx % queue.size).toNat) := by
  have slot := toNat_mod_lt queue.lastUsedIdx queue.size positive
  rw [toNat_usedEntryAddr_mod, Nat.mod_eq_of_lt (by omega)]

theorem usedCell_within : (spanAt queue.usedEntryAddr 8).Within queue.usedRing := by
  have slot := toNat_mod_lt queue.lastUsedIdx queue.size positive
  have address := queue.toNat_usedEntryAddr positive fits
  unfold Span.Within usedRing spanAt
  dsimp only
  omega

theorem usedCell_apart_usedIdx :
    (spanAt queue.usedEntryAddr 8).Apart (spanAt (queue.usedRingAddr + 2) 2) := by
  have index := queue.toNat_usedIdxAddr fits
  have address := queue.toNat_usedEntryAddr positive fits
  unfold Span.Apart spanAt
  dsimp only
  omega

end
end
end VirtQueue

section
variable {queue : VirtQueue} {before between after memory : GuestMemory} {spans : List Span}
  {descs : List VirtqDesc}

theorem ForChain.nil : ForChain descs [] := nofun

theorem ForChain.append {later : List Span} (first : ForChain descs spans)
    (second : ForChain descs later) : ForChain descs (later ++ spans) := by
  intro span member
  rcases mem_append.mp member with new | old
  · exact second span new
  · exact first span old

theorem ForChain.apart {region : Span} (confined : ForChain descs spans)
    (clear : ∀ desc ∈ descs, desc.area.Apart region) : ∀ span ∈ spans, span.Apart region := by
  intro span member
  obtain ⟨desc, inChain, within⟩ := confined span member
  exact (clear desc inChain).within within

theorem SameTable.refl (queue : VirtQueue) (memory : GuestMemory) : SameTable queue memory memory where
  inBounds _ _ := Iff.rfl
  descAt _ := rfl

theorem SameTable.symm (same : SameTable queue before after) : SameTable queue after before where
  inBounds addr len := (same.inBounds addr len).symm
  descAt idx := (same.descAt idx).symm

theorem SameTable.trans (first : SameTable queue before between)
    (second : SameTable queue between after) : SameTable queue before after where
  inBounds addr len := (second.inBounds addr len).trans (first.inBounds addr len)
  descAt idx := (second.descAt idx).trans (first.descAt idx)

theorem SameTable.of_wrote (fits : queue.descTableAddr.toNat + 16 * queue.size.toNat ≤ 2 ^ 64)
    (wrote : before.Wrote after spans) (apart : ∀ span ∈ spans, span.Apart queue.descTable) :
    SameTable queue before after where
  inBounds := wrote.inBounds_iff
  descAt idx := by
    unfold VirtQueue.descAt
    split
    · rfl
    · next inTable =>
        have within := queue.descCell_within (BitVec.not_le.mp inTable) fits
        rw [wrote.readBytes_eq fun span member => ((apart span member).symm.within within).symm]

theorem ClearOfTable.mono {fewer : List VirtqDesc} (clear : ClearOfTable queue descs)
    (subset : fewer ⊆ descs) : ClearOfTable queue fewer where
  tableFits := clear.tableFits
  fits desc member := clear.fits desc (subset member)
  apart desc member := clear.apart desc (subset member)

theorem ClearOfTable.same (clear : ClearOfTable queue descs) (wrote : before.Wrote after spans)
    (confined : ForChain descs spans) : SameTable queue before after :=
  .of_wrote clear.tableFits wrote (confined.apart clear.apart)

theorem SameTable.chain_eq (same : SameTable queue before after) (headIdx : U16) :
    queue.chain after headIdx = queue.chain before headIdx :=
  VirtQueue.descsFrom_congr same.descAt _ headIdx

/-- A service that completes whatever it is given. -/
structure Completes {Device Note Error : Type} (service : QueueService Device Unit Note Error) : Prop where
  poll : ∀ device, (service.poll device).2 = some ()
  serve : ∀ device memory queue headIdx, ∃ served after written note spans,
    service.serve device memory queue () headIdx = (served, after, .ok (some (written, note))) ∧
      memory.Wrote after spans ∧ ForChain (queue.chain memory headIdx) spans
  settle : ∀ device memory queue headIdx note, ∃ settled, service.settle device memory queue headIdx
    note = (settled, memory, .ok ())

theorem Completes.foretells {Device Note Error : Type}
    {service : QueueService Device Unit Note Error} (completes : Completes service) :
    Foretells .always service (fun _ => ()) where
  poll device := by
    rw [completes.poll]
    rfl
  takes device before memory queue token headIdx same clear := by
    obtain ⟨served, after, written, note, spans, serves, wrote, confined⟩ :=
      completes.serve device memory queue headIdx
    rw [serves, ← same.chain_eq]
    refine .completed wrote confined fun entered _ => ?_
    obtain ⟨settled, settles⟩ := completes.settle served entered queue.advance headIdx note
    rw [settles]
    exact .completed (.refl entered) .nil rfl

structure Steady (queue : VirtQueue) (before after : GuestMemory) : Prop where
  table : SameTable queue before after
  availHead : ∀ entry, (queue.advanceBy entry).availHead after = (queue.advanceBy entry).availHead before
  usedIdx : queue.usedIdx after = queue.usedIdx before

theorem Steady.refl (queue : VirtQueue) (memory : GuestMemory) : Steady queue memory memory where
  table := .refl queue memory
  availHead _ := rfl
  usedIdx := rfl

theorem Steady.trans (first : Steady queue before between) (second : Steady queue between after) :
    Steady queue before after where
  table := first.table.trans second.table
  availHead entry := (second.availHead entry).trans (first.availHead entry)
  usedIdx := second.usedIdx.trans first.usedIdx

theorem Steady.of_wrote (layout : Layout memory queue) (positive : queue.size ≠ 0)
    (wrote : before.Wrote after spans) (availApart : ∀ span ∈ spans, span.Apart queue.availRing)
    (tableApart : ∀ span ∈ spans, span.Apart queue.descTable)
    (indexApart : ∀ span ∈ spans, span.Apart (spanAt (queue.usedRingAddr + 2) 2)) :
    Steady queue before after where
  table := .of_wrote layout.tableFits wrote tableApart
  availHead entry := by
    have within : (spanAt (queue.advanceBy entry).availEntryAddr 2).Within queue.availRing :=
      (queue.advanceBy entry).availCell_within positive layout.availFits
    unfold VirtQueue.availHead
    rw [wrote.readBytes_eq fun span member => ((availApart span member).symm.within within).symm]
  usedIdx := by
    unfold VirtQueue.usedIdx
    rw [wrote.readBytes_eq indexApart]

end

namespace VirtQueue
theorem leField_toLeBytes (count value : Nat) :
    leField (toLeBytes count value) 0 count = value % 256 ^ count := by
  have all : (toLeBytes count value).take count = toLeBytes count value := take_of_length_le (by simp)
  rw [leField, drop_zero, all, fromLeBytes_toLeBytes]

inductive EnteredUsed {Error : Type} (memory : GuestMemory) (queue : VirtQueue) (headIdx : U16) :
    GuestMemory × Except Error Unit → Prop where
  | refused {after : GuestMemory} {error : Error} {spans : List Span}
    (cannot : ¬ queue.CanEnter memory) (wrote : memory.Wrote after spans)
    (within : ∀ span ∈ spans, span.Within (spanAt queue.usedEntryAddr 8)) :
      EnteredUsed memory queue headIdx (after, .error error)
  | entered {after : GuestMemory} {spans : List Span} (can : queue.CanEnter memory)
    (wrote : memory.Wrote after spans)
    (within : ∀ span ∈ spans, span.Within (spanAt queue.usedEntryAddr 8))
      (head : queue.usedHead after = some (headIdx.setWidth 32)) :
    EnteredUsed memory queue headIdx (after, .ok ())

variable {Error : Type} (memory : GuestMemory) (queue : VirtQueue)

theorem EnteredUsed.ok {memory : GuestMemory} {queue : VirtQueue} {headIdx : U16}
    {result : GuestMemory × Except Error Unit} (entered : EnteredUsed memory queue headIdx result)
    (can : queue.CanEnter memory) :
    ∃ after spans, result = (after, .ok ()) ∧ memory.Wrote after spans ∧
    (∀ span ∈ spans, span.Within (spanAt queue.usedEntryAddr 8)) ∧ queue.usedHead after =
    some (headIdx.setWidth 32) := by
  cases entered with
  | refused cannot => exact absurd can cannot
  | entered _ wrote within head => exact ⟨_, _, rfl, wrote, within, head⟩

theorem writeUsedEntry_entered [DescriptorErrors Error] (positive : queue.size ≠ 0)
    (fits : queue.usedRingAddr.toNat + (4 + 8 * queue.size.toNat) ≤ 2 ^ 64) (headIdx : U16)
    (written : U32) :
    EnteredUsed memory queue headIdx
    (queue.writeUsedEntry memory headIdx written : GuestMemory × Except Error Unit) := by
  have slot := toNat_mod_lt queue.lastUsedIdx queue.size positive
  have address := queue.toNat_usedEntryAddr positive fits
  have second : (queue.usedEntryAddr + 4).toNat = queue.usedEntryAddr.toNat + 4 := by
    have four : (4 : U64).toNat = 4 := rfl
    rw [toNat_add, four, Nat.mod_eq_of_lt (by omega)]
  have firstWithin : (spanAt queue.usedEntryAddr 4).Within (spanAt queue.usedEntryAddr 8) := by
    unfold Span.Within spanAt
    dsimp only
    omega
  have secondWithin : (spanAt (queue.usedEntryAddr + 4) 4).Within (spanAt queue.usedEntryAddr 8) := by
    unfold Span.Within spanAt
    dsimp only
    omega
  have apart : (spanAt (queue.usedEntryAddr + 4) 4).Apart (spanAt queue.usedEntryAddr 4) := by
    unfold Span.Apart spanAt
    dsimp only
    omega
  unfold writeUsedEntry
  refine (@tryWrite_written Error _ memory queue.usedEntryAddr (toLeBytes 4 headIdx.toNat)).casesOn
    (fun outside => ?_) @fun between inside wrote reads => ?_
  · rw [length_toLeBytes] at outside
    exact .refused (fun can => outside can.1) (.refl memory) nofun
  · rw [length_toLeBytes] at inside wrote reads
    dsimp only
    refine (@tryWrite_written Error _ between (queue.usedEntryAddr + 4) (toLeBytes 4 written.toNat)).casesOn
      (fun outside => ?_) @fun after room rewrote _ => ?_
    · rw [length_toLeBytes, wrote.inBounds_iff] at outside
      refine .refused (fun can => outside can.2) wrote ?_
      intro span member
      rw [mem_singleton.mp member]
      exact firstWithin
    · rw [length_toLeBytes] at rewrote room
      rw [wrote.inBounds_iff] at room
      refine .entered ⟨inside, room⟩ (wrote.trans rewrote) ?_ ?_
      · intro span member
        rcases mem_cons.mp member with rfl | older
        · exact secondWithin
        · rw [mem_singleton.mp older]
          exact firstWithin
      · have kept : after.readBytes queue.usedEntryAddr 4 = between.readBytes queue.usedEntryAddr 4 := by
          apply rewrote.readBytes_eq
          intro span member
          rw [mem_singleton.mp member]
          exact apart
        rw [usedHead, kept, reads]
        simp only [Except.toOption, map_some, leField_toLeBytes, some.injEq]
        apply eq_of_toNat_eq
        simp only [toNat_ofNat, toNat_setWidth]
        omega

theorem writeUsedIdx_written [DescriptorErrors Error]
    (room : memory.InBounds (queue.usedRingAddr + 2) 2) :
    ∃ after, (queue.writeUsedIdx memory : GuestMemory × Except Error Unit) = (after, .ok ()) ∧
    memory.Wrote after [spanAt (queue.usedRingAddr + 2) 2] ∧
    queue.usedIdx after = some queue.lastUsedIdx := by
  unfold writeUsedIdx
  refine (@tryWrite_written Error _ memory (queue.usedRingAddr + 2)
    (toLeBytes 2 queue.lastUsedIdx.toNat)).casesOn
    (fun outside => ?_) @fun after _ wrote reads => ?_
  · rw [length_toLeBytes] at outside
    exact absurd room outside
  · rw [length_toLeBytes] at wrote reads
    refine ⟨after, rfl, wrote, ?_⟩
    rw [usedIdx, reads]
    simp only [Except.toOption, map_some, leField_toLeBytes, some.injEq]
    apply eq_of_toNat_eq
    simp only [toNat_ofNat]
    omega

end VirtQueue

/-! Every write of a device into a chain stays in the buffer of one descriptor. What the
devices differ in is which descriptors they write to, and what they count. -/

def bytesOf (spans : List Span) : Nat := (spans.map Span.length).sum

@[simp] theorem bytesOf_nil : bytesOf [] = 0 := rfl

@[simp] theorem bytesOf_cons (span : Span) (spans : List Span) :
    bytesOf (span :: spans) = span.length + bytesOf spans := rfl

@[simp] theorem bytesOf_append (first second : List Span) :
    bytesOf (first ++ second) = bytesOf first + bytesOf second := by simp [bytesOf]

theorem toNat_counter_le (counted : Nat) : ((0 : U32) + BitVec.ofNat 32 counted).toNat ≤ counted := by
  have shown : ((0 : U32) + BitVec.ofNat 32 counted).toNat = counted % 2 ^ 32 := by simp
  rw [shown]
  exact Nat.mod_le _ _

/-- Each write is in the buffer of one of the descriptors. -/
def InBuffers (descs : List VirtqDesc) (spans : List Span) : Prop :=
  ∀ span ∈ spans, ∃ desc ∈ descs, span.Within desc.buffer

namespace InBuffers
variable {descs more : List VirtqDesc} {spans later : List Span}

theorem nil : InBuffers descs [] := nofun

theorem append (first : InBuffers descs spans) (second : InBuffers descs later) :
    InBuffers descs (later ++ spans) := by
  intro span member
  rcases mem_append.mp member with new | old
  · exact second span new
  · exact first span old

theorem mono (inside : InBuffers descs spans) (subset : descs ⊆ more) : InBuffers more spans := by
  intro span member
  obtain ⟨desc, inChain, within⟩ := inside span member
  exact ⟨desc, subset inChain, within⟩

theorem ofWritable (inside : InBuffers (descs.filter isWritable) spans) :
    InBuffers descs spans := inside.mono fun _ member => (mem_filter.mp member).1

theorem single {desc : VirtqDesc} (member : desc ∈ descs) {len : Nat}
    (short : len ≤ desc.len.toNat) : InBuffers descs [spanAt desc.addr len] := by
  intro span only
  rw [mem_singleton.mp only]
  refine ⟨desc, member, ?_⟩
  unfold Span.Within buffer spanAt
  dsimp only
  omega

theorem forChain (inside : InBuffers descs spans) : ForChain descs spans := by
  intro span member
  obtain ⟨desc, inChain, within⟩ := inside span member
  refine ⟨desc, inChain, ?_⟩
  unfold Span.Within buffer area spanAt at *
  dsimp only at *
  omega

end InBuffers

/-- From `memory` to `after` the device wrote into buffers of these descriptors, at least
as many bytes as `counted`. -/
structure Filled (descs : List VirtqDesc) (memory after : GuestMemory) (spans : List Span)
    (counted : Nat) : Prop where
  wrote : memory.Wrote after spans
  inside : InBuffers descs spans
  counts : counted ≤ bytesOf spans

namespace Filled
variable {descs more : List VirtqDesc} {memory between after : GuestMemory}
  {spans later : List Span} {counted extra : Nat}

theorem none (descs : List VirtqDesc) (memory : GuestMemory) : Filled descs memory memory [] 0 where
  wrote := .refl memory
  inside := .nil
  counts := Nat.le_refl _

theorem append (first : Filled descs memory between spans counted)
    (second : Filled descs between after later extra) :
    Filled descs memory after (later ++ spans) (counted + extra) where
  wrote := first.wrote.trans second.wrote
  inside := first.inside.append second.inside
  counts := by
    have early := first.counts
    have late := second.counts
    rw [bytesOf_append]
    omega

theorem mono (filled : Filled descs memory after spans counted) (subset : descs ⊆ more) :
    Filled more memory after spans counted :=
  ⟨filled.wrote, filled.inside.mono subset, filled.counts⟩

theorem fewer (filled : Filled descs memory after spans counted) (less : extra ≤ counted) :
    Filled descs memory after spans extra :=
  ⟨filled.wrote, filled.inside, Nat.le_trans less filled.counts⟩

theorem single {desc : VirtqDesc} (member : desc ∈ descs) {len : Nat}
    (short : len ≤ desc.len.toNat) (wrote : memory.Wrote after [spanAt desc.addr len]) :
    Filled descs memory after [spanAt desc.addr len] len where
  wrote := wrote
  inside := .single member short
  counts := by simp [spanAt]

end Filled
end Visor
