import Visor.Transport.UsedRingProperties

/-! The virtio entropy device fills the device-writable buffers of each chain from a host file,
which may end or fail. -/

namespace Visor.Rng
open Library VirtQueue

/-- A host file read from front to back; it fails where it has no byte. -/
structure EntropySource where
  byteAt : Nat → Option U8
  position : Nat

namespace EntropySource
def ready (source : EntropySource) : Nat → Nat
  | 0 => 0
  | count + 1 =>
    let before := source.ready count
    if before = count ∧ (source.byteAt (source.position + count)).isSome then count + 1
    else before

def readExact (source : EntropySource) (count : Nat) : EntropySource × Option (List U8) :=
  let found := source.ready count
  ({ source with position := source.position + found },
    if found = count then
      some ((List.range count).map fun index => (source.byteAt (source.position + index)).getD 0)
    else none)

end EntropySource

inductive RngError where
  | readEntropy
  | memory (error : MemoryError)
  | invalidDescriptor (text : String)

instance : DescriptorErrors RngError where
  memory := .memory
  invalidDescriptor := .invalidDescriptor

def maxBytesPerRequest : Nat := 65536
def queueMaxSize : U16 := 256

structure RngDevice where
  entropySource : EntropySource
  queue : VirtQueue
  activated : Bool

namespace RngDevice
def withSource (entropySource : EntropySource) : RngDevice where
  entropySource := entropySource
  queue := .new queueMaxSize
  activated := false

variable (device : RngDevice) (memory : GuestMemory)

def fillBuffer (desc : VirtqDesc) (total : U32) : RngDevice × GuestMemory × Except RngError U32 :=
  let len := min desc.len.toNat maxBytesPerRequest
  match device.entropySource.readExact len with
  | (source, none) => ({ device with entropySource := source }, memory, .error .readEntropy)
  | (source, some buf) =>
    match memory.tryWrite desc.addr buf with
    | (memory, .error error) => ({ device with entropySource := source }, memory, .error error)
    | (memory, .ok ()) =>
      ({ device with entropySource := source }, memory, .ok (total + BitVec.ofNat 32 len))

def fillFrom (queue : VirtQueue) : Nat → U16 → RngDevice → GuestMemory → U32 →
    RngDevice × GuestMemory × Except RngError U32
  | 0, idx, device, memory, _ =>
    match queue.readDesc memory idx with
    | .error error => (device, memory, .error error)
    | .ok _ => (device, memory, .error (.invalidDescriptor "descriptor chain cycle detected"))
  | allowed + 1, idx, device, memory, total =>
    match queue.readDesc memory idx with
    | .error error => (device, memory, .error error)
    | .ok desc =>
      let filled : RngDevice × GuestMemory × Except RngError U32 :=
        if desc.isWritable then device.fillBuffer memory desc total
        else (device, memory, .ok total)
      match filled with
      | (device, memory, .error error) => (device, memory, .error error)
      | (device, memory, .ok total) =>
        if desc.hasNext then fillFrom queue allowed desc.next device memory total
        else (device, memory, .ok total)

def fillChain (queue : VirtQueue) (headIdx : U16) : RngDevice × GuestMemory × Except RngError U32 :=
  fillFrom queue queue.size.toNat headIdx device memory 0

def service : QueueService RngDevice Unit Unit RngError where
  poll device := (device, some ())
  serve device memory queue _ headIdx :=
    match device.fillChain memory queue headIdx with
    | (device, memory, .error error) => (device, memory, .error error)
    | (device, memory, .ok written) => (device, memory, .ok (some (written, ())))
  settle device memory _ _ _ := (device, memory, .ok ())

def processQueue (device : RngDevice) (memory : GuestMemory) : RngDevice × GuestMemory × Bool :=
  let (progress, result) := service.processQueue device memory device.queue
  ({ progress.device with
    queue := { device.queue with
      lastAvailIdx := progress.queue.lastAvailIdx
      lastUsedIdx := progress.queue.lastUsedIdx } }, progress.memory, result.toOption.getD false)

end RngDevice

/-! A chain is filled if it has an end, its writable buffers lie in memory and the source has
enough bytes for them. The device writes into writable buffers only. -/

open List Option

def demand (desc : VirtqDesc) : Nat := min desc.len.toNat maxBytesPerRequest

namespace RngDevice
/-- Whether the buffers can be filled one after the other, and what the source is then. -/
def fills (memory : GuestMemory) : List VirtqDesc → EntropySource → EntropySource × Bool
  | [], source => (source, true)
  | desc :: rest, source =>
    if !desc.isWritable then fills memory rest source
    else
      match source.readExact (demand desc) with
      | (source, none) => (source, false)
      | (source, some _) =>
        if memory.InBounds desc.addr (demand desc) then fills memory rest source
        else (source, false)

def forecast : Forecast EntropySource Unit where
  poll source := (source, some ())
  entry memory queue _ headIdx source :=
    match queue.wholeChain memory headIdx with
    | none => (source, .fails)
    | some descs =>
      match fills memory descs source with
      | (source, true) => (source, .completes)
      | (source, false) => (source, .fails)

section
variable (device : RngDevice) (memory : GuestMemory) (desc : VirtqDesc) (total : U32)

inductive FilledBuffer : RngDevice × GuestMemory × Except RngError U32 → Prop where
  | dry {after : RngDevice}
    (empty : device.entropySource.readExact (demand desc) = (after.entropySource, none)) :
    FilledBuffer (after, memory, .error .readEntropy)
  | refused {after : RngDevice} {error : RngError} (buf : List U8)
    (read : device.entropySource.readExact (demand desc) = (after.entropySource, some buf))
    (outside : ¬ memory.InBounds desc.addr (demand desc)) : FilledBuffer (after, memory, .error error)
  | filled {after : RngDevice} {written : GuestMemory} (buf : List U8)
    (read : device.entropySource.readExact (demand desc) = (after.entropySource, some buf))
    (inside : memory.InBounds desc.addr (demand desc))
      (wrote : memory.Wrote written [spanAt desc.addr (demand desc)]) : FilledBuffer
      (after, written, .ok (total + BitVec.ofNat 32 (demand desc)))

end

theorem length_readExact {source after : EntropySource} {count : Nat} {buf : List U8}
    (read : source.readExact count = (after, some buf)) : buf.length = count := by
  unfold EntropySource.readExact at read
  dsimp only at read
  split at read
  · cases read
    simp
  · cases read

theorem fillBuffer_filled (device : RngDevice) (memory : GuestMemory) (desc : VirtqDesc)
    (total : U32) : FilledBuffer device memory desc total (device.fillBuffer memory desc total) := by
  have len : min desc.len.toNat maxBytesPerRequest = demand desc := rfl
  unfold fillBuffer
  dsimp only
  rw [len]
  cases read : device.entropySource.readExact (demand desc) with
  | mk source result =>
    cases result with
    | none =>
      refine .dry ?_
      exact read
    | some buf =>
      have size := length_readExact read
      dsimp only
      have outcome :
        memory.Written desc.addr buf (memory.tryWrite desc.addr buf : GuestMemory × Except RngError Unit) :=
        memory.tryWrite_written desc.addr buf
      generalize (memory.tryWrite desc.addr buf : GuestMemory × Except RngError Unit) = written at outcome ⊢
      cases outcome with
      | refused outside =>
        refine .refused buf ?_ (size ▸ outside)
        exact read
      | done inside wrote =>
        refine .filled buf ?_ (size ▸ inside) (size ▸ wrote)
        exact read

def writable (descs : List VirtqDesc) : List VirtqDesc := descs.filter VirtqDesc.isWritable

section
variable (before memory : GuestMemory) (met : List VirtqDesc) (whole : Option (List VirtqDesc))
  (source : EntropySource) (total : U32)

/-- How a chain is filled: the descriptors met, the whole of them if the chain has an
end, and the guest memory by which the forecast judges. -/
inductive FilledChain : RngDevice × GuestMemory × Except RngError U32 → Prop where
  | failed {after : RngDevice} {written : GuestMemory} {error : RngError} {spans : List Span}
    {counted : Nat} (filled : Filled (writable met) memory written spans counted)
    (breaks : ∀ descs, whole = some descs → (fills before descs source).2 = false) :
      FilledChain (after, written, .error error)
  | completed {after : RngDevice} {written : GuestMemory} {spans : List Span} {counted : Nat}
    {result : U32} {descs : List VirtqDesc}
    (filled : Filled (writable met) memory written spans counted) (ends : whole = some descs)
    (enough : fills before descs source = (after.entropySource, true))
    (counts : result = total + BitVec.ofNat 32 counted) : FilledChain (after, written, .ok result)

end

namespace FilledChain
variable {before memory between : GuestMemory} {met : List VirtqDesc}
  {whole : Option (List VirtqDesc)} {source later : EntropySource} {total : U32}
  {result : RngDevice × GuestMemory × Except RngError U32} {desc : VirtqDesc}

theorem writable_subset (desc : VirtqDesc) (met : List VirtqDesc) :
    writable met ⊆ writable (desc :: met) := by
  intro other member
  obtain ⟨inRest, isWritable⟩ := mem_filter.mp member
  exact mem_filter.mpr ⟨mem_cons_of_mem _ inRest, isWritable⟩

theorem skip (rest : FilledChain before memory met whole source total result)
    (readOnly : desc.isWritable = false) :
    FilledChain before memory (desc :: met) (whole.map (desc :: ·)) source total result := by
  cases rest with
  | failed filled breaks =>
    refine .failed (filled.mono (writable_subset desc met)) fun descs ends => ?_
    obtain ⟨tail, isWhole, rfl⟩ := map_eq_some_iff.mp ends
    simpa [fills, readOnly] using breaks tail isWhole
  | @completed _ _ _ _ _ descs filled ends enough counts =>
    refine .completed (filled.mono (writable_subset desc met))
      (map_eq_some_iff.mpr ⟨descs, ends, rfl⟩) ?_ counts
    simpa [fills, readOnly] using enough

theorem fill {buf : List U8} (isWritable : desc.isWritable = true)
    (read : source.readExact (demand desc) = (later, some buf))
    (inside : before.InBounds desc.addr (demand desc))
    (wrote : memory.Wrote between [spanAt desc.addr (demand desc)])
    (rest : FilledChain before between met whole later (total + BitVec.ofNat 32 (demand desc))
      result) : FilledChain before memory (desc :: met) (whole.map (desc :: ·)) source total result := by
  have member : desc ∈ writable (desc :: met) := mem_filter.mpr ⟨mem_cons_self, isWritable⟩
  have first : Filled (writable (desc :: met)) memory between _ (demand desc) :=
    Filled.single member (Nat.min_le_left _ _) wrote
  cases rest with
  | failed filled breaks =>
    refine .failed (first.append (filled.mono (writable_subset desc met))) fun descs ends => ?_
    obtain ⟨tail, isWhole, rfl⟩ := map_eq_some_iff.mp ends
    simpa [fills, isWritable, read, inside] using breaks tail isWhole
  | @completed _ _ _ counted _ descs filled ends enough counts =>
    refine .completed (first.append (filled.mono (writable_subset desc met)))
      (map_eq_some_iff.mpr ⟨descs, ends, rfl⟩) ?_ ?_
    · simpa [fills, isWritable, read, inside] using enough
    · rw [counts, BitVec.ofNat_add, BitVec.add_assoc]

theorem broken {after : RngDevice} {error : RngError}
    (breaks : ∀ rest, (fills before (desc :: rest) source).2 = false) :
    FilledChain before memory (desc :: met) (whole.map (desc :: ·)) source total
    (after, memory, .error error) := by
  refine .failed (.none _ _) fun descs ends => ?_
  obtain ⟨tail, _, rfl⟩ := map_eq_some_iff.mp ends
  exact breaks tail

end FilledChain

theorem fillFrom_filled {before memory : GuestMemory} {queue : VirtQueue}
    (same : SameTable queue before memory) (allowed : Nat) (idx : U16)
    (clear : ClearOfTable queue (queue.descsFrom before allowed idx)) (device : RngDevice)
    (total : U32) :
    FilledChain before memory (queue.descsFrom before allowed idx)
    (queue.wholeFrom before allowed idx) device.entropySource total
    (fillFrom queue allowed idx device memory total) := by
  induction allowed generalizing idx device memory total with
  | zero =>
    unfold fillFrom
    split <;> exact .failed (.none _ _) nofun
  | succ allowed ih =>
    unfold fillFrom
    refine (@readDesc_read RngError _ memory queue idx).casesOn (fun absent => ?_) @fun desc present => ?_
    · rw [same.descAt] at absent
      refine .failed (.none _ _) fun descs whole => ?_
      simp [wholeFrom, absent] at whole
    · rw [same.descAt] at present
      unfold descsFrom at clear ⊢
      unfold wholeFrom
      simp only [present] at clear ⊢
      have whole : (if desc.hasNext then
        (queue.wholeFrom before allowed desc.next).map (desc :: ·) else some [desc]) =
          (if desc.hasNext then queue.wholeFrom before allowed desc.next else some []).map
            (desc :: ·) := by split <;> rfl
      rw [whole]
      have tail : ∀ (device : RngDevice) (memory : GuestMemory) (total : U32),
        SameTable queue before memory → FilledChain before memory
        (if desc.hasNext then queue.descsFrom before allowed desc.next else [])
        (if desc.hasNext then queue.wholeFrom before allowed desc.next else some [])
        device.entropySource total
        (if desc.hasNext then fillFrom queue allowed desc.next device memory total
          else (device, memory, .ok total)) := by
        intro device memory total same
        split
        · next more =>
            rw [if_pos more] at clear
            exact ih same desc.next (clear.mono (subset_cons_self _ _)) device total
        · exact .completed (.none _ _) rfl rfl (by simp)
      by_cases isWritable : desc.isWritable = true
      · rw [if_pos isWritable]
        have outcome := device.fillBuffer_filled memory desc total
        generalize device.fillBuffer memory desc total = result at outcome ⊢
        cases outcome with
        | dry empty => exact .broken fun rest => by simp [fills, isWritable, empty]
        | refused buf read outside =>
          rw [same.inBounds] at outside
          exact .broken fun rest => by simp [fills, isWritable, read, outside]
        | @filled after written buf read inside wrote =>
          have kept : SameTable queue memory written := by
            refine clear.same wrote (InBuffers.single mem_cons_self ?_).forChain
            exact Nat.min_le_left _ _
          exact .fill isWritable read ((same.inBounds _ _).mp inside) wrote
            (tail after written _ (same.trans kept))
      · rw [if_neg isWritable]
        exact (tail device memory total same).skip (by simpa using isWritable)

private theorem writable_descsFrom_subset (memory : GuestMemory) (queue : VirtQueue) (headIdx : U16) :
    writable (queue.descsFrom memory queue.size.toNat headIdx) ⊆ queue.chain memory headIdx :=
  fun _ member => descsFrom_subset_chain memory queue headIdx (mem_filter.mp member).1

theorem foretells : Foretells forecast service RngDevice.entropySource where
  poll _ := rfl
  takes device before memory queue token headIdx same clear := by
    have filled := fillFrom_filled same queue.size.toNat headIdx
      (clear.mono (descsFrom_subset_chain before queue headIdx)) device 0
    have subset := writable_descsFrom_subset before queue headIdx
    simp only [service, fillChain, forecast, wholeChain]
    generalize fillFrom queue queue.size.toNat headIdx device memory 0 = result at filled ⊢
    cases filled with
    | failed filled breaks =>
      refine .failed filled.wrote (filled.inside.mono subset).forChain ?_
      cases whole : queue.wholeFrom before queue.size.toNat headIdx with
      | none => rfl
      | some descs =>
        have short := breaks descs whole
        dsimp only
        generalize fills before descs device.entropySource = judged at short ⊢
        obtain ⟨source, enough⟩ := judged
        obtain rfl : enough = false := short
        rfl
    | completed filled ends enough =>
      refine .completed filled.wrote (filled.inside.mono subset).forChain fun entered _ => ?_
      refine .completed (.refl entered) .nil ?_
      rw [ends]
      simp only [enough]

end RngDevice
end Visor.Rng
