import Visor.Transport.Permission
import Visor.Block.Device

/-! A request writes data into writable descriptors only, and its status byte into the last
descriptor of the chain. The second status write goes to the same place, whether or not the
descriptor is writable or has room for a byte. -/

namespace Visor.Block
open Library VirtQueue List BitVec GuestMemory BlockError Option
namespace BlockDevice
section
variable (descs : List VirtqDesc) (device : BlockDevice) (memory : GuestMemory)

theorem readInto_device (total : U32) : ∃ file, (readInto descs device memory total).device =
    { device with diskFile := file } := by
  induction descs generalizing device memory total with
  | nil => exact ⟨device.diskFile, rfl⟩
  | cons desc rest ih =>
    unfold readInto
    split
    · exact ⟨device.diskFile, rfl⟩
    · split
      · exact ⟨_, rfl⟩
      · split
        · exact ⟨_, rfl⟩
        · exact ih _ _ _

theorem writeFrom_device : ∃ file, (writeFrom descs device memory).device =
    { device with diskFile := file } := by
  induction descs generalizing device with
  | nil => exact ⟨device.diskFile, rfl⟩
  | cons desc rest ih =>
    unfold writeFrom
    split
    · exact ⟨device.diskFile, rfl⟩
    · split
      · exact ⟨device.diskFile, rfl⟩
      · split
        · exact ⟨_, rfl⟩
        · exact ih _

end

variable (device : BlockDevice) {memory : GuestMemory} (descs : List VirtqDesc)

theorem handleGetId_device (descs : List VirtqDesc) (memory : GuestMemory) (total : U32) :
    (device.handleGetId descs memory total).device = device := by
  induction descs generalizing memory total with
  | nil => rfl
  | cons desc rest ih =>
    unfold handleGetId
    split
    · rfl
    · dsimp only
      split
      · rfl
      · exact ih _ _

theorem perform_device (memory : GuestMemory) (requestType : RequestType)
    (dataDescs : List VirtqDesc) (sector : U64) :
    ∃ file, (device.perform memory requestType dataDescs sector).device =
    { device with diskFile := file } := by
  cases requestType with
  | read =>
    simp only [perform, handleRead]
    split
    · exact ⟨_, rfl⟩
    · exact readInto_device _ _ _ _
  | write =>
    simp only [perform, handleWrite]
    split
    · exact ⟨device.diskFile, rfl⟩
    · split
      · exact ⟨_, rfl⟩
      · exact writeFrom_device _ _ _
  | flush | unsupported => exact ⟨device.diskFile, rfl⟩
  | getId => exact ⟨device.diskFile, device.handleGetId_device _ _ _⟩

theorem length_readExact {file after : DiskFile} {count : Nat} {buf : List U8}
    (read : file.readExact count = (after, .ok buf)) : buf.length = count := by
  unfold DiskFile.readExact at read
  split at read
  · next zero =>
      cases read
      exact zero.symm
  · split at read
    · cases read
      simp
    · cases read

def Answers (descs : List VirtqDesc) (memory : GuestMemory) (total : U32) (handled : Handled) : Prop :=
  ∃ spans counted, Filled (descs.filter VirtqDesc.isWritable) memory handled.memory spans counted ∧
    handled.totalWritten = total + BitVec.ofNat 32 counted

theorem answers_none {descs : List VirtqDesc} {handled : Handled}
    (untouched : handled.memory = memory) : Answers descs memory handled.totalWritten handled :=
  ⟨[], 0, untouched ▸ .none _ _, by simp⟩

theorem answers_write {desc : VirtqDesc} {rest : List VirtqDesc} {memory between : GuestMemory}
    {total : U32} {handled : Handled} {len : Nat} (isWritable : desc.isWritable = true)
    (short : len ≤ desc.len.toNat) (wrote : memory.Wrote between [spanAt desc.addr len])
    (later : Answers rest between (total + BitVec.ofNat 32 len) handled) :
    Answers (desc :: rest) memory total handled := by
  obtain ⟨spans, counted, filled, counts⟩ := later
  have member : desc ∈ (desc :: rest).filter VirtqDesc.isWritable :=
    mem_filter.mpr ⟨mem_cons_self, isWritable⟩
  have subset : rest.filter VirtqDesc.isWritable ⊆ (desc :: rest).filter VirtqDesc.isWritable := by
    intro other inRest
    obtain ⟨inside, writable⟩ := mem_filter.mp inRest
    exact mem_filter.mpr ⟨mem_cons_of_mem _ inside, writable⟩
  refine ⟨_, _, (Filled.single member short wrote).append (filled.mono subset), ?_⟩
  rw [counts, ofNat_add, BitVec.add_assoc]

theorem readInto_answers (device : BlockDevice) (memory : GuestMemory) (total : U32) :
    Answers descs memory total (readInto descs device memory total) := by
  induction descs generalizing device memory total with
  | nil => exact answers_none rfl
  | cons desc rest ih =>
    unfold readInto
    by_cases isWritable : desc.isWritable = true
    · simp only [isWritable, Bool.not_true, Bool.false_eq_true, ↓reduceIte]
      cases read : device.diskFile.readExact desc.len.toNat with
      | mk file result =>
        cases result with
        | error => exact answers_none rfl
        | ok buf =>
          have size := length_readExact read
          dsimp only
          refine (@tryWrite_written BlockError _ memory desc.addr buf).casesOn (fun _ => ?_)
            @fun between inside wrote _ => ?_
          · exact answers_none rfl
          · rw [size] at wrote
            refine answers_write isWritable (Nat.le_refl _) wrote ?_
            rw [ofNat_toNat, setWidth_eq]
            exact ih _ between _
    · simp only [isWritable, Bool.not_false, ↓reduceIte]
      exact answers_none rfl

theorem handleGetId_answers (memory : GuestMemory) (total : U32) :
    Answers descs memory total (device.handleGetId descs memory total) := by
  induction descs generalizing memory total with
  | nil => exact answers_none rfl
  | cons desc rest ih =>
    unfold handleGetId
    by_cases isWritable : desc.isWritable = true
    · simp only [isWritable, Bool.not_true, Bool.false_eq_true, ↓reduceIte]
      have size : (device.deviceId.val.take (min desc.len.toNat deviceIdLen)).length =
        min desc.len.toNat deviceIdLen := by
        rw [length_take, device.deviceId.property]
        omega
      refine (@tryWrite_written BlockError _ memory desc.addr
        (device.deviceId.val.take (min desc.len.toNat deviceIdLen))).casesOn
        (fun _ => ?_) @fun between inside wrote _ => ?_
      · exact answers_none rfl
      · rw [size] at wrote
        exact answers_write isWritable (Nat.min_le_left _ _) wrote (ih between _)
    · simp only [isWritable, Bool.not_false, ↓reduceIte]
      exact answers_none rfl

private theorem writeFrom_untouched (device : BlockDevice) (memory : GuestMemory) :
    (writeFrom descs device memory).memory = memory ∧ (writeFrom descs device memory).totalWritten = 0 := by
  induction descs generalizing device with
  | nil => exact ⟨rfl, rfl⟩
  | cons desc rest ih =>
    unfold writeFrom
    split
    · exact ⟨rfl, rfl⟩
    · split
      · exact ⟨rfl, rfl⟩
      · split
        · exact ⟨rfl, rfl⟩
        · exact ih _

theorem perform_answers (memory : GuestMemory) (requestType : RequestType)
    (dataDescs : List VirtqDesc) (sector : U64) :
    Answers dataDescs memory 0 (device.perform memory requestType dataDescs sector) := by
  cases requestType with
  | read =>
    simp only [perform, handleRead]
    split
    · exact answers_none rfl
    · exact readInto_answers dataDescs _ memory 0
  | write =>
    simp only [perform, handleWrite]
    split
    · exact answers_none rfl
    · split
      · exact answers_none rfl
      · next file _ =>
          obtain ⟨untouched, zero⟩ := writeFrom_untouched dataDescs { device with diskFile := file } memory
          have none : Answers dataDescs memory _ _ := answers_none untouched
          rwa [zero] at none
  | flush | unsupported => exact answers_none rfl
  | getId => exact handleGetId_answers device dataDescs memory 0

/-- The chain of a request: a header, the data and, last, a writable status descriptor. -/
structure HasChain (memory : GuestMemory) (queue : VirtQueue) (headIdx : U16)
    (request : Request) : Prop where
  whole : ∃ headerDesc, queue.descAt memory headIdx = some headerDesc ∧
    headerDesc.hasNext = true ∧ queue.wholeFrom memory queue.size.toNat headerDesc.next =
      some (request.dataDescs ++ [request.statusDesc])
  status : request.statusDesc.isWritable = true

theorem readRequest_hasChain {queue : VirtQueue} {headIdx : U16} {request : Request}
    (read : readRequest memory queue headIdx = .ok request) : HasChain memory queue headIdx request := by
  unfold readRequest at read
  simp only [bind, Except.bind, pure, Except.pure, throw, throwThe, MonadExceptOf.throw] at read
  have header :
    ReadDesc memory queue headIdx (queue.readDesc memory headIdx : Except BlockError VirtqDesc) :=
    readDesc_read memory queue headIdx
  generalize (queue.readDesc memory headIdx : Except BlockError VirtqDesc) = outcome at header read
  cases header with
  | missing => cases read
  | @found headerDesc present =>
    dsimp only at read
    split at read
    · cases read
    split at read
    · cases read
    split at read
    · cases read
    next hasNext =>
      split at read
      · cases read
      have walked := walk_walked
        (invalidDescriptor "descriptor chain cycle detected") memory queue
        queue.size.toNat headerDesc.next
      generalize queue.walk (invalidDescriptor "descriptor chain cycle detected")
        memory queue.size.toNat headerDesc.next = outcome at walked read
      cases walked with
      | broken => cases read
      | @whole rest isWhole =>
        dsimp only at read
        split at read
        · next statusDesc last =>
            split at read
            · cases read
            · next isWritable =>
                cases read
                refine ⟨⟨headerDesc, present, by simpa using hasNext, ?_⟩, by simpa using isWritable⟩
                obtain ⟨data, rfl⟩ := getLast?_eq_some_iff.mp last
                simpa using isWhole
        · cases read

namespace HasChain
variable {memory : GuestMemory} {queue : VirtQueue} {headIdx : U16} {request : Request}

theorem data_subset (has : HasChain memory queue headIdx request) :
    request.dataDescs ⊆ queue.chain memory headIdx := by
  obtain ⟨headerDesc, present, more, whole⟩ := has.whole
  have rest := descsFrom_of_wholeFrom whole (Nat.le_refl _)
  intro desc member
  simp only [chain, descsFrom, present, more, rest, ↓reduceIte]
  simp [member]

theorem status_mem (has : HasChain memory queue headIdx request) :
    request.statusDesc ∈ queue.chain memory headIdx := by
  obtain ⟨headerDesc, present, more, whole⟩ := has.whole
  have rest := descsFrom_of_wholeFrom whole (Nat.le_refl _)
  simp only [chain, descsFrom, present, more, rest, ↓reduceIte]
  simp

end HasChain

/-- How a request ends. One that fails counts nothing. -/
inductive Processed (memory : GuestMemory) (queue : VirtQueue) (headIdx : U16) :
    BlockDevice × GuestMemory × U8 × U32 → Prop where
  | failed {device : BlockDevice} {after : GuestMemory} {spans : List Span}
    (filled : Filled ((queue.chain memory headIdx).filter VirtqDesc.isWritable) memory after spans 0) :
    Processed memory queue headIdx (device, after, statusIoErr, 0)
  | answered {device : BlockDevice} {between after : GuestMemory} {status : U8} {written : U32}
    {spans : List Span} {counted : Nat}
    {request : Request}
      (filled : Filled ((queue.chain memory headIdx).filter VirtqDesc.isWritable) memory between
      spans counted)
    (has : HasChain memory queue headIdx request) (inside : memory.InBounds request.statusDesc.addr 1)
    (wrote : between.Wrote after [spanAt request.statusDesc.addr 1])
      (counts : written.toNat ≤ counted + 1) :
    Processed memory queue headIdx (device, after, status, written)

theorem processOneRequest_processed (memory : GuestMemory) (queue : VirtQueue) (headIdx : U16) :
    Processed memory queue headIdx (device.processOneRequest memory queue headIdx) := by
  unfold processOneRequest processOneRequestInner
  cases read : readRequest memory queue headIdx with
  | error => exact .failed (.none _ _)
  | ok request =>
    have has := readRequest_hasChain read
    obtain ⟨spans, counted, filled, total⟩ :=
      device.perform_answers memory request.requestType request.dataDescs request.sector
    have subset : request.dataDescs.filter VirtqDesc.isWritable ⊆
      (queue.chain memory headIdx).filter VirtqDesc.isWritable := by
      intro desc member
      obtain ⟨inside, writable⟩ := mem_filter.mp member
      exact mem_filter.mpr ⟨has.data_subset inside, writable⟩
    dsimp only
    generalize device.perform memory request.requestType request.dataDescs request.sector =
      handled at filled total ⊢
    obtain ⟨after, between, totalWritten, result⟩ := handled
    dsimp only at filled total ⊢
    cases result with
    | error => exact .failed ((filled.mono subset).fewer (Nat.zero_le _))
    | ok status =>
      dsimp only
      refine (@tryWrite_written BlockError _ between request.statusDesc.addr [status]).casesOn
        (fun _ => ?_) @fun _ inside wrote _ => ?_
      · exact .failed ((filled.mono subset).fewer (Nat.zero_le _))
      · rw [filled.wrote.inBounds_iff] at inside
        refine .answered (filled.mono subset) has inside wrote ?_
        have shown := toNat_counter_le counted
        rw [← total] at shown
        have bump : (totalWritten + 1).toNat ≤ totalWritten.toNat + 1 := by
          rw [toNat_add]
          exact Nat.mod_le _ _
        omega

def statusDescOf (memory : GuestMemory) (queue : VirtQueue) (headIdx : U16) : Option VirtqDesc :=
  (queue.wholeChain memory headIdx).bind getLast?

theorem statusDescOf_mem {queue : VirtQueue} {headIdx : U16} {desc : VirtqDesc}
    (found : statusDescOf memory queue headIdx = some desc) : desc ∈ queue.chain memory headIdx := by
  obtain ⟨descs, whole, last⟩ := bind_eq_some_iff.mp found
  rw [chain_of_wholeChain whole]
  exact mem_of_getLast? last

inductive StatusWritten (memory : GuestMemory) (status : Option VirtqDesc) :
    GuestMemory × Except BlockError Unit → Prop where
  | failed {error : BlockError} (nowhere : ∀ desc, status = some desc → ¬ memory.InBounds desc.addr 1) :
    StatusWritten memory status (memory, .error error)
  | written {after : GuestMemory} {desc : VirtqDesc} (found : status = some desc)
    (inside : memory.InBounds desc.addr 1) (wrote : memory.Wrote after [spanAt desc.addr 1]) :
      StatusWritten memory status (after, .ok ())

theorem writeStatusForChain_written (memory : GuestMemory) (queue : VirtQueue) (headIdx : U16)
    (status : U8) :
    StatusWritten memory (statusDescOf memory queue headIdx)
    (writeStatusForChain memory queue headIdx status) := by
  unfold writeStatusForChain statusDescOf wholeChain
  refine (walk_walked (invalidDescriptor "descriptor chain cycle in status write")
    memory queue queue.size.toNat headIdx).casesOn (fun absent => ?_)
    @fun descs present => ?_
  · rw [absent]
    exact .failed nofun
  · rw [present, bind_some]
    have nonempty := wholeFrom_ne_nil present
    dsimp only
    cases last : descs.getLast? with
    | none => exact absurd (getLast?_eq_none_iff.mp last) nonempty
    | some desc =>
      dsimp only
      refine (@tryWrite_written BlockError _ memory desc.addr [status]).casesOn (fun outside => ?_)
        @fun _ inside wrote _ => ?_
      · refine .failed fun other found => ?_
        cases found
        exact outside
      · exact .written rfl inside wrote

/-- A request is answered whatever it holds, and then its status must find a place. -/
def forecast : Forecast Unit Unit where
  poll _ := ((), some ())
  entry memory queue _ headIdx _ :=
    ((), if (statusDescOf memory queue headIdx).any fun desc => decide (memory.InBounds desc.addr 1)
      then .completes else .failsLate)

theorem statusDescOf_eq {before memory : GuestMemory} (queue current : VirtQueue)
    (size : current.size = queue.size)
    (same : ∀ idx, current.descAt memory idx = queue.descAt before idx) (headIdx : U16) :
    statusDescOf memory current headIdx = statusDescOf before queue headIdx := by
  unfold statusDescOf wholeChain
  rw [size, wholeFrom_congr same]

theorem statusByte_within (desc : VirtqDesc) : (spanAt desc.addr 1).Within desc.area := by
  unfold Span.Within VirtqDesc.area spanAt
  dsimp only
  omega

theorem processOneRequest_forChain (memory : GuestMemory) (queue : VirtQueue) (headIdx : U16) :
    ∃ spans, memory.Wrote (device.processOneRequest memory queue headIdx).2.1 spans ∧
    ForChain (queue.chain memory headIdx) spans := by
  have processed := device.processOneRequest_processed memory queue headIdx
  generalize device.processOneRequest memory queue headIdx = result at processed ⊢
  cases processed with
  | failed filled => exact ⟨_, filled.wrote, filled.inside.ofWritable.forChain⟩
  | @answered _ _ _ _ _ _ _ request filled has _ wrote _ =>
    refine ⟨_, filled.wrote.trans wrote, filled.inside.ofWritable.forChain.append ?_⟩
    intro span only
    rw [mem_singleton.mp only]
    exact ⟨request.statusDesc, has.status_mem, statusByte_within _⟩

theorem foretells : Foretells forecast service (fun _ => ()) where
  poll _ := rfl
  takes device before memory queue token headIdx same clear := by
    obtain ⟨spans, wrote, confined⟩ := device.processOneRequest_forChain memory queue headIdx
    rw [same.chain_eq] at confined
    simp only [service]
    refine .completed wrote confined fun entered table => ?_
    have kept := same.trans table
    have later : ∀ idx, queue.advance.descAt entered idx = queue.descAt before idx := kept.descAt
    have found : statusDescOf entered queue.advance headIdx = statusDescOf before queue headIdx :=
      statusDescOf_eq queue queue.advance rfl later headIdx
    have written := writeStatusForChain_written entered queue.advance headIdx
      (device.processOneRequest memory queue headIdx).2.2.1
    dsimp only
    generalize writeStatusForChain entered queue.advance headIdx
      (device.processOneRequest memory queue headIdx).2.2.1 = result at written ⊢
    rw [found] at written
    cases written with
    | failed nowhere =>
      refine .failed (.refl entered) .nil ?_
      simp only [forecast]
      rw [if_neg]
      intro somewhere
      obtain ⟨desc, is, inside⟩ := (any_eq_true _ _).mp somewhere
      exact nowhere desc is ((kept.inBounds _ _).mpr (by simpa using inside))
    | @written after desc is inside wrote =>
      refine .completed wrote ?_ ?_
      · intro span only
        rw [mem_singleton.mp only]
        exact ⟨desc, statusDescOf_mem is, statusByte_within desc⟩
      · rw [kept.inBounds] at inside
        simp [forecast, is, inside]

end BlockDevice

/-! The data of a request goes into writable descriptors. Its status byte goes to the last
descriptor of the chain, first if that is writable and then in any case. -/

namespace BlockDevice
variable {memory : GuestMemory} {queue : VirtQueue} {headIdx : U16}

/-- The last descriptor of the chain is writable and not empty, if there is memory for its
first byte. -/
def StatusPermitted (memory : GuestMemory) (queue : VirtQueue) (headIdx : U16) : Prop :=
  ∀ desc ∈ statusDescOf memory queue headIdx, memory.InBounds desc.addr 1 →
    desc.isWritable = true ∧ 0 < desc.len.toNat

def statusSpans (memory : GuestMemory) (queue : VirtQueue) (headIdx : U16) : List Span :=
  match statusDescOf memory queue headIdx with
  | none => []
  | some desc => if memory.InBounds desc.addr 1 then [spanAt desc.addr 1] else []

theorem writeStatusForChain_wrote (entered : GuestMemory) (same : SameTable queue memory entered)
    (status : U8) :
    entered.Wrote (writeStatusForChain entered queue.advance headIdx status).1
    (statusSpans memory queue headIdx) := by
  have later : ∀ idx, queue.advance.descAt entered idx = queue.descAt memory idx := same.descAt
  have found : statusDescOf entered queue.advance headIdx = statusDescOf memory queue headIdx :=
    statusDescOf_eq queue queue.advance rfl later headIdx
  have written := writeStatusForChain_written entered queue.advance headIdx status
  generalize writeStatusForChain entered queue.advance headIdx status = result at written ⊢
  rw [found] at written
  unfold statusSpans
  cases written with
  | failed nowhere =>
    cases place : statusDescOf memory queue headIdx with
    | none => exact .refl entered
    | some desc =>
      dsimp only
      rw [if_neg]
      · exact .refl entered
      · rw [← same.inBounds]
        exact nowhere desc place
  | written place inside =>
    rw [place]
    dsimp only
    rwa [if_pos ((same.inBounds _ _).mp inside)]

private theorem HasChain.statusDescOf {request : Request} (has : HasChain memory queue headIdx request) :
    statusDescOf memory queue headIdx = some request.statusDesc := by
  obtain ⟨headerDesc, present, more, rest⟩ := has.whole
  have whole : queue.wholeChain memory headIdx =
    some (headerDesc :: (request.dataDescs ++ [request.statusDesc])) :=
    wholeChain_eq_some_iff.mpr (.more present more (ends_of_wholeFrom rest))
  rw [BlockDevice.statusDescOf, whole, bind_some, ← List.cons_append]
  exact List.getLast?_concat

private theorem processOneRequest_filled (permitted : StatusPermitted memory queue headIdx)
    (device : BlockDevice) :
    ∃ spans, Filled ((queue.chain memory headIdx).filter VirtqDesc.isWritable) memory
    (device.processOneRequest memory queue headIdx).2.1 spans
    (device.processOneRequest memory queue headIdx).2.2.2.toNat := by
  have processed := device.processOneRequest_processed memory queue headIdx
  generalize device.processOneRequest memory queue headIdx = result at processed ⊢
  cases processed with
  | failed filled => exact ⟨_, filled⟩
  | @answered _ between after _ _ _ _ request filled has inside wrote counts =>
    obtain ⟨isWritable, nonempty⟩ := permitted request.statusDesc has.statusDescOf inside
    have member : request.statusDesc ∈ (queue.chain memory headIdx).filter VirtqDesc.isWritable :=
      List.mem_filter.mpr ⟨has.status_mem, isWritable⟩
    exact ⟨_, (filled.append (.single member nonempty wrote)).fewer counts⟩

theorem respects_iff (tidy : Tidy memory queue headIdx) (device : BlockDevice) :
    service.Respects device memory queue () headIdx ↔ StatusPermitted memory queue headIdx := by
  obtain ⟨spans, wrote, confined⟩ := device.processOneRequest_forChain memory queue headIdx
  rw [QueueService.respects_iff_of_completed tidy rfl wrote confined fun entered same =>
    writeStatusForChain_wrote entered same _]
  constructor
  · rintro ⟨permitted, _, _⟩ desc place inside
    have place : statusDescOf memory queue headIdx = some desc := place
    refine tidy.writable_of_permitted (statusDescOf_mem place) (statusByte_within desc) Nat.one_pos
      ?_ permitted
    simp [statusSpans, place, inside]
  · intro permitted
    obtain ⟨exact, filled⟩ := device.processOneRequest_filled permitted
    have same : exact = spans := by rw [← filled.wrote.writesSince, wrote.writesSince]
    subst same
    refine ⟨?_, filled.inside.permitted, ?_⟩
    · unfold statusSpans
      split
      · exact permitted_nil
      · next desc place =>
          split
          · next inside =>
              obtain ⟨isWritable, nonempty⟩ := permitted desc place inside
              have member : desc ∈ (queue.chain memory headIdx).filter VirtqDesc.isWritable :=
                List.mem_filter.mpr ⟨statusDescOf_mem place, isWritable⟩
              exact (InBuffers.single member nonempty).permitted
          · exact permitted_nil
    · rw [filled.inside.intoWritable_eq]
      exact filled.counts

end BlockDevice
end Visor.Block
