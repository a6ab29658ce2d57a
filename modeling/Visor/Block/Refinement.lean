import Visor.Block.Confinement

/-! Well-formed requests are carried out on the backing file as on an array of bytes. The file
cursor runs through the data descriptors of a request without a gap, so only the bytes they hold
together matter. -/

namespace Visor
open Library GuestMemory Cells VirtqDesc Nat Span

/-! What the device is for: reads and writes of an array of bytes, whatever the descriptors by
which a driver lays its requests out and however it batches them. The requests are those
that a careful driver places: what the device writes for a request is apart from the rings,
from the descriptor table and from each other. -/

def gather (memory : GuestMemory) (descs : List VirtqDesc) : List U8 :=
  descs.flatMap fun desc => (memory.readBytes desc.addr desc.len.toNat).toOption.getD []

def VirtQueue.usedLen (memory : GuestMemory) (queue : VirtQueue) : Option U32 :=
  (memory.readBytes (queue.usedEntryAddr + 4) 4).toOption.map fun bytes =>
    BitVec.ofNat 32 (leField bytes 0 4)

namespace Block
inductive Operation where
  | read (offset length : Nat)
  | write (offset : Nat) (data : List U8)

namespace Operation
def apply (contents : Cells U8) : Operation → Cells U8
  | .read _ _ => contents
  | .write offset data => contents.write offset data

def output (contents : Cells U8) : Operation → List U8
  | .read offset length => contents.read offset length
  | .write _ _ => []

def reported : Operation → Nat
  | .read _ length => length + 1
  | .write _ _ => 1

end Operation

/-- A read or write request as a driver lays it out in a chain. -/
structure Order where
  isWrite : Bool
  sector : U64
  header : VirtqDesc
  data : List VirtqDesc
  status : VirtqDesc
deriving DecidableEq

namespace Order
variable (memory : GuestMemory) (order : Order)

/-- The request in the chain at a head: a header, data, and a status descriptor. -/
def ofChain : List VirtqDesc → Option Order
  | header :: second :: rest =>
    match memory.readBytes header.addr 16 with
    | .error _ => none
    | .ok bytes =>
      if leField bytes 0 4 = 0 ∨ leField bytes 0 4 = 1 then
        some {
          isWrite := leField bytes 0 4 = 1
          sector := BitVec.ofNat 64 (leField bytes 8 8)
          header := header
          data := (second :: rest).dropLast
          status := (second :: rest).getLast (List.cons_ne_nil _ _) }
      else none
  | _ => none

def offset : Nat := order.sector.toNat * sectorSize

def operation : Operation :=
  if order.isWrite then .write order.offset (gather memory order.data)
  else .read order.offset (BlockDevice.dataLength order.data)

def regions : List Span :=
  (if order.isWrite then [] else order.data.map buffer) ++ [spanAt order.status.addr 1]

/-- A request within the capacity, in guest memory, that may be carried out. -/
structure WellFormed (order : Order) (device : BlockDevice) (memory : GuestMemory)
    (queue : VirtQueue) : Prop where
  headerReadable : order.header.isWritable = false
  headerLen : 16 ≤ order.header.len.toNat
  direction : ∀ desc ∈ order.data, desc.isWritable = !order.isWrite
  dataInMemory : ∀ desc ∈ order.data, memory.InBounds desc.addr desc.len.toNat
  statusWritable : order.status.isWritable = true
  statusInMemory : memory.InBounds order.status.addr 1
  inCapacity : order.offset + BlockDevice.dataLength order.data ≤ device.capacity
  mayWrite : order.isWrite = true → device.readOnly = false
  countable : BlockDevice.dataLength order.data + 1 < 2 ^ 32
  entryInMemory : queue.CanEnter memory
  usedFits : queue.usedRingAddr.toNat + (4 + 8 * queue.size.toNat) ≤ 2 ^ 64
  tableFits : queue.descTableAddr.toNat + 16 * queue.size.toNat ≤ 2 ^ 64
  usedTable : queue.usedRing.Apart queue.descTable
  regionsUsed : ∀ region ∈ order.regions, region.Apart queue.usedRing
  regionsTable : ∀ region ∈ order.regions, region.Apart queue.descTable
  regionsApart : order.regions.Pairwise Apart

end Order

namespace BlockDevice
def Call.order? (call : Call) : Option Order :=
  (call.queue.wholeChain call.memory call.headIdx).bind (Order.ofChain call.memory)

def Call.WellFormed (device : BlockDevice) (call : Call) : Prop :=
  ∃ order, call.order? = some order ∧ order.WellFormed device call.memory call.queue

def operations (calls : List Call) : List Operation :=
  calls.filterMap fun call => call.order?.map (Order.operation call.memory)

/-- What a driver finds when the device has dealt with its request: the entry is completed,
the data of a read is that of the array, the status is OK, and the used entry names the chain
and the bytes written for it. -/
structure Fulfilled (contents : Cells U8) (call : Call) (order : Order)
    (outcome : Progress BlockDevice × Except BlockError (Option Unit)) : Prop where
  completed : outcome.2 = .ok (some ())
  advanced : outcome.1.queue = call.queue.advance
  data : order.isWrite = false → gather outcome.1.memory order.data =
    (order.operation call.memory).output contents
  status : outcome.1.memory.readBytes order.status.addr 1 = .ok [statusOk]
  usedHead : call.queue.usedHead outcome.1.memory = some (call.headIdx.setWidth 32)
  usedLen : (call.queue.usedLen outcome.1.memory).map BitVec.toNat =
    some (order.operation call.memory).reported

def notify (device : BlockDevice) (pass : GuestMemory × VirtQueue) : BlockDevice :=
  (service.processQueue device pass.1 pass.2).1.device

/-- The requests that a sequence of notifications brings, in the order they are served. -/
def history (device : BlockDevice) : List (GuestMemory × VirtQueue) → List Call
  | [] => []
  | pass :: rest => device.callsOf pass.1 pass.2 ++ (device.notify pass).history rest

end BlockDevice
end Block

open VirtQueue List

theorem gather_cons (memory : GuestMemory) (desc : VirtqDesc) (rest : List VirtqDesc) :
    gather memory (desc :: rest) = (memory.readBytes desc.addr desc.len.toNat).toOption.getD [] ++
    gather memory rest := rfl

theorem gather_eq_of_wrote {memory after : GuestMemory} {descs : List VirtqDesc} {spans : List Span}
    (wrote : memory.Wrote after spans)
    (apart : ∀ desc ∈ descs, ∀ span ∈ spans, span.Apart desc.buffer) :
    gather after descs = gather memory descs := by
  apply flatMap_congr
  intro desc member
  rw [wrote.readBytes_eq (apart desc member)]

namespace Block.BlockDevice
variable (descs : List VirtqDesc) (device : BlockDevice) {memory : GuestMemory} {queue : VirtQueue}
  {headIdx : U16} {order : Order}

theorem readInto_fills (memory : GuestMemory) (total : U32)
    (writable : ∀ desc ∈ descs, desc.isWritable = true)
    (inMemory : ∀ desc ∈ descs, memory.InBounds desc.addr desc.len.toNat)
    (apart : (descs.map buffer).Pairwise Apart)
    (inFile : device.diskFile.position + dataLength descs ≤ device.diskFile.length) :
    ∃ file after, readInto descs device memory total =
    ⟨{ device with diskFile := file }, after, total + BitVec.ofNat 32 (dataLength descs), .ok statusOk⟩ ∧
    device.diskFile.SameContents file ∧
    memory.Wrote after (descs.map buffer).reverse ∧
    gather after descs = device.diskFile.bytes.read device.diskFile.position (dataLength descs) := by
  induction descs generalizing device memory total with
  | nil => exact ⟨device.diskFile, memory, by simp [readInto, dataLength], ⟨rfl, rfl⟩, .refl memory, rfl⟩
  | cons desc rest ih =>
    have here := inMemory desc mem_cons_self
    have isWritable := writable desc mem_cons_self
    rw [dataLength_cons] at inFile
    rw [map_cons, pairwise_cons] at apart
    obtain ⟨file, read, contents, position⟩ : ∃ file, device.diskFile.readExact desc.len.toNat =
      (file, .ok (device.diskFile.bytes.read device.diskFile.position desc.len.toNat)) ∧
        device.diskFile.SameContents file ∧
        file.position = device.diskFile.position + desc.len.toNat := by
      unfold DiskFile.readExact
      by_cases zero : desc.len.toNat = 0
      · rw [if_pos zero, zero]
        exact ⟨_, rfl, ⟨rfl, rfl⟩, rfl⟩
      · rw [if_neg zero, if_pos (by omega)]
        exact ⟨_, rfl, ⟨rfl, rfl⟩, rfl⟩
    obtain ⟨between, written, wrote, reads⟩ :=
      (@tryWrite_written BlockError _ memory desc.addr
        (device.diskFile.bytes.read device.diskFile.position desc.len.toNat)).ok
        (by rwa [length_read])
    rw [length_read] at wrote reads
    unfold readInto
    rw [read]
    simp only [isWritable, Bool.not_true, Bool.false_eq_true, ↓reduceIte, written]
    obtain ⟨last, after, filled, lastContents, lastWrote, gathered⟩ :=
      ih { device with diskFile := file } between (total + desc.len)
        (fun other member => writable other (mem_cons_of_mem _ member))
        (fun other member => (wrote.inBounds_iff _ _).mpr (inMemory other (mem_cons_of_mem _ member)))
        apart.2
        (by
          rw [position, contents.2]
          omega)
    refine ⟨last, after, ?_, contents.trans lastContents, ?_, ?_⟩
    · rw [filled, dataLength_cons, BitVec.ofNat_add, BitVec.ofNat_toNat, BitVec.setWidth_eq,
        BitVec.add_assoc]
    · rw [map_cons, reverse_cons]
      exact wrote.trans lastWrote
    · have kept : after.readBytes desc.addr desc.len.toNat =
        .ok (device.diskFile.bytes.read device.diskFile.position desc.len.toNat) := by
        rw [lastWrote.readBytes_eq, reads]
        intro span member
        exact (apart.1 span (mem_reverse.mp member)).symm
      rw [gather_cons, kept, gathered, position, contents.1, dataLength_cons, read_append]
      rfl

theorem writeFrom_stores (memory : GuestMemory) (readable : ∀ desc ∈ descs, desc.isWritable = false)
    (inMemory : ∀ desc ∈ descs, memory.InBounds desc.addr desc.len.toNat)
    (inFile : device.diskFile.position + dataLength descs ≤ device.diskFile.length)
    (isFile : device.diskFile.length < maxFileOffset) : ∃ file, writeFrom descs device memory =
    ⟨{ device with diskFile := file }, memory, 0, .ok statusOk⟩ ∧
    file.bytes = device.diskFile.bytes.write device.diskFile.position (gather memory descs) ∧
    file.length = device.diskFile.length := by
  induction descs generalizing device with
  | nil => exact ⟨device.diskFile, rfl, (write_nil _ _).symm, rfl⟩
  | cons desc rest ih =>
    have here := inMemory desc mem_cons_self
    have isReadable := readable desc mem_cons_self
    rw [dataLength_cons] at inFile
    have read := readBytes_eq_ok_iff.mpr ⟨here, rfl⟩
    have size := length_read memory.bytes (memory.offsetOf desc.addr) desc.len.toNat
    rw [gather_cons, read]
    generalize memory.bytes.read (memory.offsetOf desc.addr) desc.len.toNat = buf at read size ⊢
    have present : (memory.tryRead desc.addr desc.len.toNat : Except BlockError (List U8)) = .ok buf := by
      unfold tryRead
      rw [read]
    obtain ⟨file, wrote, bytes, length, position⟩ : ∃ file, device.diskFile.writeAll buf = (file, .ok ()) ∧
      file.bytes = device.diskFile.bytes.write device.diskFile.position buf ∧
      file.length = device.diskFile.length ∧
      file.position = device.diskFile.position + desc.len.toNat := by
      unfold DiskFile.writeAll
      by_cases empty : buf.isEmpty = true
      · have none := isEmpty_iff.mp empty
        subst none
        rw [if_pos empty, write_nil, ← size]
        exact ⟨_, rfl, rfl, rfl, rfl⟩
      · have noGap : device.diskFile.padded = device.diskFile.bytes := by
          funext offset
          unfold DiskFile.padded
          rw [if_neg (by omega)]
        rw [if_neg empty, if_neg (by omega), noGap]
        refine ⟨_, rfl, rfl, ?_, ?_⟩
        · dsimp only
          omega
        · rw [size]
    obtain ⟨last, stored, lastBytes, lastLength⟩ := ih { device with diskFile := file }
      (fun other member => readable other (mem_cons_of_mem _ member))
      (fun other member => inMemory other (mem_cons_of_mem _ member))
      (by
        rw [position, length]
        omega)
      (by
        rw [length]
        exact isFile)
    refine ⟨last, ?_, ?_, lastLength.trans length⟩
    · unfold writeFrom
      rw [present]
      simp only [isReadable, Bool.false_eq_true, ↓reduceIte, wrote]
      exact stored
    · rw [lastBytes, bytes, position, ← size, write_write_append]
      rfl

structure Holds (memory : GuestMemory) (queue : VirtQueue) (headIdx : U16) (order : Order) : Prop where
  header : queue.descAt memory headIdx = some order.header
  goesOn : order.header.hasNext = true
  rest : queue.Ends memory order.header.next (order.data ++ [order.status])
  bytes : ∃ bytes, memory.readBytes order.header.addr 16 = .ok bytes ∧
    RequestType.ofU32 (BitVec.ofNat 32 (leField bytes 0 4)) = (if order.isWrite then .write else .read) ∧
    BitVec.ofNat 64 (leField bytes 8 8) = order.sector

theorem holds_of_order {call : Call} (placed : call.order? = some order) :
    Holds call.memory call.queue call.headIdx order := by
  obtain ⟨descs, whole, isOrder⟩ := Option.bind_eq_some_iff.mp placed
  have chain := wholeChain_eq_some_iff.mp whole
  unfold Order.ofChain at isOrder
  split at isOrder
  · next header second rest =>
      cases read : call.memory.readBytes header.addr 16 with
      | error =>
        rw [read] at isOrder
        cases isOrder
      | ok bytes =>
        rw [read] at isOrder
        dsimp only at isOrder
        split at isOrder
        · next code =>
            cases isOrder
            cases chain with
            | more present goesOn tail =>
              refine ⟨present, goesOn, ?_, bytes, read, ?_, rfl⟩
              · rw [dropLast_append_getLast]
                exact tail
              · rcases code with isRead | isWrite
                · rw [isRead]
                  rfl
                · rw [isWrite]
                  rfl
        · cases isOrder
  · cases isOrder

theorem readRequest_eq (holds : Holds memory queue headIdx order)
    (headerReadable : order.header.isWritable = false)
    (headerLen : 16 ≤ order.header.len.toNat) (statusWritable : order.status.isWritable = true) :
    readRequest memory queue headIdx = .ok {
    requestType := if order.isWrite then .write else .read
    sector := order.sector
    dataDescs := order.data
    statusDesc := order.status } := by
  obtain ⟨bytes, read, code, sector⟩ := holds.bytes
  have longEnough : ¬ order.header.len.toNat < 16 := by omega
  have header := (@readDesc_read BlockError _ memory queue headIdx).ok holds.header
  have walked := (walk_walked
    (BlockError.invalidDescriptor "descriptor chain cycle detected") memory queue
    queue.size.toNat order.header.next).ok (holds.rest.wholeFrom holds.rest.length_le)
  unfold readRequest
  simp [bind, Except.bind, pure, Except.pure, tryRead, header, read, headerReadable,
    longEnough, holds.goesOn, code, sector, walked, statusWritable]

theorem perform_order (device : BlockDevice) (wellFormed : order.WellFormed device memory queue)
    (inFile : device.CapacityInFile) (isFile : device.diskFile.length < maxFileOffset) :
    ∃ file after spans, device.perform memory (if order.isWrite then .write else .read) order.data
    order.sector = ⟨{ device with diskFile := file }, after,
      BitVec.ofNat 32 (if order.isWrite then 0 else dataLength order.data), .ok statusOk⟩ ∧
    file.bytes = (order.operation memory).apply device.diskFile.bytes ∧
    file.length = device.diskFile.length ∧ memory.Wrote after spans ∧
    (∀ span ∈ spans, order.isWrite = false ∧ span ∈ order.data.map buffer) ∧
    (order.isWrite = false →
    gather after order.data = (order.operation memory).output device.diskFile.bytes) := by
  have capacity := wellFormed.inCapacity
  unfold CapacityInFile at inFile
  have limit : maxFileOffset = 2 ^ 63 := rfl
  have small : order.sector.toNat < 2 ^ 55 := by
    have size : order.offset = order.sector.toNat * 512 := rfl
    omega
  obtain ⟨sought, seek, position, contents⟩ :
    ∃ sought, device.diskFile.seek (order.sector * BitVec.ofNat 64 sectorSize) = (sought, .ok ()) ∧
    sought.position = order.offset ∧ device.diskFile.SameContents sought := by
    unfold DiskFile.seek
    have offset : (order.sector * BitVec.ofNat 64 sectorSize).toNat = order.offset := toNat_byteOffset small
    rw [offset, if_neg (by omega)]
    exact ⟨_, rfl, rfl, rfl, rfl⟩
  have fits : sought.position + dataLength order.data ≤ sought.length := by
    rw [position, contents.2]
    omega
  cases isWrite : order.isWrite with
  | false =>
    have writable : ∀ desc ∈ order.data, desc.isWritable = true := by
      intro desc member
      rw [wellFormed.direction desc member, isWrite]
      rfl
    have regions := wellFormed.regionsApart
    rw [Order.regions, isWrite] at regions
    obtain ⟨file, after, filled, same, wrote, gathered⟩ := readInto_fills order.data
      { device with diskFile := sought } memory 0 writable wellFormed.dataInMemory
      (pairwise_append.mp regions).1 fits
    refine ⟨file, after, _, ?_, ?_, (contents.trans same).2, wrote, ?_, ?_⟩
    · simp only [perform, handleRead, seek, filled, Bool.false_eq_true, ↓reduceIte]
      congr 1
      exact BitVec.zero_add _
    · rw [Order.operation, isWrite]
      exact (contents.trans same).1
    · intro span member
      exact ⟨rfl, mem_reverse.mp member⟩
    · intro _
      rw [gathered, position, contents.1, Order.operation, isWrite]
      rfl
  | true =>
    have readable : ∀ desc ∈ order.data, desc.isWritable = false := by
      intro desc member
      rw [wellFormed.direction desc member, isWrite]
      rfl
    obtain ⟨file, stored, bytes, length⟩ := writeFrom_stores order.data
      { device with diskFile := sought } memory readable wellFormed.dataInMemory fits
      (by
        rw [contents.2]
        exact isFile)
    refine ⟨file, memory, [], ?_, ?_, length.trans contents.2, .refl memory, by simp, by simp⟩
    · have writable : ¬ device.readOnly = true := by
        rw [wellFormed.mayWrite isWrite]
        decide
      unfold perform handleWrite
      rw [if_neg writable, seek]
      exact stored
    · rw [bytes, position, contents.1, Order.operation, isWrite]
      rfl

theorem Order.WellFormed.statusApart {device : BlockDevice}
    (wellFormed : order.WellFormed device memory queue) (isRead : order.isWrite = false)
    {desc : VirtqDesc} (member : desc ∈ order.data) : (spanAt order.status.addr 1).Apart desc.buffer := by
  have regions := wellFormed.regionsApart
  rw [Order.regions, isRead] at regions
  exact ((pairwise_append.mp regions).2.2 desc.buffer (mem_map_of_mem member)
    (spanAt order.status.addr 1) (mem_singleton.mpr rfl)).symm

theorem processOneRequest_order (device : BlockDevice) (holds : Holds memory queue headIdx order)
    (wellFormed : order.WellFormed device memory queue) (inFile : device.CapacityInFile)
    (isFile : device.diskFile.length < maxFileOffset) :
    ∃ file after spans, device.processOneRequest memory queue headIdx =
    ({ device with diskFile := file }, after, statusOk, BitVec.ofNat 32 (order.operation memory).reported) ∧
    file.bytes = (order.operation memory).apply device.diskFile.bytes ∧
    file.length = device.diskFile.length ∧ memory.Wrote after spans ∧
    spans ⊆ order.regions ∧
    (order.isWrite = false →
    gather after order.data = (order.operation memory).output device.diskFile.bytes) := by
  obtain ⟨file, between, spans, performed, bytes, length, wrote, data, gathered⟩ :=
    device.perform_order wellFormed inFile isFile
  have inMemory := (wrote.inBounds_iff order.status.addr 1).mpr wellFormed.statusInMemory
  obtain ⟨after, written, statusWrote, _⟩ :=
    (@tryWrite_written BlockError _ between order.status.addr [statusOk]).ok inMemory
  unfold processOneRequest processOneRequestInner
  rw [readRequest_eq holds wellFormed.headerReadable wellFormed.headerLen wellFormed.statusWritable]
  dsimp only
  rw [performed]
  dsimp only
  rw [written]
  refine ⟨file, after, _, ?_, bytes, length, wrote.trans statusWrote, ?_, ?_⟩
  · dsimp only
    congr 3
    unfold Order.operation Operation.reported
    cases order.isWrite with
    | false => exact (BitVec.ofNat_add _ 1).symm
    | true => rfl
  · intro span member
    unfold Order.regions
    rcases mem_append.mp member with isStatus | isData
    · exact mem_append_right _ isStatus
    · obtain ⟨isRead, inData⟩ := data span isData
      rw [isRead]
      exact mem_append_left _ inData
  · intro isRead
    rw [← gathered isRead]
    apply gather_eq_of_wrote statusWrote
    intro desc member span only
    rw [mem_singleton.mp only]
    exact Order.WellFormed.statusApart wellFormed isRead member

end Block.BlockDevice

namespace VirtQueue
section
variable {memory after : GuestMemory} {queue : VirtQueue}

theorem usedLen_writeUsedEntry {Error : Type} [DescriptorErrors Error]
    {headIdx : U16} {written : U32}
    (entered : (queue.writeUsedEntry memory headIdx written : GuestMemory × Except Error Unit) =
      (after, .ok ())) : queue.usedLen after = some written := by
  unfold writeUsedEntry at entered
  split at entered
  · cases entered
  · next between _ =>
      have outcome : between.Written (queue.usedEntryAddr + 4) (toLeBytes 4 written.toNat)
        (between.tryWrite (queue.usedEntryAddr + 4) (toLeBytes 4 written.toNat) :
          GuestMemory × Except Error Unit) := between.tryWrite_written _ _
      rw [entered] at outcome
      cases outcome with
      | done _ _ reads =>
        rw [length_toLeBytes] at reads
        rw [usedLen, reads]
        have all : leField (toLeBytes 4 written.toNat) 0 4 = written.toNat := by
          have whole : (toLeBytes 4 written.toNat).take 4 = toLeBytes 4 written.toNat :=
            take_of_length_le (by simp)
          rw [leField, drop_zero, whole, fromLeBytes_toLeBytes]
          exact mod_eq_of_lt written.isLt
        simp [Except.toOption, all]

theorem usedEntry_eq_of_wrote {spans : List Span}
    (positive : queue.size ≠ 0) (fits : queue.usedRingAddr.toNat + (4 + 8 * queue.size.toNat) ≤ 2 ^ 64)
    (wrote : memory.Wrote after spans) (apart : ∀ span ∈ spans, span.Apart queue.usedRing) :
    queue.usedHead after = queue.usedHead memory ∧ queue.usedLen after = queue.usedLen memory := by
  have cell := queue.usedCell_within positive fits
  have address := queue.toNat_usedEntryAddr positive fits
  have slot := toNat_mod_lt queue.lastUsedIdx queue.size positive
  have second : (queue.usedEntryAddr + 4).toNat = queue.usedEntryAddr.toNat + 4 := by
    have four : (4 : U64).toNat = 4 := rfl
    rw [BitVec.toNat_add, four, mod_eq_of_lt (by omega)]
  have head : after.readBytes queue.usedEntryAddr 4 = memory.readBytes queue.usedEntryAddr 4 := by
    apply wrote.readBytes_eq
    intro span member
    have clear := apart span member
    unfold Apart Within spanAt at *
    dsimp only at *
    omega
  have len : after.readBytes (queue.usedEntryAddr + 4) 4 =
    memory.readBytes (queue.usedEntryAddr + 4) 4 := by
    apply wrote.readBytes_eq
    intro span member
    have clear := apart span member
    unfold Apart Within spanAt at *
    dsimp only at *
    omega
  unfold usedHead usedLen
  rw [head, len]
  exact ⟨rfl, rfl⟩

end
end VirtQueue

namespace Block.BlockDevice
variable {order : Order} {start device : BlockDevice}

private theorem writeStatusForChain_order {memory entered : GuestMemory} {queue : VirtQueue} {headIdx : U16}
    (holds : Holds memory queue headIdx order)
    (statusInMemory : memory.InBounds order.status.addr 1) (same : SameTable queue memory entered) :
    ∃ after, writeStatusForChain entered queue.advance headIdx statusOk = (after, .ok ()) ∧
    entered.Wrote after [spanAt order.status.addr 1] ∧ after.readBytes order.status.addr 1 =
    .ok [statusOk] := by
  have chain : queue.Ends memory headIdx (order.header :: (order.data ++ [order.status])) :=
    .more holds.header holds.goesOn holds.rest
  have later : ∀ idx, queue.advance.descAt entered idx = queue.descAt memory idx := same.descAt
  have whole : queue.advance.wholeFrom entered queue.advance.size.toNat headIdx =
    some (order.header :: (order.data ++ [order.status])) := by
    rw [wholeFrom_congr later]
    exact chain.wholeFrom chain.length_le
  have inMemory := (same.inBounds order.status.addr 1).mpr statusInMemory
  have last : (order.header :: (order.data ++ [order.status])).getLast? = some order.status := by
    rw [← cons_append]
    exact getLast?_concat
  obtain ⟨after, written, wrote, reads⟩ :=
    (@tryWrite_written BlockError _ entered order.status.addr [statusOk]).ok inMemory
  refine ⟨after, ?_, wrote, reads⟩
  unfold writeStatusForChain
  rw [(walk_walked _ entered queue.advance _ headIdx).ok whole]
  dsimp only
  rw [last]
  dsimp only
  rw [written]

theorem step_fulfilled (device : BlockDevice) (call : Call) (processed : Bool)
    (head : call.queue.availHead call.memory = some call.headIdx)
    (placed : call.order? = some order)
    (wellFormed : order.WellFormed device call.memory call.queue) (inFile : device.CapacityInFile)
    (isFile : device.diskFile.length < maxFileOffset) :
    Fulfilled device.diskFile.bytes call order
    (service.step ⟨device, call.memory, call.queue, processed⟩) ∧
    (device.handle call).diskFile.bytes =
    (order.operation call.memory).apply device.diskFile.bytes ∧
    (device.handle call).diskFile.length = device.diskFile.length := by
  obtain ⟨memory, queue, headIdx⟩ := call
  have holds := holds_of_order placed
  obtain ⟨file, served, spans, processedRequest, bytes, length, wrote, regions, gathered⟩ :=
    device.processOneRequest_order holds wellFormed inFile isFile
  have positive : queue.size ≠ 0 := by
    intro zero
    have nonempty := size_pos_of_descAt holds.header
    simp [zero] at nonempty
  have servedTable : SameTable queue memory served :=
    .of_wrote wellFormed.tableFits wrote fun span member => wellFormed.regionsTable span (regions member)
  have canEnter : queue.CanEnter served := by
    unfold VirtQueue.CanEnter
    rw [servedTable.inBounds, servedTable.inBounds]
    exact wellFormed.entryInMemory
  obtain ⟨entered, cells, entry, enteredWrote, within, usedHead⟩ :=
    (@writeUsedEntry_entered BlockError served queue _ positive wellFormed.usedFits
      headIdx (BitVec.ofNat 32 (order.operation memory).reported)).ok canEnter
  have usedLen := usedLen_writeUsedEntry entry
  have inRing : ∀ span ∈ cells, span.Within queue.usedRing := by
    intro span member
    have inCell := within span member
    have cell := queue.usedCell_within positive wellFormed.usedFits
    unfold Within at *
    omega
  have enteredTable : SameTable queue served entered :=
    .of_wrote wellFormed.tableFits enteredWrote fun span member =>
      wellFormed.usedTable.within (inRing span member)
  obtain ⟨after, settled, statusWrote, statusReads⟩ := writeStatusForChain_order holds
    wellFormed.statusInMemory (servedTable.trans enteredTable)
  have statusRegion : spanAt order.status.addr 1 ∈ order.regions :=
    mem_append_right _ (mem_singleton.mpr rfl)
  obtain ⟨headKept, lenKept⟩ := usedEntry_eq_of_wrote positive wellFormed.usedFits
    statusWrote (by
      intro span only
      rw [mem_singleton.mp only]
      exact wellFormed.regionsUsed _ statusRegion)
  have handled : device.handle ⟨memory, queue, headIdx⟩ = { device with diskFile := file } := by
    unfold handle
    rw [processedRequest]
  refine ⟨?_, by rw [handled]; exact bytes, by rw [handled]; exact length⟩
  unfold QueueService.step
  simp only [service, (@readAvailEntry_read BlockError _ memory queue).ok head, processedRequest,
    entry, settled]
  refine ⟨rfl, rfl, ?_, statusReads, headKept.trans usedHead, ?_⟩
  · intro isRead
    rw [← gathered isRead]
    apply gather_eq_of_wrote (enteredWrote.trans statusWrote)
    intro desc member span inSpans
    have inRegions : desc.buffer ∈ order.regions := by
      rw [Order.regions, isRead]
      exact mem_append_left _ (mem_map_of_mem member)
    rcases mem_append.mp inSpans with isStatus | isEntry
    · rw [mem_singleton.mp isStatus]
      exact Order.WellFormed.statusApart wellFormed isRead member
    · exact (wellFormed.regionsUsed _ inRegions).symm.within (inRing span isEntry)
  · have short := wellFormed.countable
    have value : (order.operation memory).reported < 2 ^ 32 := by
      unfold Order.operation Operation.reported
      cases order.isWrite with
      | false => exact short
      | true => exact (by omega : 1 < 2 ^ 32)
    rw [lenKept, usedLen, Option.map_some, BitVec.toNat_ofNat, mod_eq_of_lt value]

/-- The device holds the contents of the array, and is otherwise as it was made. -/
structure Refines (start device : BlockDevice) (contents : Cells U8) : Prop where
  bytes : device.diskFile.bytes = contents
  inFile : device.CapacityInFile
  isFile : device.diskFile.length < maxFileOffset
  same : SameDevice start device

theorem Order.WellFormed.of_same {memory : GuestMemory} {queue : VirtQueue}
    (wellFormed : order.WellFormed start memory queue) (same : SameDevice start device) :
    order.WellFormed device memory queue :=
  { wellFormed with
    inCapacity := by
      unfold capacity
      rw [same.numSectors]
      exact wellFormed.inCapacity
    mayWrite := fun isWrite => same.readOnly.trans (wellFormed.mayWrite isWrite) }

section
variable {contents : Cells U8} (refines : Refines start device contents)
include refines

theorem handle_refines {call : Call} (head : call.queue.availHead call.memory = some call.headIdx)
    (placed : call.order? = some order)
    (wellFormed : order.WellFormed start call.memory call.queue) :
    Refines start (device.handle call) ((order.operation call.memory).apply contents) := by
  obtain ⟨_, bytes, length⟩ := step_fulfilled device call false head placed
    (Order.WellFormed.of_same wellFormed refines.same) refines.inFile refines.isFile
  have same := (device.handle_kept call).1
  refine ⟨?_, ?_, ?_, refines.same.trans same⟩
  · rw [bytes, refines.bytes]
  · have inFile := refines.inFile
    unfold CapacityInFile capacity at *
    rw [same.numSectors, length]
    exact inFile
  · rw [length]
    exact refines.isFile

theorem run_refines (calls : List Call)
    (heads : ∀ call ∈ calls, call.queue.availHead call.memory = some call.headIdx)
    (wellFormed : ∀ call ∈ calls, call.WellFormed start) :
    Refines start (run handle device calls) (run Operation.apply contents (operations calls)) := by
  induction calls generalizing device contents with
  | nil => exact refines
  | cons call rest ih =>
    obtain ⟨order, placed, isWellFormed⟩ := wellFormed call mem_cons_self
    have next := handle_refines refines (heads call mem_cons_self) placed isWellFormed
    have first : operations (call :: rest) = order.operation call.memory :: operations rest := by
      simp [operations, placed]
    rw [first, run_cons, run_cons]
    exact ih next (fun other member => heads other (mem_cons_of_mem _ member))
      (fun other member => wellFormed other (mem_cons_of_mem _ member))

end

theorem run_notify_eq (device : BlockDevice) (passes : List (GuestMemory × VirtQueue)) :
    run notify device passes = run handle device (device.history passes) := by
  induction passes generalizing device with
  | nil => rfl
  | cons pass rest ih =>
    rw [run_cons, ih, history, run_append]
    congr 1
    exact processQueue_device device pass.1 pass.2

private theorem mem_history {passes : List (GuestMemory × VirtQueue)} {call : Call}
    (member : call ∈ device.history passes) : call.queue.availHead call.memory = some call.headIdx := by
  induction passes generalizing device with
  | nil => cases member
  | cons pass rest ih =>
    rcases mem_append.mp member with here | later
    · exact mem_passCalls here
    · exact ih later

def sectorOfFives : DiskFile where
  bytes _ := 5
  length := 512
  position := 0

/-- A read of four bytes into a buffer at 272, with the status so far behind the header. -/
def readOfFour (statusOffset : U8) : Call := ⟨fourBytes 0 0 3 statusOffset, fourBytesQueue, 0⟩

def orderOfFour (statusAddr : U64) : Order where
  isWrite := false
  sector := 0
  header := ⟨256, 16, 1, 1⟩
  data := [⟨272, 4, 3, 2⟩]
  status := ⟨statusAddr, 1, 2, 0⟩

end Block.BlockDevice
end Visor
