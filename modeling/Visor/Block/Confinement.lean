import Visor.Block.DeviceProperties
import Visor.Library.Run

/-! The device checks a request neither against its own capacity nor for an offset that wraps. What
a request touches stays within the capacity if the request does. Without that a write extends the
backing file, and a read reaches the bytes behind the last whole sector. -/

namespace Visor.Block
open Library List GuestMemory VirtQueue Span
namespace DiskFile
def accessesSince (file before : DiskFile) : List Span :=
  file.accesses.take (file.accesses.length - before.accesses.length)

def seeksSince (file before : DiskFile) : List Nat :=
  file.seeks.take (file.seeks.length - before.seeks.length)

/-- From `before` to `after` the file keeps its length, and only bytes below the limit are
read or written. -/
structure Within (limit : Nat) (before after : DiskFile) : Prop where
  length : after.length = before.length
  accesses : ∃ spans, after.accesses = spans ++ before.accesses ∧
    ∀ span ∈ spans, ∀ address, span.Covers address → address < limit
  seeks : after.seeks = before.seeks

namespace Within
variable {limit : Nat} {before between after : DiskFile}

theorem refl (limit : Nat) (file : DiskFile) : Within limit file file := ⟨rfl, ⟨[], rfl, nofun⟩, rfl⟩

theorem trans (first : Within limit before between) (second : Within limit between after) :
    Within limit before after := by
  obtain ⟨early, fromBefore, earlyBelow⟩ := first.accesses
  obtain ⟨late, fromBetween, lateBelow⟩ := second.accesses
  refine ⟨second.length.trans first.length, ⟨late ++ early, ?_, ?_⟩, second.seeks.trans first.seeks⟩
  · rw [fromBetween, fromBefore, append_assoc]
  · intro span member
    rcases mem_append.mp member with new | old
    · exact lateBelow span new
    · exact earlyBelow span old

end Within

variable (file : DiskFile)

theorem readExact_within (count limit : Nat) (inside : file.length ≤ limit ∨
      file.length ≤ file.position ∨ file.position + count ≤ limit) :
    Within limit file (file.readExact count).1 := by
  unfold readExact
  split
  · exact .refl limit file
  · split
    · refine ⟨rfl, ⟨[_], rfl, ?_⟩, rfl⟩
      intro span only address covers
      rw [mem_singleton.mp only] at covers
      unfold Covers at covers
      dsimp only at covers
      omega
    · refine ⟨rfl, ⟨[_], rfl, ?_⟩, rfl⟩
      intro span only address covers
      rw [mem_singleton.mp only] at covers
      unfold Covers at covers
      dsimp only at covers
      omega

def SameContents (before after : DiskFile) : Prop :=
  after.bytes = before.bytes ∧ after.length = before.length

theorem SameContents.trans {before between after : DiskFile} (first : SameContents before between)
    (second : SameContents between after) : SameContents before after :=
  ⟨second.1.trans first.1, second.2.trans first.2⟩

theorem readExact_same (count : Nat) : SameContents file (file.readExact count).1 := by
  unfold readExact
  split
  · exact ⟨rfl, rfl⟩
  · split <;> exact ⟨rfl, rfl⟩

theorem seek_same (offset : U64) : SameContents file (file.seek offset).1 := by
  unfold seek
  split <;> exact ⟨rfl, rfl⟩

theorem position_readExact {file after : DiskFile} {count : Nat} {buf : List U8}
    (read : file.readExact count = (after, .ok buf)) : after.position = file.position + count := by
  unfold readExact at read
  split at read
  · next zero =>
      cases read
      omega
  · split at read
    · cases read
      rfl
    · cases read

theorem length_readExact {file after : DiskFile} {count : Nat} {buf : List U8}
    (read : file.readExact count = (after, .ok buf)) : buf.length = count := by
  unfold readExact at read
  split at read
  next zero =>
    cases read
    exact zero.symm
  next =>
    split at read
    next =>
      cases read
      exact Cells.length_read ..
    next => cases read

theorem writeAll_within (data : List U8) (limit : Nat)
    (inside : data.length = 0 ∨ file.position + data.length ≤ limit)
    (inFile : limit ≤ file.length) : Within limit file (file.writeAll data).1 := by
  unfold writeAll
  split
  next => exact .refl limit file
  next full =>
    have fits := inside.resolve_left (by simpa using full)
    split
    next => exact .refl limit file
    next =>
      refine ⟨?_, ⟨[_], rfl, ?_⟩, rfl⟩
      · dsimp only
        omega
      · intro span only address covers
        rw [mem_singleton.mp only] at covers
        unfold Covers at covers
        dsimp only at covers
        omega

theorem position_writeAll {file after : DiskFile} {data : List U8}
    (wrote : file.writeAll data = (after, .ok ())) : after.position = file.position + data.length := by
  unfold writeAll at wrote
  split at wrote
  · next empty =>
      cases wrote
      rw [List.isEmpty_iff.mp empty]
      rfl
  · split at wrote
    · cases wrote
    · cases wrote
      rfl

end DiskFile

namespace BlockDevice
def capacity (device : BlockDevice) : Nat := device.numSectors * sectorSize
def dataLength (dataDescs : List VirtqDesc) : Nat := (dataDescs.map (·.len.toNat)).sum

@[simp] theorem dataLength_cons (desc : VirtqDesc) (rest : List VirtqDesc) :
    dataLength (desc :: rest) = desc.len.toNat + dataLength rest := rfl

/-- A request at whose turn the device serves the chain at a head of a queue. -/
structure Call where
  memory : GuestMemory
  queue : VirtQueue
  headIdx : U16

def handle (device : BlockDevice) (call : Call) : BlockDevice :=
  (device.processOneRequest call.memory call.queue call.headIdx).1

/-- The bytes that a read asks of the file. It ends at a descriptor that is not writable, and behind
a buffer that is not in memory. -/
def bytesRead (memory : GuestMemory) : List VirtqDesc → Nat
  | [] => 0
  | desc :: rest =>
    if !desc.isWritable then 0
    else if memory.InBounds desc.addr desc.len.toNat then
      desc.len.toNat + bytesRead memory rest
    else desc.len.toNat

/-- The bytes that a write has for the file. It ends at a descriptor that is writable, and before a
buffer that is not in memory. -/
def bytesWritten (memory : GuestMemory) : List VirtqDesc → Nat
  | [] => 0
  | desc :: rest =>
    if desc.isWritable then 0
    else if memory.InBounds desc.addr desc.len.toNat then
      desc.len.toNat + bytesWritten memory rest
    else 0

/-- The request stays within the capacity: its offset does not wrap, and what it moves ends in time.
Reads may also start behind the end of the file, or meet the end of a file of whole sectors; writes
to a read-only device are refused anyway, and so are offsets that no file has. -/
def InRange (device : BlockDevice) (memory : GuestMemory) (request : Request) : Prop :=
  let offset := request.sector.toNat * sectorSize
  match request.requestType with
  | .read => request.sector.toNat < 2 ^ 55 ∧
    (device.diskFile.length = device.capacity ∨ device.diskFile.length ≤ offset ∨
      offset + bytesRead memory request.dataDescs ≤ device.capacity)
  | .write => device.readOnly = true ∨ request.sector.toNat < 2 ^ 55 ∧
    (bytesWritten memory request.dataDescs = 0 ∨ maxFileOffset ≤ offset ∨
      offset + bytesWritten memory request.dataDescs ≤ device.capacity)
  | .flush | .getId | .unsupported _ => True

/-- The request of the call is in range, if it has one. -/
def CallInRange (device : BlockDevice) (call : Call) : Prop :=
  ∀ request, readRequest call.memory call.queue call.headIdx = .ok request →
    device.InRange call.memory request

/-- The call stays below the capacity, keeps the length and seeks only to its own sector. -/
structure Confined (device : BlockDevice) (call : Call) : Prop where
  accesses : ∀ span ∈ (device.handle call).diskFile.accessesSince device.diskFile,
    ∀ address, span.Covers address → address < device.capacity
  length : (device.handle call).diskFile.length = device.diskFile.length
  offsets : ∀ request, readRequest call.memory call.queue call.headIdx = .ok request →
    ∀ offset ∈ (device.handle call).diskFile.seeksSince device.diskFile, offset =
      request.sector.toNat * sectorSize
  readOnly : device.readOnly = true → device.diskFile.SameContents (device.handle call).diskFile

theorem length_tryRead {memory : GuestMemory} {addr : U64} {count : Nat} {buf : List U8}
    (read : (memory.tryRead addr count : Except BlockError (List U8)) = .ok buf) :
    memory.InBounds addr count ∧ buf.length = count := by
  unfold tryRead at read
  cases bytes : memory.readBytes addr count with
  | error =>
    rw [bytes] at read
    cases read
  | ok =>
    rw [bytes] at read
    cases read
    obtain ⟨here, rfl⟩ := readBytes_eq_ok_iff.mp bytes
    exact ⟨here, Cells.length_read ..⟩

structure SameDevice (before after : BlockDevice) : Prop where
  numSectors : after.numSectors = before.numSectors
  readOnly : after.readOnly = before.readOnly

theorem SameDevice.trans {before between after : BlockDevice} (first : SameDevice before between)
    (second : SameDevice between after) : SameDevice before after :=
  ⟨second.numSectors.trans first.numSectors, second.readOnly.trans first.readOnly⟩

variable (descs : List VirtqDesc) (device : BlockDevice) (memory : GuestMemory) {sector : U64}
  (call : Call)

private theorem readInto_contents (device : BlockDevice) (memory : GuestMemory) (total : U32) :
    DiskFile.SameContents device.diskFile (readInto descs device memory total).device.diskFile := by
  induction descs generalizing device memory total with
  | nil => exact ⟨rfl, rfl⟩
  | cons desc rest ih =>
    have contents := device.diskFile.readExact_same desc.len.toNat
    unfold readInto
    split
    · exact ⟨rfl, rfl⟩
    · cases read : device.diskFile.readExact desc.len.toNat with
      | mk file result =>
        rw [read] at contents
        cases result with
        | error => exact contents
        | ok =>
          dsimp only
          split
          · exact contents
          · exact contents.trans (ih { device with diskFile := file } _ _)

theorem perform_kept (requestType : RequestType) (dataDescs : List VirtqDesc) (sector : U64) :
    SameDevice device (device.perform memory requestType dataDescs sector).device ∧
    (device.readOnly = true →
      DiskFile.SameContents device.diskFile
      (device.perform memory requestType dataDescs sector).device.diskFile) := by
  refine ⟨?_, fun readOnly => ?_⟩
  · obtain ⟨file, kept⟩ := device.perform_device memory requestType dataDescs sector
    rw [kept]
    exact ⟨rfl, rfl⟩
  · have contents := device.diskFile.seek_same (sector * BitVec.ofNat 64 sectorSize)
    cases requestType with
    | read =>
      simp only [perform, handleRead]
      cases seek : device.diskFile.seek (sector * BitVec.ofNat 64 sectorSize) with
      | mk sought result =>
        rw [seek] at contents
        cases result with
        | error => exact contents
        | ok =>
          exact contents.trans (readInto_contents dataDescs { device with diskFile := sought } memory 0)
    | write =>
      simp only [perform, handleWrite, readOnly, ↓reduceIte]
      exact ⟨rfl, rfl⟩
    | flush | unsupported => exact ⟨rfl, rfl⟩
    | getId =>
      simp only [perform, handleGetId_device]
      exact ⟨rfl, rfl⟩

private theorem bytesRead_congr {memory other : GuestMemory}
    (same : ∀ addr len, other.InBounds addr len ↔ memory.InBounds addr len) :
    bytesRead other descs = bytesRead memory descs := by
  induction descs with
  | nil => rfl
  | cons desc rest ih => simp only [bytesRead, same, ih]

theorem readInto_within (device : BlockDevice) (memory : GuestMemory) (total : U32) (limit : Nat)
    (inside : device.diskFile.length ≤ limit ∨ device.diskFile.length ≤ device.diskFile.position ∨
      device.diskFile.position + bytesRead memory descs ≤ limit) :
    DiskFile.Within limit device.diskFile
      (readInto descs device memory total).device.diskFile := by
  induction descs generalizing device memory total with
  | nil => exact .refl limit _
  | cons desc rest ih =>
    unfold readInto
    by_cases writable : desc.isWritable = true
    · rw [bytesRead, if_neg (by simp [writable])] at inside
      have first := device.diskFile.readExact_within desc.len.toNat limit (by split at inside <;> omega)
      rw [if_neg (by simp [writable])]
      cases read : device.diskFile.readExact desc.len.toNat with
      | mk file result =>
        rw [read] at first
        cases result with
        | error => exact first
        | ok buf =>
          have size := DiskFile.length_readExact read
          dsimp only
          refine (@GuestMemory.tryWrite_written BlockError _ memory desc.addr buf).casesOn
            (fun _ => first) @fun between here wrote _ => ?_
          rw [if_pos (size ▸ here)] at inside
          have moved := DiskFile.position_readExact read
          have length : file.length = device.diskFile.length := first.length
          have same := bytesRead_congr rest wrote.inBounds_iff
          have later : file.length ≤ limit ∨ file.length ≤ file.position ∨
              file.position + bytesRead between rest ≤ limit := by omega
          exact first.trans (ih { device with diskFile := file } between _ later)
    · rw [if_pos (by simpa using writable)]
      exact .refl limit _

theorem writeFrom_within (device : BlockDevice) (memory : GuestMemory) (limit : Nat)
    (inside : bytesWritten memory descs = 0 ∨
      device.diskFile.position + bytesWritten memory descs ≤ limit)
    (inFile : limit ≤ device.diskFile.length) :
    DiskFile.Within limit device.diskFile (writeFrom descs device memory).device.diskFile := by
  induction descs generalizing device with
  | nil => exact .refl limit _
  | cons desc rest ih =>
    unfold writeFrom
    split
    · exact .refl limit _
    · next readable =>
      cases read : (memory.tryRead desc.addr desc.len.toNat : Except BlockError (List U8)) with
      | error => exact .refl limit _
      | ok buf =>
        obtain ⟨here, size⟩ := length_tryRead read
        rw [bytesWritten, if_neg readable, if_pos here] at inside
        have first := device.diskFile.writeAll_within buf limit (by omega) inFile
        dsimp only
        cases wrote : device.diskFile.writeAll buf with
        | mk file result =>
          rw [wrote] at first
          cases result with
          | error => exact first
          | ok =>
            have moved := DiskFile.position_writeAll wrote
            have length : file.length = device.diskFile.length := first.length
            have later : bytesWritten memory rest = 0 ∨
                file.position + bytesWritten memory rest ≤ limit := by omega
            exact first.trans (ih { device with diskFile := file } later (by rw [length]; exact inFile))

structure ServedWithin (limit : Nat) (sector : U64) (before after : DiskFile) : Prop where
  length : after.length = before.length
  accesses : ∃ spans, after.accesses = spans ++ before.accesses ∧
    ∀ span ∈ spans, ∀ address, span.Covers address → address < limit
  seeks : ∃ offsets, after.seeks = offsets ++ before.seeks ∧
    ∀ offset ∈ offsets, offset = sector.toNat * sectorSize

theorem servedWithin_refl (limit : Nat) (sector : U64) (file : DiskFile) :
    ServedWithin limit sector file file := ⟨rfl, ⟨[], rfl, nofun⟩, ⟨[], rfl, nofun⟩⟩

section
variable (small : sector.toNat < 2 ^ 55)
include small

theorem toNat_byteOffset : (sector * BitVec.ofNat 64 sectorSize).toNat = sector.toNat * sectorSize := by
  have value : (BitVec.ofNat 64 sectorSize).toNat = 512 := rfl
  have size : sectorSize = 512 := rfl
  rw [BitVec.toNat_mul, value, size, Nat.mod_eq_of_lt (by omega)]

theorem servedWithin_of_seek {limit : Nat} {file sought after : DiskFile}
    {result : Except DiskError Unit}
    (seek : file.seek (sector * BitVec.ofNat 64 sectorSize) = (sought, result))
    (within : DiskFile.Within limit sought after) : ServedWithin limit sector file after := by
  have offset := toNat_byteOffset small
  obtain ⟨spans, accesses, below⟩ := within.accesses
  have kept : sought.length = file.length ∧ sought.accesses = file.accesses ∧
    sought.seeks = sector.toNat * sectorSize :: file.seeks := by
    unfold DiskFile.seek at seek
    rw [offset] at seek
    split at seek <;> cases seek <;> exact ⟨rfl, rfl, rfl⟩
  refine ⟨within.length.trans kept.1, ⟨spans, ?_, below⟩, ⟨[sector.toNat * sectorSize], ?_, ?_⟩⟩
  · rw [accesses, kept.2.1]
  · rw [within.seeks, kept.2.2]
    rfl
  · intro other only
    exact mem_singleton.mp only

theorem seek_ok {file sought : DiskFile}
    (seek : file.seek (sector * BitVec.ofNat 64 sectorSize) = (sought, .ok ())) :
    sought.position = sector.toNat * sectorSize ∧ sought.length = file.length ∧
    ¬ maxFileOffset ≤ sector.toNat * sectorSize := by
  have offset := toNat_byteOffset small
  unfold DiskFile.seek at seek
  split at seek
  next => cases seek
  next below =>
    cases seek
    exact ⟨offset, rfl, offset ▸ below⟩

end

theorem perform_servedWithin (request : Request)
    (inFile : device.capacity ≤ device.diskFile.length) (inRange : device.InRange memory request) :
    ServedWithin device.capacity request.sector device.diskFile
    (device.perform memory request.requestType request.dataDescs request.sector).device.diskFile := by
  obtain ⟨requestType, sector, dataDescs, statusDesc⟩ := request
  cases requestType with
  | read =>
    obtain ⟨small, inside⟩ := inRange
    simp only [perform, handleRead]
    cases seek : device.diskFile.seek (sector * BitVec.ofNat 64 sectorSize) with
    | mk sought result =>
      cases result with
      | error => exact servedWithin_of_seek small seek (.refl _ _)
      | ok =>
        obtain ⟨position, length, _⟩ := seek_ok small seek
        have fits : sought.length ≤ device.capacity ∨ sought.length ≤ sought.position ∨
            sought.position + bytesRead memory dataDescs ≤ device.capacity := by
          rw [position, length]
          exact inside.imp_left Nat.le_of_eq
        exact servedWithin_of_seek small seek
          (readInto_within dataDescs { device with diskFile := sought } memory 0 _ fits)
  | write =>
    simp only [perform, handleWrite]
    split
    · exact servedWithin_refl _ _ _
    · next writable =>
        obtain ⟨small, inside⟩ := inRange.resolve_left (by simpa using writable)
        cases seek : device.diskFile.seek (sector * BitVec.ofNat 64 sectorSize) with
        | mk sought result =>
          cases result with
          | error => exact servedWithin_of_seek small seek (.refl _ _)
          | ok =>
            obtain ⟨position, length, below⟩ := seek_ok small seek
            rw [or_iff_right below, ← position] at inside
            rw [← length] at inFile
            exact servedWithin_of_seek small seek
              (writeFrom_within dataDescs { device with diskFile := sought } memory _ inside inFile)
  | flush | unsupported => exact servedWithin_refl _ _ _
  | getId =>
    simp only [perform, handleGetId_device]
    exact servedWithin_refl _ _ _

theorem handle_eq : device.handle call = match readRequest call.memory call.queue call.headIdx with
    | .error _ => device
    | .ok request => (device.perform call.memory request.requestType request.dataDescs
    request.sector).device := by
  unfold handle processOneRequest processOneRequestInner
  cases readRequest call.memory call.queue call.headIdx with
  | error => rfl
  | ok request =>
    dsimp only
    generalize device.perform call.memory request.requestType request.dataDescs request.sector = handled
    obtain ⟨after, memory, total, _ | status⟩ := handled
    · rfl
    · dsimp only
      generalize
        (memory.tryWrite request.statusDesc.addr [status] : GuestMemory × Except BlockError Unit) = wrote
      obtain ⟨memory, _ | _⟩ := wrote <;> rfl

theorem handle_kept : SameDevice device (device.handle call) ∧
    (device.readOnly = true → device.diskFile.SameContents (device.handle call).diskFile) := by
  rw [handle_eq]
  split
  · exact ⟨⟨rfl, rfl⟩, fun _ => ⟨rfl, rfl⟩⟩
  · exact device.perform_kept call.memory _ _ _

/-- The file holds at least the sectors that the device reports. -/
def CapacityInFile (device : BlockDevice) : Prop := device.capacity ≤ device.diskFile.length

theorem since_append {α : Type} (new old : List α) :
    (new ++ old).take ((new ++ old).length - old.length) = new := by
  rw [length_append, Nat.add_sub_cancel]
  exact take_left' rfl

section
variable (inFile : device.CapacityInFile) (inRange : device.CallInRange call)
include inFile inRange

theorem handle_confined : device.Confined call := by
  have kept := device.handle_kept call
  cases read : readRequest call.memory call.queue call.headIdx with
  | error =>
    have same : device.handle call = device := by rw [handle_eq, read]
    refine ⟨?_, by rw [same], ?_, kept.2⟩
    · rw [same, DiskFile.accessesSince, Nat.sub_self, take_zero]
      exact nofun
    · intro request present
      rw [read] at present
      cases present
  | ok request =>
    have served := device.perform_servedWithin call.memory request inFile (inRange request read)
    have handled :
      device.handle call =
      (device.perform call.memory request.requestType request.dataDescs request.sector).device := by
      rw [handle_eq, read]
    rw [← handled] at served
    obtain ⟨spans, accesses, below⟩ := served.accesses
    obtain ⟨offsets, seeks, exact⟩ := served.seeks
    refine ⟨?_, served.length, ?_, kept.2⟩
    · rw [DiskFile.accessesSince, accesses, since_append]
      exact below
    · intro other present offset member
      rw [read] at present
      cases present
      rw [DiskFile.seeksSince, seeks, since_append] at member
      exact exact offset member

theorem handle_capacityInFile : (device.handle call).CapacityInFile := by
  have confined := device.handle_confined call inFile inRange
  have same := (device.handle_kept call).1
  unfold CapacityInFile capacity at *
  rw [same.numSectors, confined.length]
  exact inFile

end

private theorem run_readOnly {device : BlockDevice} (readOnly : device.readOnly = true)
    (calls : List Call) : device.diskFile.SameContents (run handle device calls).diskFile := by
  let ofSameFile (later : BlockDevice) : Prop := later.readOnly = true ∧
    device.diskFile.SameContents later.diskFile
  have kept : ofSameFile (run handle device calls) := by
    apply stable_run ofSameFile calls
    · intro later call holds
      obtain ⟨same, contents⟩ := later.handle_kept call
      exact ⟨same.readOnly.trans holds.1, holds.2.trans (contents holds.1)⟩
    · exact ⟨readOnly, rfl, rfl⟩
  exact kept.2

/-- Requests within the capacity are confined, one after the other; and whatever the
requests, a read-only device keeps its file. -/
theorem confined_along (file : DiskFile) (readOnly : Bool) (idText : List U8) (calls : List Call) :
    (Along handle CallInRange (new file readOnly idText) calls →
    Along handle Confined (new file readOnly idText) calls) ∧
    (readOnly = true → file.SameContents (run handle (new file readOnly idText) calls).diskFile) := by
  have start : (new file readOnly idText).CapacityInFile := Nat.div_mul_le_self _ _
  constructor
  · intro inRange
    exact along_of_invariant CapacityInFile
      (fun device call inFile admitted => device.handle_capacityInFile call inFile admitted)
      (fun device call inFile admitted => device.handle_confined call inFile admitted)
      start inRange
  · intro isReadOnly
    have kept := run_readOnly (show (new file readOnly idText).readOnly = true from isReadOnly) calls
    exact kept

/-- A request of the given type for a sector: a header at 256, four bytes of data at 272
with these flags, and the status so far behind the header. -/
def fourBytes (code sector dataFlags statusOffset : U8) : GuestMemory where
  guestBase := 0
  size := 512
  bytes address :=
    if address = 1 then 1 else if address = 8 then 16
    else if address = 12 then 1 else if address = 14 then 1
    else if address = 16 then 16 else if address = 17 then 1 else if address = 24 then 4
    else if address = 28 then dataFlags else if address = 30 then 2
    else if address = 32 then statusOffset else if address = 33 then 1 else if address = 40 then 1
    else if address = 44 then 2
    else if address = 66 then 1
    else if address = 256 then code
    else if address = 264 then sector
    else if address = 272 then 7 else if address = 273 then 8 else if address = 274 then 9
    else if address = 275 then 10
    else 0

def fourBytesQueue : VirtQueue where
  maxSize := 256
  size := 4
  ready := true
  descTableAddr := 0
  availRingAddr := 64
  usedRingAddr := 128
  lastAvailIdx := 0
  lastUsedIdx := 0

def fourBytesWrite (sector : U8) : Call := ⟨fourBytes 1 sector 1 32, fourBytesQueue, 0⟩

def oneSector : DiskFile where
  bytes _ := 0
  length := 512
  position := 0

theorem confined_write_first_sector :
    Along handle Confined (new oneSector false []) [fourBytesWrite 0] := by
  refine (confined_along oneSector false [] [fourBytesWrite 0]).1 ⟨?_, trivial⟩
  intro request present
  have read : (readRequest (fourBytes 1 0 1 32) fourBytesQueue 0).toOption.map
      (fun request => (request.requestType, request.sector,
        bytesWritten (fourBytes 1 0 1 32) request.dataDescs)) = some (.write, 0, 4) := by
    decide +kernel
  have present : readRequest (fourBytes 1 0 1 32) fourBytesQueue 0 = .ok request := present
  rw [present] at read
  simp only [Except.toOption, Option.map_some, Option.some.injEq, Prod.mk.injEq] at read
  obtain ⟨isWrite, sector, length⟩ := read
  have length : bytesWritten (fourBytesWrite 0).memory request.dataDescs = 4 := length
  unfold InRange
  rw [isWrite, sector]
  exact .inr ⟨by decide, .inr (.inr (by rw [length]; decide))⟩

/-- A write to the sector behind the last one extends the file. -/
theorem write_extends_file : ((new oneSector false []).handle (fourBytesWrite 1)).diskFile.length = 516 ∧
    ¬ (new oneSector false []).Confined (fourBytesWrite 1) := by
  have extended : ((new oneSector false []).handle (fourBytesWrite 1)).diskFile.length = 516 := by
    decide +kernel
  refine ⟨extended, fun confined => ?_⟩
  have kept := confined.length
  rw [extended] at kept
  exact absurd kept (by decide)

def passCalls : Nat → Progress BlockDevice → List Call
  | 0, _ => []
  | remaining + 1, progress =>
    match progress.queue.availHead progress.memory with
    | none => []
    | some headIdx => ⟨progress.memory, progress.queue, headIdx⟩ ::
      match service.step progress with
      | (next, .ok (some ())) => passCalls remaining next
      | _ => []

theorem step_device (progress : Progress BlockDevice) : match progress.queue.availHead progress.memory with
    | none => ∃ error, service.step progress = (progress, .error error)
    | some headIdx => (service.step progress).1.device =
    progress.device.handle ⟨progress.memory, progress.queue, headIdx⟩ := by
  unfold QueueService.step
  simp only [service]
  refine (@readAvailEntry_read BlockError _ progress.memory progress.queue).casesOn
    (fun absent => ?_) @fun _ present => ?_
  · rw [absent]
    exact ⟨_, rfl⟩
  · rw [present]
    dsimp only
    split
    · rfl
    · split
      · next failed => exact (Prod.mk.inj failed).1.symm
      · next settled => exact (Prod.mk.inj settled).1.symm

theorem drain_device (remaining : Nat) (progress : Progress BlockDevice) :
    (service.drain remaining progress).1.device =
    run handle progress.device (passCalls remaining progress) := by
  induction remaining generalizing progress with
  | zero => rfl
  | succ remaining ih =>
    have stepped := step_device progress
    unfold QueueService.drain passCalls
    cases head : progress.queue.availHead progress.memory with
    | none =>
      rw [head] at stepped
      obtain ⟨error, failed⟩ := stepped
      rw [failed]
      rfl
    | some =>
      rw [head] at stepped
      rw [run_cons, ← stepped]
      generalize service.step progress = result
      obtain ⟨next, _ | _ | _⟩ := result
      · rfl
      · rfl
      · exact ih next

def callsOf (device : BlockDevice) (memory : GuestMemory) (queue : VirtQueue) : List Call :=
  passCalls (queue.pending memory) ⟨device, memory, queue, false⟩

theorem processQueue_device (queue : VirtQueue) :
    (service.processQueue device memory queue).1.device =
    run handle device (device.callsOf memory queue) := by
  refine Eq.trans ?_ (drain_device (queue.pending memory) ⟨device, memory, queue, false⟩)
  unfold QueueService.processQueue pending readAvailIdx tryRead
  split
  · rfl
  · cases memory.readBytes (queue.availRingAddr + 2) 2 with
    | error => rfl
    | ok =>
      dsimp only
      generalize service.drain _ _ = result
      obtain ⟨progress, _ | _⟩ := result
      · rfl
      · dsimp only
        repeat' split
        all_goals rfl

theorem mem_passCalls {remaining : Nat} {progress : Progress BlockDevice} {call : Call}
    (member : call ∈ passCalls remaining progress) :
    call.queue.availHead call.memory = some call.headIdx := by
  induction remaining generalizing progress with
  | zero => cases member
  | succ remaining ih =>
    unfold passCalls at member
    split at member
    · cases member
    · next headIdx present =>
        rcases mem_cons.mp member with rfl | later
        · exact present
        · split at later
          · exact ih later
          · cases later

end BlockDevice
end Visor.Block
