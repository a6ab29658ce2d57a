import Visor.Transport.AvailLoop
import Visor.Transport.Chain

/-! Request processing of the virtio block device. A request is a chain of a header, data buffers
and a status byte. The status is written with the request, and once more, by a second walk along the
chain, after the used entry. -/

namespace Visor.Block
open Library

/-! A regular file with a cursor. Reads past the end fail, writes past the end extend the
file, and the gap a write leaves reads as zero. The file also records the ranges that were
read or written and the offsets that were sought, the last one first; nothing reads that
record, it only serves to state what was accessed. -/

inductive DiskError where
  | unexpectedEof
  | invalidInput
  | fileTooLarge

structure DiskFile where
  bytes : Cells U8
  length : Nat
  position : Nat
  accesses : List Span := []
  seeks : List Nat := []

def maxFileOffset : Nat := 2 ^ 63

namespace DiskFile
variable (file : DiskFile)

def seek (offset : U64) : DiskFile × Except DiskError Unit :=
  let file := { file with seeks := offset.toNat :: file.seeks }
  if offset.toNat ≥ maxFileOffset then (file, .error .invalidInput)
  else ({ file with position := offset.toNat }, .ok ())

def readExact (count : Nat) : DiskFile × Except DiskError (List U8) :=
  if count = 0 then (file, .ok [])
  else if file.position + count ≤ file.length then
    ({ file with
      position := file.position + count
      accesses := ⟨file.position, count⟩ :: file.accesses }, .ok (file.bytes.read file.position count))
  else
    -- What is left of the file has been read when the end is met.
    ({ file with
      position := max file.position file.length
      accesses := ⟨file.position, file.length - file.position⟩ :: file.accesses }, .error .unexpectedEof)

def padded : Cells U8 :=
  fun offset => if file.length ≤ offset ∧ offset < file.position then 0 else file.bytes offset

def writeAll (data : List U8) : DiskFile × Except DiskError Unit :=
  if data.isEmpty then (file, .ok ())
  else if file.position + data.length ≥ maxFileOffset then (file, .error .fileTooLarge)
  else
    ({ file with
      bytes := file.padded.write file.position data
      length := max file.length (file.position + data.length)
      position := file.position + data.length
      accesses := ⟨file.position, data.length⟩ :: file.accesses }, .ok ())

end DiskFile

inductive BlockError where
  | io (error : DiskError)
  | memory (error : MemoryError)
  | invalidDescriptor (text : String)

instance : DescriptorErrors BlockError where
  memory := .memory
  invalidDescriptor := .invalidDescriptor

def sectorSize : Nat := 512
def deviceIdLen : Nat := 20

inductive RequestType where
  | read
  | write
  | flush
  | getId
  | unsupported (code : U32)
deriving DecidableEq

def RequestType.ofU32 (code : U32) : RequestType :=
  if code = 0 then .read
  else if code = 1 then .write
  else if code = 4 then .flush
  else if code = 8 then .getId
  else .unsupported code

def statusOk : U8 := 0
def statusIoErr : U8 := 1
def statusUnsupp : U8 := 2
abbrev DeviceId := { bytes : List U8 // bytes.length = deviceIdLen }

structure BlockDevice where
  diskFile : DiskFile
  numSectors : Nat
  readOnly : Bool
  deviceId : DeviceId
  queue : VirtQueue
  activated : Bool

def queueMaxSize : U16 := 256

namespace BlockDevice
/-- The device for an open file; the identifier is the text made from its metadata, cut or
padded to length. -/
def new (diskFile : DiskFile) (readOnly : Bool) (idText : List U8) : BlockDevice where
  diskFile := { diskFile with position := diskFile.length }
  numSectors := diskFile.length / sectorSize
  readOnly := readOnly
  deviceId := ⟨(idText ++ List.replicate deviceIdLen 0).take deviceIdLen, by simp⟩
  queue := .new queueMaxSize
  activated := false

structure Handled where
  device : BlockDevice
  memory : GuestMemory
  totalWritten : U32
  result : Except BlockError U8

def readInto : List VirtqDesc → BlockDevice → GuestMemory → U32 → Handled
  | [], device, memory, total => ⟨device, memory, total, .ok statusOk⟩
  | desc :: rest, device, memory, total =>
    if !desc.isWritable then ⟨device, memory, total, .ok statusIoErr⟩
    else
      match device.diskFile.readExact desc.len.toNat with
      | (file, .error error) => ⟨{ device with diskFile := file }, memory, total, .error (.io error)⟩
      | (file, .ok buf) =>
        match memory.tryWrite desc.addr buf with
        | (memory, .error error) => ⟨{ device with diskFile := file }, memory, total, .error error⟩
        | (memory, .ok ()) => readInto rest { device with diskFile := file } memory (total + desc.len)

variable (device : BlockDevice) (memory : GuestMemory) (queue : VirtQueue) (headIdx : U16)

def handleRead (dataDescs : List VirtqDesc) (sector : U64) : Handled :=
  match device.diskFile.seek (sector * BitVec.ofNat 64 sectorSize) with
  | (file, .error error) => ⟨{ device with diskFile := file }, memory, 0, .error (.io error)⟩
  | (file, .ok ()) => readInto dataDescs { device with diskFile := file } memory 0

def writeFrom : List VirtqDesc → BlockDevice → GuestMemory → Handled
  | [], device, memory => ⟨device, memory, 0, .ok statusOk⟩
  | desc :: rest, device, memory =>
    if desc.isWritable then ⟨device, memory, 0, .ok statusIoErr⟩
    else
      match memory.tryRead desc.addr desc.len.toNat with
      | .error error => ⟨device, memory, 0, .error error⟩
      | .ok buf =>
        match device.diskFile.writeAll buf with
        | (file, .error error) => ⟨{ device with diskFile := file }, memory, 0, .error (.io error)⟩
        | (file, .ok ()) => writeFrom rest { device with diskFile := file } memory

def handleWrite (dataDescs : List VirtqDesc) (sector : U64) : Handled :=
  if device.readOnly then ⟨device, memory, 0, .ok statusIoErr⟩
  else
    match device.diskFile.seek (sector * BitVec.ofNat 64 sectorSize) with
    | (file, .error error) => ⟨{ device with diskFile := file }, memory, 0, .error (.io error)⟩
    | (file, .ok ()) => writeFrom dataDescs { device with diskFile := file } memory

def handleFlush : Handled := ⟨device, memory, 0, .ok statusOk⟩

def handleGetId (device : BlockDevice) : List VirtqDesc → GuestMemory → U32 → Handled
  | [], memory, total => ⟨device, memory, total, .ok statusOk⟩
  | desc :: rest, memory, total =>
    if !desc.isWritable then ⟨device, memory, total, .ok statusIoErr⟩
    else
      let len := min desc.len.toNat deviceIdLen
      match memory.tryWrite desc.addr (device.deviceId.val.take len) with
      | (memory, .error error) => ⟨device, memory, total, .error error⟩
      | (memory, .ok ()) => handleGetId device rest memory (total + BitVec.ofNat 32 len)

def perform (requestType : RequestType) (dataDescs : List VirtqDesc) (sector : U64) : Handled :=
  match requestType with
  | .read => device.handleRead memory dataDescs sector
  | .write => device.handleWrite memory dataDescs sector
  | .flush => device.handleFlush memory
  | .getId => device.handleGetId dataDescs memory 0
  | .unsupported _ => ⟨device, memory, 0, .ok statusUnsupp⟩

structure Request where
  requestType : RequestType
  sector : U64
  dataDescs : List VirtqDesc
  statusDesc : VirtqDesc

def readRequest : Except BlockError Request := do
  let headerDesc ← queue.readDesc memory headIdx
  if headerDesc.isWritable then
    throw (.invalidDescriptor "header descriptor has WRITE flag")
  if headerDesc.len.toNat < 16 then
    throw (.invalidDescriptor "header too small (need 16 bytes)")
  if !headerDesc.hasNext then
    throw (.invalidDescriptor "header has no NEXT descriptor")
  let hdrBytes ← memory.tryRead headerDesc.addr 16
  let chain ← queue.walk (.invalidDescriptor "descriptor chain cycle detected") memory
    queue.size.toNat headerDesc.next
  let some statusDesc := chain.getLast?
    | throw (.invalidDescriptor "no data or status descriptors")
  if !statusDesc.isWritable then
    throw (.invalidDescriptor "status descriptor missing WRITE flag")
  return {
    requestType := .ofU32 (BitVec.ofNat 32 (leField hdrBytes 0 4))
    sector := BitVec.ofNat 64 (leField hdrBytes 8 8)
    dataDescs := chain.dropLast
    statusDesc := statusDesc }

def processOneRequestInner : BlockDevice × GuestMemory × Except BlockError (U8 × U32) :=
  match readRequest memory queue headIdx with
  | .error error => (device, memory, .error error)
  | .ok request =>
    let handled := device.perform memory request.requestType request.dataDescs request.sector
    match handled.result with
    | .error error => (handled.device, handled.memory, .error error)
    | .ok status =>
      match handled.memory.tryWrite request.statusDesc.addr [status] with
      | (memory, .error error) => (handled.device, memory, .error error)
      | (memory, .ok ()) => (handled.device, memory, .ok (status, handled.totalWritten + 1))

/-- A request that fails is answered with an I/O error. -/
def processOneRequest : BlockDevice × GuestMemory × U8 × U32 :=
  match device.processOneRequestInner memory queue headIdx with
  | (device, memory, .ok (status, written)) => (device, memory, status, written)
  | (device, memory, .error _) => (device, memory, statusIoErr, 0)

def writeStatusForChain (status : U8) : GuestMemory × Except BlockError Unit :=
  match queue.walk (.invalidDescriptor "descriptor chain cycle in status write") memory
    queue.size.toNat headIdx with
  | .error error => (memory, .error error)
  | .ok chain =>
    match chain.getLast? with
    | none => (memory, .ok ())
    | some desc => memory.tryWrite desc.addr [status]

def service : QueueService BlockDevice Unit U8 BlockError where
  poll device := (device, some ())
  serve device memory queue _ headIdx :=
    let (device, memory, status, written) := device.processOneRequest memory queue headIdx
    (device, memory, .ok (some (written, status)))
  settle device memory queue headIdx status :=
    let (memory, result) := writeStatusForChain memory queue headIdx status
    (device, memory, result)

def processQueue (device : BlockDevice) (memory : GuestMemory) : BlockDevice × GuestMemory × Bool :=
  let (progress, result) := service.processQueue device memory device.queue
  ({ progress.device with
    queue := { device.queue with
      lastAvailIdx := progress.queue.lastAvailIdx
      lastUsedIdx := progress.queue.lastUsedIdx } }, progress.memory, result.toOption.getD false)

end BlockDevice
end Visor.Block
