import Visor.Transport.UsedRingProperties
import Visor.Fs.Path
import Visor.Library.KeyedMap

/-! Read-only passthrough of a host directory. The guest sends FUSE requests in the readable
descriptors of a chain and gets the reply in the writable ones. One pass over the queue meets one
state of the host's file system. -/

namespace Visor.Fs
open Library List AList VirtqDesc VirtQueue

inductive FsError where
  | memory (error : MemoryError)
  | invalidDescriptor (text : String)

instance : DescriptorErrors FsError where
  memory := .memory
  invalidDescriptor := .invalidDescriptor

structure Metadata where
  isDir : Bool
  size : U64
  mode : U32

/-- The host file system as the device sees it. An open file is read at an offset, up to
a number of bytes. -/
structure HostFs where
  metadata : Path → Option Metadata
  openFile : Path → Option (Nat → Nat → Option (List U8))
  readDir : Path → Option (List (List U8))

structure InodeEntry where
  path : Path
  isDir : Bool
  size : U64
  mode : U32
  ino : U64

structure FsDevice where
  sharedDir : Path
  requestQueue : VirtQueue
  activated : Bool
  inodes : KeyedMap U64 InodeEntry
  nextIno : U64
  nextFh : U64
  openHandles : KeyedMap U64 U64

def queueMaxSize : U16 := 256
def fuseRootId : U64 := 1
def fuseInHeaderSize : Nat := 40
def fuseOutHeaderSize : Nat := 16
def maxReadSize : Nat := 128 * 1024

inductive Errno where
  | enoent
  | enosys
  | enotdir
  | ebadf
  | eisdir

def Errno.toI32 : Errno → U32
  | .enoent => -2
  | .enosys => -38
  | .enotdir => -20
  | .ebadf => -9
  | .eisdir => -21

inductive Opcode where
  | lookup
  | forget
  | getattr
  | open
  | read
  | release
  | init
  | opendir
  | readdir
  | releasedir

def Opcode.fromU32 (code : U32) : Option Opcode :=
  if code = 1 then some .lookup
  else if code = 2 then some .forget
  else if code = 3 then some .getattr
  else if code = 14 then some .open
  else if code = 15 then some .read
  else if code = 18 then some .release
  else if code = 26 then some .init
  else if code = 27 then some .opendir
  else if code = 28 then some .readdir
  else if code = 29 then some .releasedir
  else none

def makeErrorResponse (unique : U64) (error : Errno) : List U8 :=
  toLeBytes 4 fuseOutHeaderSize ++ toLeBytes 4 error.toI32.toNat ++ toLeBytes 8 unique.toNat

def makeResponse (unique : U64) (payload : List U8) : List U8 :=
  let totalLen := fuseOutHeaderSize + payload.length
  let lenField := if totalLen < 2 ^ 32 then toLeBytes 4 totalLen else toLeBytes 4 0
  lenField ++ toLeBytes 4 0 ++ toLeBytes 8 unique.toNat ++ payload

def fuseAttr (entry : InodeEntry) : List U8 :=
  let blocks := (entry.size.toNat + 511) / 512
  let nlink := if entry.isDir then 2 else 1
  toLeBytes 8 entry.ino.toNat ++ toLeBytes 8 entry.size.toNat ++ toLeBytes 8 blocks ++
    replicate 16 0 ++ toLeBytes 4 entry.mode.toNat ++ toLeBytes 4 nlink ++
    replicate 40 0

def makeEntryOut (entry : InodeEntry) : List U8 :=
  toLeBytes 8 entry.ino.toNat ++ replicate 8 0 ++ toLeBytes 8 1 ++ toLeBytes 8 1 ++ replicate 8 0 ++
    fuseAttr entry

def dirent (ino : U64) (entryOffset : Nat) (isDir : Bool) (name : List U8) : List U8 :=
  let namelen := name.length
  let namelenField := if namelen < 2 ^ 32 then toLeBytes 4 namelen else toLeBytes 4 0
  let padding := (8 - namelen % 8) % 8
  toLeBytes 8 ino.toNat ++ toLeBytes 8 entryOffset ++ namelenField ++
    toLeBytes 4 (if isDir then 4 else 8) ++ name ++ replicate padding 0

namespace FsDevice
def new (host : HostFs) (sharedDir : Path) : Option FsDevice :=
  (host.metadata sharedDir).map fun found =>
    { sharedDir := sharedDir
      requestQueue := .new queueMaxSize
      activated := false
      inodes := insert fuseRootId ⟨sharedDir, found.isDir, found.size, found.mode, fuseRootId⟩ ∅
      nextIno := 2
      nextFh := 1
      openHandles := ∅ }

variable (device : FsDevice) (host : HostFs) (memory : GuestMemory) (queue : VirtQueue)
  (headIdx : U16) (unique : U64)

def getOrCreateInode (path : Path) : FsDevice × Option U64 :=
  match device.inodes.keys.find? fun ino => (device.inodes.lookup ino).any fun entry =>
    entry.path.sameAs path with
  | some ino => (device, some ino)
  | none =>
    match host.metadata path with
    | none => (device, none)
    | some found =>
      let ino := device.nextIno
      ({ device with
        nextIno := device.nextIno + 1
        inodes := device.inodes.insert ino ⟨path, found.isDir, found.size, found.mode, ino⟩ }, some ino)

def allocHandle (ino : U64) : FsDevice × U64 :=
  let fh := device.nextFh
  ({ device with
    nextFh := device.nextFh + 1
    openHandles := device.openHandles.insert fh ino }, fh)

def handleInit : List U8 :=
  makeResponse unique (toLeBytes 4 7 ++ toLeBytes 4 31 ++ toLeBytes 4 (128 * 1024) ++
    replicate 8 0 ++ toLeBytes 4 (128 * 1024) ++ replicate 40 0)

def handleLookup (unique parentIno : U64) (data : List U8) : FsDevice × List U8 :=
  match device.inodes.lookup parentIno with
  | none => (device, makeErrorResponse unique .enoent)
  | some parent =>
    if !parent.isDir then (device, makeErrorResponse unique .enotdir)
    else
      let name := data.takeWhile (· ≠ 0)
      if !isUtf8 name then (device, makeErrorResponse unique .enoent)
      else
        match device.getOrCreateInode host (parent.path.join name) with
        | (device, none) => (device, makeErrorResponse unique .enoent)
        | (device, some childIno) =>
          match device.inodes.lookup childIno with
          | none => (device, makeErrorResponse unique .enoent)
          | some child => (device, makeResponse unique (makeEntryOut child))

def handleGetattr (unique nodeid : U64) : List U8 :=
  match device.inodes.lookup nodeid with
  | none => makeErrorResponse unique .enoent
  | some entry => makeResponse unique (toLeBytes 8 1 ++ replicate 8 0 ++ fuseAttr entry)

def openInode (unique nodeid : U64) (wantDir : Bool) (error : Errno) : FsDevice × List U8 :=
  match device.inodes.lookup nodeid with
  | none => (device, makeErrorResponse unique .enoent)
  | some entry =>
    if entry.isDir != wantDir then (device, makeErrorResponse unique error)
    else
      let (device, fh) := device.allocHandle nodeid
      (device, makeResponse unique (toLeBytes 8 fh.toNat ++ replicate 8 0))

def handleOpen (unique nodeid : U64) : FsDevice × List U8 := device.openInode unique nodeid false .eisdir
def handleOpendir (unique nodeid : U64) : FsDevice × List U8 := device.openInode unique nodeid true .enotdir

structure ReadIn where
  fh : U64
  offset : U64
  size : U32

def ReadIn.parse (data : List U8) : Option ReadIn :=
  if data.length < 40 then none
  else some {
    fh := BitVec.ofNat 64 (leField data 0 8)
    offset := BitVec.ofNat 64 (leField data 8 8)
    size := BitVec.ofNat 32 (leField data 16 4) }

def handleRead (data : List U8) : List U8 :=
  match ReadIn.parse data with
  | none => makeErrorResponse unique .enosys
  | some request =>
    match device.openHandles.lookup request.fh with
    | none => makeErrorResponse unique .ebadf
    | some ino =>
      match device.inodes.lookup ino with
      | none => makeErrorResponse unique .enoent
      | some entry =>
        match host.openFile entry.path with
        | none => makeErrorResponse unique .enoent
        | some readAt =>
          if request.offset.toNat ≥ 2 ^ 63 then makeErrorResponse unique .ebadf
          else
            let readSize := min request.size.toNat maxReadSize
            match readAt request.offset.toNat readSize with
            | none => makeErrorResponse unique .ebadf
            | some bytes => makeResponse unique (bytes.take readSize)

/-- List the names that follow `skipped` entries, as far as they fit. An entry gets an
inode before it is known to fit. -/
def listFrom (host : HostFs) (dir : Path) (offset maxSize : Nat) : List (List U8) → Nat → FsDevice →
    List U8 → FsDevice × List U8
  | [], _, device, buf => (device, buf)
  | name :: rest, skipped, device, buf =>
    let entryOffset := skipped + 1
    if entryOffset ≤ offset then listFrom host dir offset maxSize rest entryOffset device buf
    else
      let childPath := dir.join name
      let (device, childIno) := device.getOrCreateInode host childPath
      let isDir := (host.metadata childPath).any Metadata.isDir
      let entry := dirent (childIno.getD 0) entryOffset isDir name
      if buf.length + entry.length > maxSize then (device, buf)
      else listFrom host dir offset maxSize rest entryOffset device (buf ++ entry)

def handleReaddir (data : List U8) : FsDevice × List U8 :=
  match ReadIn.parse data with
  | none => (device, makeErrorResponse unique .enosys)
  | some request =>
    match device.openHandles.lookup request.fh with
    | none => (device, makeErrorResponse unique .ebadf)
    | some ino =>
      match device.inodes.lookup ino with
      | none => (device, makeErrorResponse unique .enoent)
      | some entry =>
        if !entry.isDir then (device, makeErrorResponse unique .enotdir)
        else
          match host.readDir entry.path with
          | none => (device, makeErrorResponse unique .enoent)
          | some names =>
            let (device, buf) :=
              listFrom host entry.path request.offset.toNat request.size.toNat names 0 device []
            (device, makeResponse unique buf)

def handleRelease (data : List U8) : FsDevice × List U8 :=
  let device :=
    if data.length ≥ 8 then
      { device with
        openHandles := device.openHandles.erase (BitVec.ofNat 64 (leField data 0 8)) }
    else device
  (device, makeResponse unique [])

/-- The reply to a request with a complete header; FORGET has none. -/
def dispatch (requestData : List U8) : FsDevice × Option (List U8) :=
  let opcode := BitVec.ofNat 32 (leField requestData 4 4)
  let unique := BitVec.ofNat 64 (leField requestData 8 8)
  let nodeid := BitVec.ofNat 64 (leField requestData 16 8)
  let body := requestData.drop fuseInHeaderSize
  match Opcode.fromU32 opcode with
  | some .init => (device, some (handleInit unique))
  | some .lookup =>
    let (device, response) := device.handleLookup host unique nodeid body
    (device, some response)
  | some .getattr => (device, some (device.handleGetattr unique nodeid))
  | some .open =>
    let (device, response) := device.handleOpen unique nodeid
    (device, some response)
  | some .opendir =>
    let (device, response) := device.handleOpendir unique nodeid
    (device, some response)
  | some .read => (device, some (device.handleRead host unique body))
  | some .readdir =>
    let (device, response) := device.handleReaddir host unique body
    (device, some response)
  | some .release | some .releasedir =>
    let (device, response) := device.handleRelease unique body
    (device, some response)
  | some .forget => (device, none)
  | none => (device, some (makeErrorResponse unique .enosys))

def collectChain : Except FsError (List VirtqDesc × List VirtqDesc) := do
  let chain ← queue.walk (.invalidDescriptor "descriptor chain cycle detected") memory
    queue.size.toNat headIdx
  return (chain.filter fun desc => !desc.isWritable, chain.filter isWritable)

def readRequestData (memory : GuestMemory) : List VirtqDesc → Except FsError (List U8)
  | [] => .ok []
  | desc :: rest => do
    let bytes ← memory.tryRead desc.addr desc.len.toNat
    let more ← readRequestData memory rest
    return bytes ++ more

def writeResponseData : List VirtqDesc → GuestMemory → List U8 → U32 → GuestMemory × Except FsError U32
  | [], memory, _, written => (memory, .ok written)
  | desc :: rest, memory, data, written =>
    if data.isEmpty then (memory, .ok written)
    else
      let chunkLen := min desc.len.toNat data.length
      match memory.tryWrite desc.addr (data.take chunkLen) with
      | (memory, .error error) => (memory, .error error)
      | (memory, .ok ()) =>
        writeResponseData rest memory (data.drop chunkLen) (written + BitVec.ofNat 32 chunkLen)

def reply (writable : List VirtqDesc) (response : List U8) : GuestMemory × U32 :=
  let (memory, result) := writeResponseData writable memory response 0
  (memory, result.toOption.getD 0)

def processFuseRequest : FsDevice × GuestMemory × U32 :=
  match collectChain memory queue headIdx with
  | .error _ => (device, memory, 0)
  | .ok (readable, writable) =>
    match readRequestData memory readable with
    | .error _ => (device, memory, 0)
    | .ok requestData =>
      if requestData.length < fuseInHeaderSize then
        let (memory, written) := reply memory writable (makeErrorResponse 0 .enosys)
        (device, memory, written)
      else
        match device.dispatch host requestData with
        | (device, none) => (device, memory, 0)
        | (device, some response) =>
          let (memory, written) := reply memory writable response
          (device, memory, written)

def service (host : HostFs) : QueueService FsDevice Unit Unit FsError where
  poll device := (device, some ())
  serve device memory queue _ headIdx :=
    let (device, memory, written) := device.processFuseRequest host memory queue headIdx
    (device, memory, .ok (some (written, ())))
  settle device memory _ _ _ := (device, memory, .ok ())

def processQueue (device : FsDevice) (host : HostFs) (memory : GuestMemory) :
    FsDevice × GuestMemory × Bool :=
  let (progress, result) := (service host).processQueue device memory device.requestQueue
  ({ progress.device with
    requestQueue := { device.requestQueue with
      lastAvailIdx := progress.queue.lastAvailIdx
      lastUsedIdx := progress.queue.lastUsedIdx } }, progress.memory, result.toOption.getD false)

end FsDevice

/-! A reply goes into the writable descriptors of the chain, as far as they reach. Whatever
goes wrong with a request, its entry is completed. -/

namespace FsDevice
private theorem writeResponseData_filled (descs : List VirtqDesc) (memory : GuestMemory) (data : List U8)
    (written : U32) :
    ∃ spans counted, Filled descs memory (writeResponseData descs memory data written).1 spans
    counted ∧ ∀ total, (writeResponseData descs memory data written).2 = .ok total →
    total = written + BitVec.ofNat 32 counted := by
  induction descs generalizing memory data written with
  | nil =>
    refine ⟨[], 0, .none _ _, fun total done => ?_⟩
    cases done
    simp
  | cons desc rest ih =>
    unfold writeResponseData
    split
    · refine ⟨[], 0, .none _ _, fun total done => ?_⟩
      cases done
      simp
    · dsimp only
      have size : (data.take (min desc.len.toNat data.length)).length =
        min desc.len.toNat data.length := by simp
      refine (@GuestMemory.tryWrite_written FsError _ memory desc.addr
        (data.take (min desc.len.toNat data.length))).casesOn
        (fun _ => ?_) @fun between inside wrote _ => ?_
      · exact ⟨[], 0, .none _ _, nofun⟩
      · rw [size] at wrote
        obtain ⟨spans, counted, filled, counts⟩ := ih between
          (data.drop (min desc.len.toNat data.length))
          (written + BitVec.ofNat 32 (min desc.len.toNat data.length))
        have first := Filled.single (mem_cons_self (l := rest)) (Nat.min_le_left _ _) wrote
        refine ⟨_, _, first.append (filled.mono (subset_cons_self desc rest)), ?_⟩
        intro total done
        rw [counts total done, BitVec.ofNat_add, BitVec.add_assoc]

private theorem reply_filled (memory : GuestMemory) (descs : List VirtqDesc) (response : List U8) :
    ∃ spans, Filled descs memory (reply memory descs response).1 spans
    (reply memory descs response).2.toNat := by
  obtain ⟨spans, counted, filled, counts⟩ := writeResponseData_filled descs memory response 0
  unfold reply
  dsimp only
  refine ⟨spans, filled.fewer ?_⟩
  cases done : (writeResponseData descs memory response 0).2 with
  | error => exact Nat.zero_le _
  | ok total =>
    rw [counts total done]
    exact toNat_counter_le counted

theorem processFuseRequest_filled (device : FsDevice) (host : HostFs) (memory : GuestMemory)
    (queue : VirtQueue) (headIdx : U16) :
    ∃ spans, Filled ((queue.chain memory headIdx).filter isWritable) memory
    (device.processFuseRequest host memory queue headIdx).2.1 spans
    (device.processFuseRequest host memory queue headIdx).2.2.toNat := by
  unfold processFuseRequest collectChain
  refine (walk_walked (FsError.invalidDescriptor "descriptor chain cycle detected")
    memory queue queue.size.toNat headIdx).casesOn (fun _ => ?_)
    @fun descs present => ?_
  · exact ⟨[], .none _ _⟩
  · rw [chain_of_wholeChain present]
    simp only [bind, Except.bind, pure, Except.pure]
    split
    · exact ⟨[], .none _ _⟩
    · split
      · exact reply_filled memory _ _
      · split
        · exact ⟨[], .none _ _⟩
        · exact reply_filled memory _ _

theorem completes (host : HostFs) : Completes (service host) where
  poll _ := rfl
  serve device memory queue headIdx := by
    obtain ⟨spans, filled⟩ := device.processFuseRequest_filled host memory queue headIdx
    exact ⟨_, _, _, _, spans, rfl, filled.wrote, filled.inside.ofWritable.forChain⟩
  settle device _ _ _ _ := ⟨device, rfl⟩

end FsDevice

/-! A READDIR lists the names behind those that its offset counts, as far as they fit. So a guest that
always goes on from the last entry it has received gets the whole listing, whatever the sizes of
its requests. -/

structure Dirent where
  ino : U64
  offset : Nat
  isDir : Bool
  name : List U8

namespace Dirent
def bytes (entry : Dirent) : List U8 := dirent entry.ino entry.offset entry.isDir entry.name

/-- The bytes hold the offset, the length of the name and the name, and end where the next entry
may begin. -/
structure Exact (entry : Dirent) : Prop where
  offset : leField entry.bytes 8 8 = entry.offset
  namelen : leField entry.bytes 16 4 = entry.name.length
  name : (entry.bytes.drop 24).take entry.name.length = entry.name
  aligned : entry.bytes.length % 8 = 0

theorem length_dirent (ino : U64) (offset : Nat) (isDir : Bool) (name : List U8) :
    (dirent ino offset isDir name).length = 24 + (name.length + 7) / 8 * 8 := by
  simp only [dirent, apply_ite length, length_toLeBytes, ite_self, length_append, length_replicate]
  omega

theorem exact_of_lt {entry : Dirent} (counted : entry.offset < 2 ^ 64)
    (short : entry.name.length < 2 ^ 32) : entry.Exact := by
  obtain ⟨ino, offset, isDir, name⟩ := entry
  have size := length_dirent ino offset isDir name
  refine ⟨?_, ?_, ?_, by simp only [bytes, size]; omega⟩
  all_goals simp_all [bytes, dirent, leField, drop_append, drop_eq_nil_of_le, fromLeBytes_toLeBytes]

end Dirent

namespace FsDevice
variable {host : HostFs} {dir : Path}

theorem listFrom_lists (offset maxSize : Nat) (names : List (List U8)) (skipped : Nat)
    (device : FsDevice) (buf : List U8) :
    ∃ page : List Dirent, (listFrom host dir offset maxSize names skipped device buf).2 = buf ++
    page.flatMap Dirent.bytes ∧ page.map Dirent.name <+: names.drop (offset - skipped) ∧
    page.map Dirent.offset = range' (max offset skipped + 1) page.length ∧
    (page ≠ [] → buf.length + (page.flatMap Dirent.bytes).length ≤ maxSize) ∧
    (page = [] → ∀ name ∈ (names.drop (offset - skipped)).head?,
      maxSize < buf.length + (dirent 0 0 false name).length) := by
  fun_induction listFrom host dir offset maxSize names skipped device buf with
  | case1 => exact ⟨[], by simp⟩
  | case2 name rest skipped device buf entryOffset early ih =>
    have passed : offset - skipped = (offset - (skipped + 1)) + 1 := by omega
    rw [passed, drop_succ_cons, max_eq_left (by omega)]
    rwa [max_eq_left early] at ih
  | case3 name rest skipped device buf entryOffset late _ _ _ _ _ _ full =>
    rw [Nat.sub_eq_zero_of_le (by omega)]
    rw [Dirent.length_dirent] at full
    exact ⟨[], by simpa [Dirent.length_dirent] using full⟩
  | case4 name rest skipped device buf entryOffset late _ _ _ _ isDir entry fits ih =>
    rw [Nat.sub_eq_zero_of_le (by omega), max_eq_right (by omega)]
    rw [Nat.sub_eq_zero_of_le (by omega), max_eq_right (by omega)] at ih
    obtain ⟨page, listed, ordered, offsets, within, _⟩ := ih
    refine ⟨⟨_, entryOffset, isDir, name⟩ :: page, by simpa [Dirent.bytes] using listed,
      (prefix_cons_inj name).mpr ordered, by simpa [entryOffset, range'_succ] using offsets,
        fun _ => ?_, nofun⟩
    by_cases last : page = []
    · simpa [entry, last, Dirent.bytes] using fits
    · simpa [entry, Dirent.bytes, Nat.add_assoc] using within last

/-- A READDIR of the directory, which the host lists as these names. -/
structure ReaddirCall (dir : Path) (names : List (List U8)) where
  device : FsDevice
  host : HostFs
  unique : U64
  data : List U8
  read : ReadIn
  parsed : ReadIn.parse data = some read
  isOpen : ∃ ino entry, device.openHandles.lookup read.fh = some ino ∧
    device.inodes.lookup ino = some entry ∧ entry.isDir = true ∧ entry.path = dir
  listed : host.readDir dir = some names

/-- A reply without an error: a header of 16 bytes with the length, if it can be written, and the
number of the request, and the payload behind it. -/
structure Carries (reply : List U8) (unique : U64) (payload : List U8) : Prop where
  length : reply.length = 16 + payload.length
  written : reply.length < 2 ^ 32 → leField reply 0 4 = reply.length
  noError : leField reply 4 4 = 0
  unique : leField reply 8 8 = unique.toNat
  payload : reply.drop 16 = payload

theorem carries_makeResponse (unique : U64) (payload : List U8) :
    Carries (makeResponse unique payload) unique payload := by
  obtain ⟨count, isReply, written⟩ : ∃ count,
      makeResponse unique payload =
        toLeBytes 4 count ++ toLeBytes 4 0 ++ toLeBytes 8 unique.toNat ++ payload ∧
      (16 + payload.length < 2 ^ 32 → count = 16 + payload.length) := by
    by_cases short : fuseOutHeaderSize + payload.length < 2 ^ 32
    · exact ⟨16 + payload.length, by simp only [makeResponse, if_pos short]; rfl, fun _ => rfl⟩
    · exact ⟨0, by simp only [makeResponse, if_neg short], fun fits => absurd fits short⟩
  have size : (makeResponse unique payload).length = 16 + payload.length := by
    simp [isReply, ← Nat.add_assoc]
  have small : unique.toNat < 18446744073709551616 := unique.isLt
  refine ⟨size, fun short => ?_, ?_, ?_, ?_⟩
  · rw [size] at short ⊢
    rw [isReply, written short]
    simpa [leField, fromLeBytes_toLeBytes] using short
  all_goals
    rw [isReply]
    simp [leField, drop_append, drop_eq_nil_of_le, fromLeBytes_toLeBytes, small]

/-- The entries that a reply brings to a guest that has received some already. There are none only
if it has them all. -/
structure Brings {names : List (List U8)} (call : ReaddirCall dir names)
    (received page : List Dirent) : Prop where
  reply : Carries (call.device.handleReaddir call.host call.unique call.data).2 call.unique
    (page.flatMap Dirent.bytes)
  size : (page.flatMap Dirent.bytes).length ≤ call.read.size.toNat
  exact : ∀ entry ∈ page, entry.Exact
  ordered : (received ++ page).map Dirent.name <+: names
  ends : page = [] ↔ received.length = names.length

/-- Whatever the guest asks, from the offset of the last entry received and with room for the next
one, it gets what follows. -/
def Paginates (dir : Path) (names : List (List U8)) : Nat → List Dirent → Prop
  | 0, _ => True
  | calls + 1, received =>
    ∀ call : ReaddirCall dir names, call.read.offset.toNat = (received.getLast?.map Dirent.offset).getD 0 →
    (∀ name ∈ names[received.length]?, (dirent 0 0 false name).length ≤ call.read.size.toNat) →
    ∃ page, Brings call received page ∧ Paginates dir names calls (received ++ page)

theorem readdir_brings {names : List (List U8)} (countable : names.length < 2 ^ 64)
    (call : ReaddirCall dir names) {received : List Dirent}
    (ordered : received.map Dirent.name <+: names)
    (offsets : received.map Dirent.offset = range' 1 received.length)
    (continues : call.read.offset.toNat = received.length)
    (roomy : ∀ name ∈ names[received.length]?, (dirent 0 0 false name).length ≤
      call.read.size.toNat) : ∃ page, Brings call received page ∧
    (received ++ page).map Dirent.offset = range' 1 (received ++ page).length := by
  obtain ⟨rest, rfl⟩ := ordered
  obtain ⟨ino, entry, isOpen, found, isDir, rfl⟩ := call.isOpen
  obtain ⟨page, listed, front, further, within, none⟩ := @listFrom_lists call.host entry.path
    call.read.offset.toNat call.read.size.toNat (received.map Dirent.name ++ rest) 0 call.device []
  rw [continues, Nat.sub_zero, drop_left' (length_map _)] at front none
  rw [continues, Nat.max_zero] at further
  have size : (page.flatMap Dirent.bytes).length ≤ call.read.size.toNat := by
    by_cases empty : page = []
    · simp [empty]
    · simpa using within empty
  have count := front.length_le
  rw [length_append, length_map] at countable
  rw [length_map] at count
  refine ⟨page, ⟨?_, size, fun entry member => ?_, ?_, ?_⟩, ?_⟩
  · have answered : (call.device.handleReaddir call.host call.unique call.data).2 =
        makeResponse call.unique (page.flatMap Dirent.bytes) := by
      simp [handleReaddir, call.parsed, isOpen, found, isDir, call.listed, listed]
    rw [answered]
    exact carries_makeResponse _ _
  · have counted : entry.offset ∈ range' (received.length + 1) page.length :=
      further ▸ mem_map_of_mem member
    have fits : entry.bytes.length ≤ (page.flatMap Dirent.bytes).length :=
      (sublist_flatten_of_mem (mem_map_of_mem member)).length_le
    rw [mem_range'_1] at counted
    rw [Dirent.bytes, Dirent.length_dirent] at fits
    exact Dirent.exact_of_lt (by omega) (by omega)
  · rw [map_append]
    exact (prefix_append_right_inj _).mpr front
  · rw [length_append, length_map]
    constructor
    · intro empty
      cases rest with
      | nil => rfl
      | cons name rest =>
        have room := roomy name (by simp)
        exact absurd room (by simpa using none empty name rfl)
    · intro all
      exact eq_nil_of_length_eq_zero (by omega)
  · rw [map_append, offsets, further, length_append, Nat.add_comm received.length 1, range'_append_1]

/-- A READDIR with room for one entry in a directory with `a` and `b`. -/
def firstOfTwo : ReaddirCall [] [[0x61], [0x62]] where
  device := ⟨[], .new queueMaxSize, true, insert 1 ⟨[], true, 0, 0x41ed, 1⟩ ∅, 2, 2, insert 1 1 ∅⟩
  host := ⟨fun _ => none, fun _ => none, fun _ => some [[0x61], [0x62]]⟩
  unique := 7
  data := toLeBytes 8 1 ++ toLeBytes 8 0 ++ toLeBytes 4 32 ++ replicate 20 0
  read := ⟨1, 0, 32⟩
  parsed := rfl
  isOpen := ⟨1, _, rfl, rfl, rfl, rfl⟩
  listed := rfl

end FsDevice
end Visor.Fs
