import Visor.Transport.VirtQueue

/-! The guest hands page frames to the balloon through the inflate queue and takes them back through
the deflate queue. Unlike the loops of the other devices, this one reads the avail index again
before every entry and keeps its used index in guest memory. -/

namespace Visor.Balloon
open Library

inductive BalloonError where
  | memory (error : MemoryError)

def balloonPageSize : Nat := 4096
def queueMaxSize : U16 := 128

structure BalloonDevice where
  availFeatures : U64
  ackedFeatures : U64
  inflateQueue : VirtQueue
  deflateQueue : VirtQueue
  activated : Bool
  targetPages : U32
  actualPages : U32
  totalInflated : U64
  totalDeflated : U64

/-- What a pass meets on the host: what a page reads as once it has been given back, and the
number of entries after which the pass is left. A guest that keeps the avail index ahead of
the loop, from another vCPU or by a used ring that overlaps it, is held off by nothing else. -/
structure BalloonHost where
  backing : Cells U8
  limit : Nat

structure DescInfo where
  addr : U64
  len : U32

def read (memory : GuestMemory) (addr : U64) (len : Nat) : Except BalloonError (List U8) :=
  match memory.readBytes addr len with
  | .error error => .error (.memory error)
  | .ok bytes => .ok bytes

def readDesc (memory : GuestMemory) (descTableAddr : U64) (idx : U16) : Except BalloonError DescInfo := do
  let bytes ← read memory (descTableAddr + idx.setWidth 64 * 16) 12
  return {
    addr := BitVec.ofNat 64 (leField bytes 0 8)
    len := BitVec.ofNat 32 (leField bytes 8 4) }

def nextAvailDesc (queue : VirtQueue) (memory : GuestMemory) : VirtQueue × Option (U16 × Nat) :=
  match read memory (queue.availRingAddr + 2) 2 with
  | .error _ => (queue, none)
  | .ok idxBytes =>
    if queue.lastAvailIdx = BitVec.ofNat 16 (leField idxBytes 0 2) then (queue, none)
    else
      match read memory queue.availEntryAddr 2 with
      | .error _ => (queue, none)
      | .ok entryBytes =>
        let descIdx := BitVec.ofNat 16 (leField entryBytes 0 2)
        match readDesc memory queue.descTableAddr descIdx with
        | .error _ => (queue, none)
        | .ok desc =>
          ({ queue with lastAvailIdx := queue.lastAvailIdx + 1 }, some (descIdx, desc.len.toNat / 4))

def addUsed (queue : VirtQueue) (memory : GuestMemory) (descIdx : U16) (len : U32) :
    VirtQueue × GuestMemory × Except BalloonError Unit :=
  let idxAddr := queue.usedRingAddr + 2
  match read memory idxAddr 2 with
  | .error error => (queue, memory, .error error)
  | .ok idxBytes =>
    let usedIdx := BitVec.ofNat 16 (leField idxBytes 0 2)
    let ringAddr := queue.usedRingAddr + 4 + (usedIdx % queue.size).setWidth 64 * 8
    match memory.writeBytes ringAddr (toLeBytes 4 descIdx.toNat ++ toLeBytes 4 len.toNat) with
    | .error error => (queue, memory, .error (.memory error))
    | .ok memory =>
      match memory.writeBytes idxAddr (toLeBytes 2 (usedIdx + 1).toNat) with
      | .error error => (queue, memory, .error (.memory error))
      | .ok memory => ({ queue with lastUsedIdx := usedIdx + 1 }, memory, .ok ())

/-- `madvise(MADV_DONTNEED)` on a page of the region; the kernel refuses an address that is
not on a page boundary. -/
def discardPage (backing : Cells U8) (memory : GuestMemory) (pfn : U32) : GuestMemory :=
  match memory.guestToHost (pfn.setWidth 64 * BitVec.ofNat 64 balloonPageSize) with
  | none => memory
  | some offset =>
    if offset % balloonPageSize ≠ 0 then memory
    else
      { memory with
        bytes := memory.bytes.write offset (backing.read offset balloonPageSize) }

/-- Frames of an inflate descriptor from `index` on: each page is given back and counted. -/
def inflatePages (backing : Cells U8) (addr : U64) : Nat → Nat → GuestMemory → U32 →
    GuestMemory × U32 × Except BalloonError Unit
  | 0, _, memory, pages => (memory, pages, .ok ())
  | remaining + 1, index, memory, pages =>
    match read memory (addr + BitVec.ofNat 64 (index * 4)) 4 with
    | .error error => (memory, pages, .error error)
    | .ok pfnBytes =>
      let memory := discardPage backing memory (BitVec.ofNat 32 (leField pfnBytes 0 4))
      inflatePages backing addr remaining (index + 1) memory (pages + 1)

abbrev Take := DescInfo → Nat → GuestMemory → U32 →
  GuestMemory × U32 × Except BalloonError Unit

def takeInflate (backing : Cells U8) : Take :=
  fun desc pfns memory pages => inflatePages backing desc.addr pfns 0 memory pages

def takeDeflate : Take := fun _ pfns memory pages => (memory, pages + saturateU32 pfns, .ok ())

structure Pass where
  queue : VirtQueue
  memory : GuestMemory
  pages : U32
  processed : Bool

def drain (take : Take) : Nat → Pass → Pass × Except BalloonError Unit
  | 0, pass => (pass, .ok ())
  | limit + 1, pass =>
    match nextAvailDesc pass.queue pass.memory with
    | (_, none) => (pass, .ok ())
    | (queue, some (descIdx, pfnCount)) =>
      match readDesc pass.memory queue.descTableAddr descIdx with
      | .error error => ({ pass with queue := queue }, .error error)
      | .ok desc =>
        let pfns := min pfnCount (desc.len.toNat / 4)
        match take desc pfns pass.memory pass.pages with
        | (memory, pages, .error error) => (⟨queue, memory, pages, pass.processed⟩, .error error)
        | (memory, pages, .ok ()) =>
          match addUsed queue memory descIdx 0 with
          | (queue, memory, .error error) => (⟨queue, memory, pages, pass.processed⟩, .error error)
          | (queue, memory, .ok ()) => drain take limit ⟨queue, memory, pages, true⟩

def runQueue (take : Take) (limit : Nat) (queue : VirtQueue) (memory : GuestMemory) :
    Pass × Except BalloonError Unit :=
  if !queue.ready || queue.size == 0 then (⟨queue, memory, 0, false⟩, .ok ())
  else drain take limit ⟨queue, memory, 0, false⟩

def saturatingAdd (value more : U32) : U32 := saturateU32 (value.toNat + more.toNat)
def saturatingSub (value less : U32) : U32 := BitVec.ofNat 32 (value.toNat - less.toNat)

namespace BalloonDevice
def new (initialTargetPages : U32) : BalloonDevice where
  availFeatures := virtioFVersion1
  ackedFeatures := 0
  inflateQueue := .new queueMaxSize
  deflateQueue := .new queueMaxSize
  activated := false
  targetPages := initialTargetPages
  actualPages := 0
  totalInflated := 0
  totalDeflated := 0

/-- The pages of a pass are counted only if it does not fail, although they are gone. -/
def processInflate (device : BalloonDevice) (host : BalloonHost) (memory : GuestMemory) :
    BalloonDevice × GuestMemory × Except BalloonError Bool :=
  match runQueue (takeInflate host.backing) host.limit device.inflateQueue memory with
  | (pass, .error error) => ({ device with inflateQueue := pass.queue }, pass.memory, .error error)
  | (pass, .ok ()) =>
    ({ device with
      inflateQueue := pass.queue
      actualPages := saturatingAdd device.actualPages pass.pages
      totalInflated := device.totalInflated + pass.pages.setWidth 64 }, pass.memory, .ok pass.processed)

def processDeflate (device : BalloonDevice) (host : BalloonHost) (memory : GuestMemory) :
    BalloonDevice × GuestMemory × Except BalloonError Bool :=
  match runQueue takeDeflate host.limit device.deflateQueue memory with
  | (pass, .error error) => ({ device with deflateQueue := pass.queue }, pass.memory, .error error)
  | (pass, .ok ()) =>
    ({ device with
      deflateQueue := pass.queue
      actualPages := saturatingSub device.actualPages pass.pages
      totalDeflated := device.totalDeflated + pass.pages.setWidth 64 }, pass.memory, .ok pass.processed)

def writeConfig (device : BalloonDevice) (offset : U64) (data : List U8) : BalloonDevice :=
  if offset = 4 ∧ data.length ≥ 4 then
    { device with actualPages := BitVec.ofNat 32 (leField data 0 4) }
  else device

def reset (device : BalloonDevice) : BalloonDevice :=
  { device with
    activated := false
    ackedFeatures := 0
    inflateQueue := device.inflateQueue.reset
    deflateQueue := device.deflateQueue.reset }

def processQueue (device : BalloonDevice) (host : BalloonHost) (queueIdx : Nat)
    (memory : GuestMemory) : BalloonDevice × GuestMemory × Except VirtioError Bool :=
  let failed (error : BalloonError) : VirtioError := match error with
    | .memory _ => .activationFailed
  match queueIdx with
  | 0 =>
    let (device, memory, result) := device.processInflate host memory
    (device, memory, result.mapError failed)
  | 1 =>
    let (device, memory, result) := device.processDeflate host memory
    (device, memory, result.mapError failed)
  | _ => (device, memory, .ok false)

end BalloonDevice
end Visor.Balloon
