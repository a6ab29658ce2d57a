import Visor.Block.DeviceProperties
import Visor.Fs.Device
import Visor.Net.DeviceProperties
import Visor.Rng.Device
import Visor.Transport.Publication
import Visor.Vsock.Permission

/-! For every loop, what must hold of the chain at a head so that the device writes only where the
guest allows it, and reports no more than it wrote there. -/

namespace Visor
open Library VirtQueue QueueService Forecast List VirtqDesc

/-! The loops by which the devices drain their queues, and what a guest finds in the used ring
when one of them returns. -/

namespace QueueService
variable {Device Token Note Error : Type} [DescriptorErrors Error]
  (service : QueueService Device Token Note Error)

theorem step_position (progress : Progress Device) : (service.step progress).1.queue = progress.queue ∨
    (service.step progress).1.queue = progress.queue.advance := by
  unfold step
  dsimp only
  repeat' split
  all_goals first
    | exact .inl rfl
    | exact .inr rfl

private theorem drain_position (remaining : Nat) (progress : Progress Device) :
    ∃ count, (service.drain remaining progress).1.queue = progress.queue.advanceBy count := by
  induction remaining generalizing progress with
  | zero => exact ⟨0, progress.queue.advanceBy_zero.symm⟩
  | succ remaining ih =>
    have moved : ∃ count, (service.step progress).1.queue = progress.queue.advanceBy count := by
      rcases service.step_position progress with same | advanced
      · exact ⟨0, by rw [same, advanceBy_zero]⟩
      · refine ⟨1, ?_⟩
        rw [advanced, ← advance_advanceBy, advanceBy_zero]
    unfold drain
    generalize service.step progress = stepped at moved ⊢
    obtain ⟨next, _ | _ | _⟩ := stepped
    · exact moved
    · exact moved
    · obtain ⟨first, position⟩ := moved
      obtain ⟨more, final⟩ := ih next
      refine ⟨first + more, ?_⟩
      rw [final, position]
      simp only [advanceBy, BitVec.ofNat_add, BitVec.add_assoc]

theorem processQueue_position (device : Device) (memory : GuestMemory) (queue : VirtQueue) :
    ∃ count, (service.processQueue device memory queue).1.queue = queue.advanceBy count := by
  have idle : ∃ count, queue = queue.advanceBy count := ⟨0, queue.advanceBy_zero.symm⟩
  unfold processQueue
  dsimp only
  split
  · exact idle
  · split
    · exact idle
    next availIdx _ =>
      have drained :=
        service.drain_position (availIdx - queue.lastAvailIdx).toNat ⟨device, memory, queue, false⟩
      generalize service.drain _ _ = result at drained ⊢
      obtain ⟨progress, _ | _⟩ := result
      · exact drained
      · dsimp only
        repeat' split
        all_goals exact drained

end QueueService

open Block Fs Net Rng Vsock

/-- A loop over one queue of a device, with what it depends on besides the guest memory. -/
inductive QueueLoop where
  | block (device : BlockDevice)
  | rng (device : RngDevice)
  | netRx (device : NetDevice)
  | netTx (device : NetDevice)
  | vsockRx (order : List ConnMapKey) (now : Nat) (device : VsockDevice)
  | vsockTx (now : Nat) (device : VsockDevice)
  | fs (host : HostFs) (device : FsDevice)

namespace QueueLoop
def queue : QueueLoop → VirtQueue
  | .block device => device.queue
  | .rng device => device.queue
  | .netRx device => device.rxQueue
  | .netTx device => device.txQueue
  | .vsockRx _ _ device => device.rxQueue
  | .vsockTx _ device => device.txQueue
  | .fs _ device => device.requestQueue

def run (memory : GuestMemory) : QueueLoop → GuestMemory × VirtQueue
  | .block device =>
    let (device, memory, _) := device.processQueue memory
    (memory, device.queue)
  | .rng device =>
    let (device, memory, _) := device.processQueue memory
    (memory, device.queue)
  | .netRx device =>
    let (device, memory, _) := device.processQueue .rx memory
    (memory, device.rxQueue)
  | .netTx device =>
    let (device, memory, _) := device.processQueue .tx memory
    (memory, device.txQueue)
  | .vsockRx order now device =>
    let (device, memory, _) := device.runRx memory order now
    (memory, device.rxQueue)
  | .vsockTx now device =>
    let (device, memory, _) := device.runTx memory now
    (memory, device.txQueue)
  | .fs host device =>
    let (device, memory, _) := device.processQueue host memory
    (memory, device.requestQueue)

/-- What becomes of the pending entries, by the guest memory before the loop. -/
def verdicts (memory : GuestMemory) : QueueLoop → List Verdict
  | .block device => BlockDevice.forecast.pass memory device.queue ()
  | .rng device => RngDevice.forecast.pass memory device.queue device.entropySource
  | .netRx device =>
    if device.packetIo.isNone then []
    else NetDevice.rxForecast.pass memory device.rxQueue device
  | .netTx device => if device.packetIo.isNone then [] else always.pass memory device.txQueue ()
  | .vsockRx order now device => (VsockDevice.rxForecast order now).pass memory device.rxQueue device
  | .vsockTx _ device => always.pass memory device.txQueue ()
  | .fs _ device => always.pass memory device.requestQueue ()

variable {Device Token Note Error State : Type} [DescriptorErrors Error] {memory : GuestMemory}

private theorem publishes {service : QueueService Device Token Note Error} {forecast : Forecast State Token}
    {view : Device → State}
    {queue : VirtQueue} (layout : queue.pending memory ≠ 0 → Layout memory queue)
    (foretold : Foretells forecast service view) (device : Device)
    (inStep : InStep memory queue (forecast.pass memory queue (view device))) :
    queue.Published memory (service.processQueue device memory queue).1.memory { queue with
    lastAvailIdx := (service.processQueue device memory queue).1.queue.lastAvailIdx
    lastUsedIdx := (service.processQueue device memory queue).1.queue.lastUsedIdx } ↔
    Orderly (forecast.pass memory queue (view device)) := by
  rw [← published_iff_orderly layout foretold device inStep]
  obtain ⟨count, position⟩ := service.processQueue_position device memory queue
  rw [position]
  rfl

/-- When a loop returns, the guest sees exactly the entries consumed, if and only if no entry
fails once an entry has been consumed. -/
theorem published_iff (loop : QueueLoop)
    (layout : loop.queue.pending memory ≠ 0 → Layout memory loop.queue)
    (inStep : InStep memory loop.queue (loop.verdicts memory)) :
    loop.queue.Published memory (loop.run memory).1 (loop.run memory).2 ↔
    Orderly (loop.verdicts memory) := by
  have nothing (idle : loop.run memory = (memory, loop.queue)) (empty : loop.verdicts memory = []) :
    loop.queue.Published memory (loop.run memory).1 (loop.run memory).2 ↔
      Orderly (loop.verdicts memory) := by
    rw [empty] at inStep
    rw [idle, empty]
    refine iff_of_true ?_ (by decide)
    exact published_none (inStep.counted (by simp)) ⟨.refl loop.queue memory, nofun, nofun⟩
  cases loop with
  | block device => exact publishes layout BlockDevice.foretells device inStep
  | rng device => exact publishes layout RngDevice.foretells device inStep
  | netRx device =>
    by_cases absent : device.packetIo.isNone
    · apply nothing
      · simp [run, NetDevice.processQueue, absent, queue]
      · simp [verdicts, absent]
    · simp only [run, NetDevice.processQueue, absent, verdicts] at inStep ⊢
      exact publishes layout NetDevice.foretells_rxService device inStep
  | netTx device =>
    by_cases absent : device.packetIo.isNone
    · apply nothing
      · simp [run, NetDevice.processQueue, absent, queue]
      · simp [verdicts, absent]
    · simp only [run, NetDevice.processQueue, absent, verdicts] at inStep ⊢
      exact publishes layout NetDevice.completes_txService.foretells device inStep
  | vsockRx order now device => 
    exact publishes layout (VsockDevice.foretells_rxService order now) device inStep
  | vsockTx now device => 
    exact publishes layout (VsockDevice.completes_txService now).foretells device inStep
  | fs host device => exact publishes layout (FsDevice.completes host).foretells device inStep

theorem not_published_of_stale {before after : GuestMemory} {queue next : VirtQueue}
    {shown last : U16} (seen : next.usedIdx after = some shown) (position : next.lastUsedIdx = last)
    (stale : shown ≠ last) : ¬ queue.Published before after next := by
  intro published
  have index := published.index
  rw [seen, position, Option.some.injEq] at index
  exact stale index

/-- A queue of two descriptors. The first is a writable buffer of four bytes; the avail ring
holds it and then the head given. -/
def twoEntries (secondHead : U8) : GuestMemory where
  guestBase := 0
  size := 512
  bytes address :=
    if address = 1 then 1
    else if address = 8 then 4
    else if address = 12 then 2
    else if address = 66 then 2
    else if address = 70 then secondHead
    else 0

def twoEntriesQueue : VirtQueue where
  maxSize := 256
  size := 2
  ready := true
  descTableAddr := 0
  availRingAddr := 64
  usedRingAddr := 128
  lastAvailIdx := 0
  lastUsedIdx := 0

def steadySource : QueueLoop := .rng {
  entropySource := ⟨fun _ => some 7, 0⟩
  queue := twoEntriesQueue
  activated := true }

theorem layout_twoEntries {secondHead : U8}
    (chains : ((twoEntriesQueue.pendingHeads (twoEntries secondHead)).map
      (twoEntriesQueue.chain (twoEntries secondHead))).flatten ⊆ [⟨256, 4, 2, 0⟩]) : Layout
    (twoEntries secondHead) twoEntriesQueue where
  together := rfl
  availFits := by decide
  usedFits := by decide
  tableFits := by decide
  usedAvail := by decide
  usedTable := by decide
  buffers headIdx member desc inChain := by
    have listed := chains (mem_flatten_of_mem (mem_map_of_mem member) inChain)
    rw [mem_singleton.mp listed]
    decide

theorem published_twice :
    steadySource.queue.Published (twoEntries 0) (steadySource.run (twoEntries 0)).1
    (steadySource.run (twoEntries 0)).2 :=
  (published_iff steadySource (fun _ => layout_twoEntries (by decide +kernel)) (by decide +kernel)).mpr
    (by decide +kernel)

/-- The second head names no descriptor: the first entry is consumed and never shown. -/
theorem consumed_entry_unpublished :
    Layout (twoEntries 5) steadySource.queue ∧ steadySource.queue.usedIdx (twoEntries 5) = some 0 ∧
    (steadySource.run (twoEntries 5)).2.lastUsedIdx = 1 ∧
    (steadySource.run (twoEntries 5)).2.usedIdx (steadySource.run (twoEntries 5)).1 = some 0 ∧
    ¬ steadySource.queue.Published (twoEntries 5) (steadySource.run (twoEntries 5)).1
    (steadySource.run (twoEntries 5)).2 := by
  have layout : Layout (twoEntries 5) twoEntriesQueue := layout_twoEntries (by decide +kernel)
  have lastUsed : (steadySource.run (twoEntries 5)).2.lastUsedIdx = 1 := by decide +kernel
  have shown : (steadySource.run (twoEntries 5)).2.usedIdx (steadySource.run (twoEntries 5)).1 =
    some 0 := by decide +kernel
  exact ⟨layout, by decide +kernel, lastUsed, shown, not_published_of_stale shown lastUsed (by decide)⟩

end QueueLoop

open List Block Fs Net Rng Vsock
variable {memory : GuestMemory} {queue : VirtQueue} {headIdx : U16}
namespace Rng.RngDevice
private theorem serve_eq (device : RngDevice) : service.serve device memory queue () headIdx =
    match device.fillChain memory queue headIdx with
    | (device, memory, .error error) => (device, memory, .error error)
    | (device, memory, .ok written) => (device, memory, .ok (some (written, ()))) := rfl

theorem respects (tidy : Tidy memory queue headIdx) (device : RngDevice) :
    service.Respects device memory queue () headIdx := by
  have filled := fillFrom_filled (.refl queue memory) queue.size.toNat headIdx
    (tidy.clear.mono (descsFrom_subset_chain memory queue headIdx)) device 0
  have subset : writable (queue.descsFrom memory queue.size.toNat headIdx) ⊆
    (queue.chain memory headIdx).filter isWritable := by
    intro desc member
    obtain ⟨met, isWritable⟩ := mem_filter.mp member
    exact mem_filter.mpr ⟨descsFrom_subset_chain memory queue headIdx met, isWritable⟩
  have serves := @serve_eq memory queue headIdx device
  unfold fillChain at serves
  generalize fillFrom queue queue.size.toNat headIdx device memory 0 = result at filled serves
  cases filled with
  | failed filled =>
    rw [respects_iff_of_halted (.inl ⟨_, serves⟩) filled.wrote]
    exact (filled.inside.mono subset).permitted
  | completed filled _ _ counts =>
    refine respects_of_filled tidy serves ((filled.mono subset).fewer ?_) fun _ => rfl
    rw [counts]
    exact toNat_counter_le _

end Rng.RngDevice

namespace QueueLoop
/-- The loop writes only where the guest allows it for the chain at the head. -/
def Respects (memory : GuestMemory) (headIdx : U16) : QueueLoop → Prop
  | .block device => BlockDevice.service.RespectsNext device memory device.queue headIdx
  | .rng device => RngDevice.service.RespectsNext device memory device.queue headIdx
  | .netRx device => NetDevice.rxService.RespectsNext device memory device.rxQueue headIdx
  | .netTx device => NetDevice.txService.RespectsNext device memory device.txQueue headIdx
  | .vsockRx order now device =>
    (VsockDevice.rxService order now).RespectsNext device memory device.rxQueue headIdx
  | .vsockTx now device => (VsockDevice.txService now).RespectsNext device memory device.txQueue headIdx
  | .fs host device => (FsDevice.service host).RespectsNext device memory device.requestQueue headIdx

/-- The descriptors that the loop writes to unasked are writable. -/
def ChainPermits (memory : GuestMemory) (headIdx : U16) : QueueLoop → Prop
  | .block device => BlockDevice.StatusPermitted memory device.queue headIdx
  | .netRx device => ∀ frame ∈ device.recvFrame.2, NetDevice.RxPermitted memory device.rxQueue headIdx frame
  | .vsockRx order now device =>
    ∀ chain ∈ VsockDevice.rxChainAt memory device.rxQueue headIdx,
      ∀ delivery ∈ (VsockDevice.firstPacket chain.maxDataLen now (device.pendingKeys order) device).2,
        VsockDevice.RxPermitted memory device.rxQueue chain delivery.payload
  | .rng _ | .netTx _ | .vsockTx _ _ | .fs _ _ => True

private theorem respectsNext_iff {Device Token Note Error : Type} [DescriptorErrors Error]
    {service : QueueService Device Token Note Error} {device polled : Device} {token : Token}
    (polls : service.poll device = (polled, some token)) :
    service.RespectsNext device memory queue headIdx ↔
    service.Respects polled memory queue token headIdx := by
  unfold RespectsNext
  rw [polls]
  constructor
  · intro respects
    exact respects polled token rfl
  · rintro respects other offered same
    cases same
    exact respects

theorem respects_iff_chainPermits (loop : QueueLoop) (tidy : Tidy memory loop.queue headIdx) :
    loop.Respects memory headIdx ↔ loop.ChainPermits memory headIdx := by
  cases loop with
  | block device => exact (respectsNext_iff rfl).trans (BlockDevice.respects_iff tidy device)
  | rng device => exact iff_of_true ((respectsNext_iff rfl).mpr (RngDevice.respects tidy device)) trivial
  | netRx device =>
    have polls : NetDevice.rxService.poll device = device.recvFrame := rfl
    simp only [Respects, ChainPermits]
    rcases received : device.recvFrame with ⟨polled, _ | frame⟩
    · refine iff_of_true (fun _ _ offered => ?_) nofun
      rw [polls, received] at offered
      cases offered
    · rw [respectsNext_iff (polls.trans received)]
      refine (NetDevice.respects_iff tidy polled frame).trans ?_
      simp [queue]
  | netTx | vsockTx =>
    refine iff_of_true ((respectsNext_iff rfl).mpr ?_) trivial
    exact respects_of_filled tidy rfl (.none _ memory) fun _ => rfl
  | vsockRx order now device =>
    have polls : (VsockDevice.rxService order now).poll device =
      (device, if (device.pendingKeys order).isEmpty then none
        else some (device.pendingKeys order)) := rfl
    by_cases none : (device.pendingKeys order).isEmpty = true
    · rw [if_pos none] at polls
      refine iff_of_true (fun _ _ offered => ?_) fun chain _ delivery found => ?_
      · rw [polls] at offered
        cases offered
      · rw [isEmpty_iff.mp none] at found
        cases found
    · rw [if_neg none] at polls
      exact (respectsNext_iff polls).trans
        (VsockDevice.respects_iff tidy order now device (device.pendingKeys order))
  | fs host device =>
    refine iff_of_true ((respectsNext_iff rfl).mpr ?_) trivial
    obtain ⟨spans, filled⟩ := device.processFuseRequest_filled host memory device.requestQueue headIdx
    exact respects_of_filled tidy rfl filled fun _ => rfl

/-- A chain of one descriptor with these flags, which describes sixteen bytes at 256. -/
def oneDescriptor (flags : U8) : GuestMemory where
  guestBase := 0
  size := 512
  bytes address :=
    if address = 1 then 1
    else if address = 8 then 16
    else if address = 12 then flags
    else if address = 66 then 1
    else 0

def emptyDisk : BlockDevice where
  diskFile := { bytes := fun _ => 0, length := 0, position := 0 }
  numSectors := 0
  readOnly := true
  deviceId := ⟨replicate deviceIdLen 0, rfl⟩
  queue := twoEntriesQueue
  activated := true

theorem tidy_oneDescriptor {flags : U8} (desc : VirtqDesc)
    (room : twoEntriesQueue.CanEnter (oneDescriptor flags))
    (chain : twoEntriesQueue.chain (oneDescriptor flags) 0 = [desc]) (place : desc.addr = 256)
    (len : desc.len = 16) : Tidy (oneDescriptor flags) twoEntriesQueue 0 := by
  have area : desc.area = ⟨256, 16⟩ := by
    rw [area, place, len]
    rfl
  exact {
    nonempty := by decide
    usedFits := by decide
    room := room
    usedTable := by decide
    clear := {
      tableFits := by decide
      fits := by
        intro other member
        rw [chain, mem_singleton] at member
        rw [member, place, len]
        decide
      apart := by
        intro other member
        rw [chain, mem_singleton] at member
        rw [member, area]
        decide }
    usedBuffers := by
      intro other member
      rw [chain, mem_singleton] at member
      rw [member, area]
      decide
    buffers := by
      intro first firstMember second secondMember _
      rw [chain, mem_singleton] at firstMember secondMember
      exact .inl (firstMember.trans secondMember.symm) }

theorem respects_writable_descriptor : Tidy (oneDescriptor 2) (QueueLoop.block emptyDisk).queue 0 ∧
    (QueueLoop.block emptyDisk).Respects (oneDescriptor 2) 0 := by
  have tidy : Tidy (oneDescriptor 2) (QueueLoop.block emptyDisk).queue 0 :=
    tidy_oneDescriptor ⟨256, 16, 2, 0⟩ (by decide +kernel) (by decide +kernel) rfl rfl
  have status : BlockDevice.statusDescOf (oneDescriptor 2) twoEntriesQueue 0 =
    some ⟨256, 16, 2, 0⟩ := by decide +kernel
  refine ⟨tidy, (respects_iff_chainPermits _ tidy).mpr ?_⟩
  intro desc found _
  have same := Option.mem_unique found status
  subst same
  decide

/-- A chain with nothing but a read-only descriptor: the request is refused for want of a
status descriptor, and the error is then written over the guest's data. -/
theorem status_over_readOnly :
    Tidy (oneDescriptor 0) (QueueLoop.block emptyDisk).queue 0 ∧ (oneDescriptor 0).bytes 256 = 0 ∧
    (BlockDevice.service.take emptyDisk (oneDescriptor 0) twoEntriesQueue () 0).bytes 256 = 1 ∧
    ¬ (QueueLoop.block emptyDisk).Respects (oneDescriptor 0) 0 := by
  have tidy : Tidy (oneDescriptor 0) twoEntriesQueue 0 :=
    tidy_oneDescriptor ⟨256, 16, 0, 0⟩ (by decide +kernel) (by decide +kernel) rfl rfl
  refine ⟨tidy, by decide, by decide +kernel, ?_⟩
  intro respects
  have next : BlockDevice.service.Respects emptyDisk (oneDescriptor 0) twoEntriesQueue () 0 :=
    respects emptyDisk () rfl
  have permitted := (BlockDevice.respects_iff tidy emptyDisk).mp next
  have status : BlockDevice.statusDescOf (oneDescriptor 0) twoEntriesQueue 0 =
    some ⟨256, 16, 0, 0⟩ := by decide +kernel
  have writable := (permitted _ status (by decide)).1
  exact absurd writable (by decide)

end QueueLoop
end Visor
