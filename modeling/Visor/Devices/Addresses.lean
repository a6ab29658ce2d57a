import Visor.Fs.Device
import Visor.Vsock.Device

/-! The filesystem device and the socket device add the offset of an entry to the address that the
guest has programmed, without a check. The sum wraps if the ring reaches beyond the last address. -/

namespace Visor
open Library VirtQueue BitVec Vsock
namespace VirtQueue
/-- The addresses that a pass computes at its position for a descriptor of the chain, each with
the sum it stands for. -/
def computed (queue : VirtQueue) (idx : U16) : List (U64 × Nat) :=
  let avail := queue.availRingAddr.toNat
  let used := queue.usedRingAddr.toNat
  let slot := (queue.lastUsedIdx % queue.size).toNat
  [(queue.descAddr idx, queue.descTableAddr.toNat + 16 * idx.toNat), (queue.availRingAddr + 2, avail + 2),
    (queue.availEntryAddr, avail + (4 + 2 * (queue.lastAvailIdx % queue.size).toNat)),
    (queue.usedEntryAddr, used + (4 + 8 * slot)), (queue.usedEntryAddr + 4, used + (8 + 8 * slot)),
      (queue.usedRingAddr + 2, used + 2)]

/-- What a pass reads of the table and of the rings is read at the computed addresses. -/
theorem reads_computed {Error : Type} [DescriptorErrors Error] (queue : VirtQueue)
    {memory other : GuestMemory} {idx : U16}
    (agree : ∀ each ∈ queue.computed idx, ∀ len,
      (memory.tryRead each.1 len : Except Error (List U8)) = other.tryRead each.1 len) :
    (queue.readDesc memory idx : Except Error VirtqDesc) = queue.readDesc other idx ∧
      (queue.readAvailIdx memory : Except Error U16) = queue.readAvailIdx other ∧
      (queue.readAvailEntry memory : Except Error U16) = queue.readAvailEntry other := by
  simp only [computed, List.forall_mem_cons] at agree
  obtain ⟨desc, availIdx, availEntry, _⟩ := agree
  refine ⟨?_, ?_, ?_⟩
  · rw [readDesc, readDesc, desc]
  · rw [readAvailIdx, readAvailIdx, availIdx]
  · rw [readAvailEntry, readAvailEntry, availEntry]

def seek (queue : VirtQueue) (avail used : U16) : VirtQueue :=
  { queue with lastAvailIdx := avail, lastUsedIdx := used }

/-- The last entries of the table and of the rings begin below the end of the address space. -/
structure Below (queue : VirtQueue) : Prop where
  desc : queue.descTableAddr.toNat + 16 * (queue.size.toNat - 1) < 2 ^ 64
  avail : queue.availRingAddr.toNat + (4 + 2 * (queue.size.toNat - 1)) < 2 ^ 64
  used : queue.usedRingAddr.toNat + (8 + 8 * (queue.size.toNat - 1)) < 2 ^ 64

theorem computed_exact {queue : VirtQueue} (below : queue.Below) (positive : queue.size ≠ 0)
    {idx : U16} (inTable : idx < queue.size) : ∀ each ∈ queue.computed idx, each.1.toNat = each.2 := by
  obtain ⟨desc, avail, used⟩ := below
  have index : idx.toNat < queue.size.toNat := inTable
  have availSlot := toNat_mod_lt queue.lastAvailIdx queue.size positive
  have usedSlot := toNat_mod_lt queue.lastUsedIdx queue.size positive
  have entry : (queue.usedEntryAddr + 4).toNat = (queue.usedEntryAddr.toNat + 4) % 2 ^ 64 := by bv_omega
  simp only [computed, List.forall_mem_cons, toNat_descAddr_mod, toNat_availEntryAddr_mod, entry,
    toNat_usedEntryAddr_mod]
  refine ⟨?_, ?_, ?_, ?_, ?_, ?_, nofun⟩ <;> bv_omega

/-- The last places of all three are computed at some positions. -/
theorem below_of_exact {queue : VirtQueue} (positive : queue.size ≠ 0)
    (exact : ∀ avail used idx, idx < queue.size → ∀ each ∈ (queue.seek avail used).computed idx,
      each.1.toNat = each.2) : queue.Below := by
  have nonzero : queue.size.toNat ≠ 0 := fun zero => positive (eq_of_toNat_eq zero)
  have index : (queue.size - 1).toNat = queue.size.toNat - 1 := by bv_omega
  have slot : (queue.size - 1) % queue.size = queue.size - 1 := by
    refine eq_of_toNat_eq ?_
    rw [toNat_umod, index, Nat.mod_eq_of_lt (by omega)]
  have last := exact (queue.size - 1) (queue.size - 1) (queue.size - 1) (by bv_omega)
  simp only [computed, seek, slot, index, List.forall_mem_cons] at last
  obtain ⟨desc, _, avail, _, used, _⟩ := last
  have bounds := (queue.seek (queue.size - 1) (queue.size - 1)).usedEntryAddr.isLt
  constructor <;> bv_omega

end VirtQueue

def highQueue : VirtQueue where
  maxSize := 256
  size := 4
  ready := true
  descTableAddr := 0x1000
  availRingAddr := 0xFFFFFFFFFFFFFFF0
  usedRingAddr := 0x2000
  lastAvailIdx := 0
  lastUsedIdx := 0

end Visor
