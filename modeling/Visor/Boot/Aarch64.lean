import Visor.Memory.GuestMemory

/-! The kernel image is copied to its text offset in DRAM, and the device tree to the last two
megabytes, rounded down. The image size in the header, which is what the kernel takes up with its
zeroed data, is not looked at, and neither is the one of the two when the other is placed. -/

namespace Visor.Boot.Aarch64
open Library List GuestMemory

inductive BootError where
  | invalidImage (reason : String)
  | segmentOutOfBounds (addr size : U64)
  | memoryWrite (error : MemoryError)
  | fdt (text : String)

def dramMemStart : U64 := 0x80000000
def kernelLoadOffset : U64 := 0x200000
def fdtMaxSize : Nat := 0x200000
def arm64ImageMagic : Nat := 0x644d5241

/-- The memory size of the machine, and what `create_fdt` returns for its description. -/
structure FdtConfig where
  memorySize : U64
  createFdt : Except BootError (List U8)

structure BootConfig where
  entryPoint : U64
  fdtAddr : U64

def loadOffset (data : List U8) : U64 :=
  let textOffset := BitVec.ofNat 64 (leField data 0x08 8)
  if textOffset ≠ 0 then textOffset else kernelLoadOffset

def writeBytes (memory : GuestMemory) (addr : U64) (data : List U8) :
    Except BootError GuestMemory := (memory.writeBytes addr data).mapError .memoryWrite

def loadArm64Image (memory : GuestMemory) (data : List U8) : Except BootError (U64 × GuestMemory) := do
  if data.length < 64 then throw (.invalidImage "file too small for ARM64 Image header")
  if leField data 0x38 4 ≠ arm64ImageMagic then throw (.invalidImage "bad ARM64 Image magic")
  let loadAddr := dramMemStart + loadOffset data
  let outOfBounds := BootError.segmentOutOfBounds loadAddr (BitVec.ofNat 64 data.length)
  -- `checked_add`
  if loadAddr.toNat + data.length ≥ 2 ^ 64 then throw outOfBounds
  if loadAddr.toNat + data.length > (memory.guestBase + BitVec.ofNat 64 memory.size).toNat then
    throw outOfBounds
  return (loadAddr, ← writeBytes memory loadAddr data)

def getFdtAddr (memorySize : U64) : U64 :=
  let fdtOffset := if memorySize.toNat < fdtMaxSize then 0 else memorySize - 0x200000
  (dramMemStart + fdtOffset) &&& ~~~ (0x200000 - 1)

def configureBoot (memory : GuestMemory) (kernelData : List U8) (fdtConfig : FdtConfig) :
    Except BootError (BootConfig × GuestMemory) := do
  let (entryPoint, memory) ← loadArm64Image memory kernelData
  let fdtBlob ← fdtConfig.createFdt
  let fdtAddr := getFdtAddr fdtConfig.memorySize
  return (⟨entryPoint, fdtAddr⟩, ← writeBytes memory fdtAddr fdtBlob)

/-- What the kernel takes up from its load address on. -/
def claimed (kernelData : List U8) : Nat := max kernelData.length (leField kernelData 0x10 8)

/-- Where the blob goes in DRAM. -/
def fdtPlace (memorySize : Nat) : Nat := (memorySize - fdtMaxSize) / 2 ^ 21 * 2 ^ 21

structure Layout (memorySize : Nat) (kernelData fdtBlob : List U8) (boot : BootConfig) : Prop where
  exact : boot.entryPoint.toNat = dramMemStart.toNat + (loadOffset kernelData).toNat ∧
    boot.fdtAddr.toNat = dramMemStart.toNat + fdtPlace memorySize
  kernel : boot.entryPoint.toNat + claimed kernelData ≤ dramMemStart.toNat + memorySize
  blob : boot.fdtAddr.toNat + fdtBlob.length ≤ dramMemStart.toNat + memorySize
  apart : boot.entryPoint.toNat + claimed kernelData ≤ boot.fdtAddr.toNat ∨
    boot.fdtAddr.toNat + fdtBlob.length ≤ boot.entryPoint.toNat
  small : fdtBlob.length ≤ fdtMaxSize

/-- The kernel with its zeroed data ends in time, before the blob or behind it, and the blob is
not too long. -/
structure Roomy (memorySize : Nat) (kernelData fdtBlob : List U8) : Prop where
  kernel : (loadOffset kernelData).toNat + claimed kernelData ≤ memorySize
  apart : (loadOffset kernelData).toNat + claimed kernelData ≤ fdtPlace memorySize ∨
    fdtPlace memorySize + fdtBlob.length ≤ (loadOffset kernelData).toNat
  small : fdtBlob.length ≤ fdtMaxSize

variable {memory after : GuestMemory} {kernelData fdtBlob : List U8} {fdtConfig : FdtConfig}
  {boot : BootConfig}

theorem toNat_getFdtAddr {memorySize : U64} (small : memorySize.toNat < 2 ^ 63) :
    (getFdtAddr memorySize).toNat = dramMemStart.toNat + fdtPlace memorySize.toNat := by
  have mask : ~~~ (0x200000 - 1 : U64) = BitVec.allOnes 64 <<< 21 := rfl
  have start : dramMemStart.toNat = 2 ^ 31 := rfl
  have sum : (dramMemStart + if memorySize.toNat < fdtMaxSize then 0 else memorySize - 0x200000).toNat =
    2 ^ 31 + (memorySize.toNat - fdtMaxSize) := by
    have size : fdtMaxSize = 0x200000 := rfl
    split <;> bv_omega
  unfold getFdtAddr fdtPlace
  rw [mask, toNat_mask, sum, start]
  omega

private theorem writeBytes_ok {addr : U64} {data : List U8}
    (wrote : writeBytes memory addr data = .ok after) :
    memory.InBounds addr data.length ∧ after = memory.store (memory.offsetOf addr) data := by
  unfold writeBytes at wrote
  cases written : memory.writeBytes addr data with
  | error =>
    rw [written] at wrote
    cases wrote
  | ok =>
    rw [written] at wrote
    cases wrote
    exact writeBytes_eq_ok_iff.mp written

theorem configureBoot_ok (blob : fdtConfig.createFdt = .ok fdtBlob)
    (booted : configureBoot memory kernelData fdtConfig = .ok (boot, after)) :
    boot = ⟨dramMemStart + loadOffset kernelData, getFdtAddr fdtConfig.memorySize⟩ ∧
    memory.InBounds boot.entryPoint kernelData.length ∧ memory.InBounds boot.fdtAddr fdtBlob.length := by
  simp only [configureBoot, loadArm64Image, blob, bind, Except.bind, pure, Except.pure, throw,
    throwThe, MonadExceptOf.throw] at booted
  split at booted
  · cases booted
  next loaded image =>
    split at booted
    · cases booted
    next written =>
      cases booted
      obtain ⟨tree, _⟩ := writeBytes_ok written
      repeat' split at image
      all_goals cases image
      obtain ⟨inside, rfl⟩ := writeBytes_ok ‹writeBytes memory _ _ = _›
      exact ⟨rfl, inside, tree⟩

section
variable (base : memory.guestBase = dramMemStart)
  (size : memory.size = fdtConfig.memorySize.toNat) (small : memory.size < 2 ^ 63)
  (blob : fdtConfig.createFdt = .ok fdtBlob)
  (booted : configureBoot memory kernelData fdtConfig = .ok (boot, after))
include base size small blob booted

/-- No sum wraps, or the image or the blob would be below the memory. -/
theorem configureBoot_exact : (boot.entryPoint.toNat = dramMemStart.toNat + (loadOffset kernelData).toNat ∧
    boot.fdtAddr.toNat = dramMemStart.toNat + fdtPlace memory.size) ∧
    boot.fdtAddr.toNat + fdtBlob.length ≤ dramMemStart.toNat + memory.size := by
  obtain ⟨rfl, kernel, tree⟩ := configureBoot_ok blob booted
  unfold InBounds at kernel tree
  rw [base] at kernel tree
  rw [size, ← toNat_getFdtAddr (size ▸ small)]
  have start : dramMemStart.toNat = 2 ^ 31 := rfl
  refine ⟨⟨?_, rfl⟩, by omega⟩
  bv_omega

theorem layout_iff : Layout memory.size kernelData fdtBlob boot ↔ Roomy memory.size kernelData fdtBlob := by
  obtain ⟨⟨entry, tree⟩, blobFits⟩ := configureBoot_exact base size small blob booted
  constructor
  · rintro ⟨_, kernel, _, apart, short⟩
    exact ⟨by omega, by omega, short⟩
  · rintro ⟨kernel, apart, short⟩
    exact ⟨⟨entry, tree⟩, by omega, blobFits, by omega, short⟩

end

def bareImage (imageSize : Nat) : List U8 :=
  replicate 16 0 ++ toLeBytes 8 imageSize ++ replicate 32 0 ++ toLeBytes 4 arm64ImageMagic ++ replicate 4 0

def dram (size : Nat) : GuestMemory where
  guestBase := dramMemStart
  size := size
  bytes _ := 0

theorem image_before_blob :
    ∃ boot after, configureBoot (dram 0x800000) (bareImage 0x400000) ⟨0x800000, .ok [0xd0]⟩ =
    .ok (boot, after) ∧ Layout 0x800000 (bareImage 0x400000) [0xd0] boot := by
  refine ⟨⟨0x80200000, 0x80600000⟩, _, rfl, ?_⟩
  refine (@layout_iff (dram 0x800000) _ (bareImage 0x400000) [0xd0] ⟨0x800000, .ok [0xd0]⟩ _ rfl rfl
    (by decide) rfl rfl).mpr ?_
  exact ⟨by decide, by decide, by decide⟩

/-- A kernel that claims all that follows its load address runs over the blob. -/
theorem image_over_blob :
    ∃ boot after, configureBoot (dram 0x400000) (bareImage 0x200000) ⟨0x400000, .ok [0xd0]⟩ =
    .ok (boot, after) ∧ boot = ⟨0x80200000, 0x80200000⟩ ∧
    ¬ Layout 0x400000 (bareImage 0x200000) [0xd0] boot := by
  refine ⟨⟨0x80200000, 0x80200000⟩, _, rfl, rfl, fun layout => ?_⟩
  exact absurd layout.apart (by decide)

end Visor.Boot.Aarch64
