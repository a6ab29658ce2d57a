import Visor.Library.Cells

/-! Fixed-width integers with the wrapping arithmetic of a release build. A `usize` length is a
natural number: every length the devices handle is bounded by a 32-bit field or by the size of a
buffer that exists. -/

namespace Visor
open BitVec

abbrev U8 := BitVec 8
abbrev U16 := BitVec 16
abbrev U32 := BitVec 32
abbrev U64 := BitVec 64

variable (length : Nat)

/-- `u32::try_from(length).unwrap_or(u32::MAX)`. -/
def saturateU32 : U32 :=
  if length < 2 ^ 32 then BitVec.ofNat 32 length else allOnes 32

theorem saturateU32_eq {length : Nat} (small : length < 2 ^ 32) :
    saturateU32 length = BitVec.ofNat 32 length := if_pos small

theorem toNat_saturateU32 (small : length < 2 ^ 32) : (saturateU32 length).toNat = length := by
  simp only [saturateU32, small, ↓reduceIte, toNat_ofNat]
  omega

theorem toNat_saturateU32_eq_min : (saturateU32 length).toNat = min length (2 ^ 32 - 1) := by
  unfold saturateU32
  split
  · rw [toNat_ofNat]
    omega
  · rw [toNat_allOnes]
    omega

/-- Masking the low bits rounds down. -/
theorem toNat_mask {width : Nat} (value : BitVec width) (low : Nat) :
    (value &&& (allOnes width <<< low)).toNat = value.toNat / 2 ^ low * 2 ^ low := by
  have shifted : value &&& (allOnes width <<< low) = (value >>> low) <<< low := by
    ext index inside
    rw [getElem_and, getElem_shiftLeft, getElem_shiftLeft]
    by_cases below : index < low
    · simp [below]
    · have back : low + (index - low) = index := by omega
      rw [getElem_allOnes, getElem_ushiftRight, back, getLsbD_eq_getElem inside]
      simp [below]
  have bound : value.toNat / 2 ^ low * 2 ^ low < 2 ^ width :=
    Nat.lt_of_le_of_lt (Nat.div_mul_le_self _ _) value.isLt
  rw [shifted, toNat_shiftLeft, toNat_ushiftRight, Nat.shiftLeft_eq, Nat.shiftRight_eq_div_pow,
    Nat.mod_eq_of_lt bound]

/-- The two kinds of host I/O error the devices tell apart. -/
inductive IoError where
  | wouldBlock
  | failed
deriving DecidableEq

section Fields
open Library

def leField (bytes : List U8) (offset width : Nat) : Nat := fromLeBytes ((bytes.drop offset).take width)

end Fields
end Visor
