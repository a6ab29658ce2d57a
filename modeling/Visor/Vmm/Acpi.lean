import Visor.Machine.Words

/-! The length of a package counts its own bytes. Its first byte says how many follow. -/

namespace Visor.Vmm
open Library List Nat

def encodePkgLength (dataLen : Nat) : List U8 :=
  if dataLen < 0x3f then [BitVec.ofNat 8 (dataLen + 1)]
  else if dataLen + 2 ≤ 0xfff then
    let dataLen := dataLen + 2
    [BitVec.ofNat 8 (dataLen &&& 0x0f) ||| 1 <<< 6, BitVec.ofNat 8 (dataLen >>> 4 &&& 0xff)]
  else if dataLen + 3 ≤ 0xfffff then
    let dataLen := dataLen + 3
    [BitVec.ofNat 8 (dataLen &&& 0x0f) ||| 2 <<< 6, BitVec.ofNat 8 (dataLen >>> 4 &&& 0xff),
      BitVec.ofNat 8 (dataLen >>> 12 &&& 0xff)]
  else
    let dataLen := dataLen + 4
    [BitVec.ofNat 8 (dataLen &&& 0x0f) ||| 3 <<< 6, BitVec.ofNat 8 (dataLen >>> 4 &&& 0xff),
      BitVec.ofNat 8 (dataLen >>> 12 &&& 0xff),
      BitVec.ofNat 8 (dataLen >>> 20 &&& 0xff)]

/-- The rule of ACPI: six bits of a single byte, or four bits of the first and all of the others. -/
def decodePkgLength : List U8 → Option Nat
  | [] => none
  | lead :: following =>
    if (lead >>> 6).toNat ≠ following.length then none
    else if following = [] then some lead.toNat
    else if lead &&& 0x30 = 0 then some (lead.toNat % 16 + 16 * fromLeBytes following)
    else none

/-- The lengths that so many bytes can hold. -/
def pkgLengthBound (count : Nat) : Nat := if count = 1 then 2 ^ 6 else 2 ^ (8 * count - 4)

/-- The form of more than one byte. -/
def widePkgLength (count value : Nat) : List U8 :=
  (BitVec.ofNat 8 (value % 16) ||| BitVec.ofNat 8 count <<< 6) :: toLeBytes count (value / 16)

theorem lead_bits : ∀ low < 16, ∀ count < 4,
    let lead : U8 := BitVec.ofNat 8 low ||| BitVec.ofNat 8 count <<< 6
    lead.toNat % 16 = low ∧ (lead >>> 6).toNat = count ∧ lead &&& 0x30 = 0 := by decide

theorem masked (value : Nat) : BitVec.ofNat 8 (value &&& 0xff) = BitVec.ofNat 8 value := by
  apply BitVec.eq_of_toNat_eq
  rw [show 0xff = 2 ^ 8 - 1 from rfl, and_two_pow_sub_one_eq_mod]
  simp

theorem encodePkgLength_eq (dataLen : Nat) :
    encodePkgLength dataLen = if dataLen < 63 then [BitVec.ofNat 8 (dataLen + 1)]
    else if dataLen + 2 < 2 ^ 12 then widePkgLength 1 (dataLen + 2)
    else if dataLen + 3 < 2 ^ 20 then widePkgLength 2 (dataLen + 3) else widePkgLength 3 (dataLen + 4) := by
  have low (value : Nat) : value &&& 0x0f = value % 16 := and_two_pow_sub_one_eq_mod value 4
  unfold encodePkgLength widePkgLength
  simp only [toLeBytes, low, masked, shiftRight_eq_div_pow, Nat.div_div_eq_div_mul,
    lt_iff_add_one_le, Nat.reducePow,
    Nat.reduceMul, Nat.reduceLeDiff]
  rfl

theorem decode_widePkgLength {count value : Nat} (some : 0 < count) (few : count < 4)
    (fits : value < 16 * 256 ^ count) :
    decodePkgLength (widePkgLength count value) = Option.some value := by
  obtain ⟨low, follows, reserved⟩ := lead_bits (value % 16) (mod_lt _ (by decide)) count few
  have filled : toLeBytes count (value / 16) ≠ [] := fun empty => by
    have none := congrArg length empty
    simp at none
    omega
  rw [widePkgLength, decodePkgLength, if_neg (by simp [follows]), if_neg filled, if_pos reserved,
    low, fromLeBytes_toLeBytes,
    mod_eq_of_lt (Nat.div_lt_of_lt_mul fits), mod_add_div]

/-- The bytes decode to the length with their own, no fewer would do, and the first says how many follow. -/
structure Exact (dataLen : Nat) (bytes : List U8) : Prop where
  decodes : decodePkgLength bytes = some (dataLen + bytes.length)
  fewest : ∀ count, 0 < count → dataLen + count < pkgLengthBound count → bytes.length ≤ count
  announced : bytes.head?.map (fun lead : U8 => (lead >>> 6).toNat) = some (bytes.length - 1)

private theorem exact_wide {dataLen count : Nat} (some : 0 < count) (few : count < 4)
    (fits : dataLen + (count + 1) < 16 * 256 ^ count) (notOne : 63 ≤ dataLen)
    (notTwo : 1 < count → 2 ^ 12 ≤ dataLen + 2) (notThree : 2 < count → 2 ^ 20 ≤ dataLen + 3) :
    Exact dataLen (widePkgLength count (dataLen + (count + 1))) where
  decodes := by
    rw [decode_widePkgLength some few fits]
    simp [widePkgLength]
  fewest fewer positive holds := by
    by_contra more
    rw [widePkgLength, length_cons, length_toLeBytes] at more
    obtain rfl | rfl | rfl : fewer = 1 ∨ fewer = 2 ∨ fewer = 3 := by omega
    all_goals
      simp [pkgLengthBound] at holds
      omega
  announced := by
    have lead := (lead_bits _ (mod_lt (dataLen + (count + 1)) (by decide : 0 < 16)) count few).2.1
    rw [widePkgLength, head?_cons, Option.map_some, lead, length_cons, length_toLeBytes, Nat.add_sub_cancel]

theorem encode_pkg_length_exact (dataLen : Nat) (inRange : dataLen ≤ 2 ^ 28 - 5) :
    Exact dataLen (encodePkgLength dataLen) := by
  rw [encodePkgLength_eq]
  split
  · have byte : (BitVec.ofNat 8 (dataLen + 1)).toNat = dataLen + 1 := by
      rw [BitVec.toNat_ofNat]
      omega
    have top : (BitVec.ofNat 8 (dataLen + 1) >>> 6).toNat = 0 := by
      rw [BitVec.toNat_ushiftRight, byte, shiftRight_eq_div_pow]
      omega
    exact ⟨by simp [decodePkgLength, top, byte], fun _ positive _ => positive, congrArg some top⟩
  · split
    · exact exact_wide (by decide) (by decide) (by omega) (by omega) nofun nofun
    · split
      · exact exact_wide (by decide) (by decide) (by omega) (by omega) (by omega) nofun
      · exact exact_wide (by decide) (by decide) (by omega) (by omega) (by omega) (by omega)

/-- The longest package whose length has one byte. -/
theorem exact_of_62 : Exact 62 [0x3f] := encode_pkg_length_exact 62 (by decide)

end Visor.Vmm
