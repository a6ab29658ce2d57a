import Mathlib.Data.List.Perm.Basic
import Visor.Machine.Words

/-! A template hides CPUID feature bits, so that a guest sees one processor on every host of a
fleet. Which bits a built-in template hides is written twice in the source: as masks, and as the
bits that its comments list. -/

namespace Visor.Vmm
open List BitVec

inductive Register where
  | eax | ebx | ecx | edx
deriving DecidableEq

/-- `kvm_cpuid_entry2`. -/
structure CpuidEntry where
  function : U32
  index : U32
  flags : U32
  registers : Register → U32

def maskAll : U32 := 0xFFFFFFFF

structure CpuIdFilter where
  leaf : U32
  subleaf : U32
  masks : Register → U32

def CpuIdFilter.filterEntry (filter : CpuIdFilter) (entry : CpuidEntry) : CpuidEntry :=
  if entry.function = filter.leaf ∧ entry.index = filter.subleaf then
    { entry with registers := fun register => entry.registers register &&& filter.masks register }
  else entry

structure CpuTemplate where
  name : List Char
  description : List Char
  filters : List CpuIdFilter

namespace CpuTemplate
def apply (template : CpuTemplate) (entries : List CpuidEntry) : List CpuidEntry :=
  template.filters.foldl (fun entries filter => entries.map filter.filterEntry) entries

def hypervisorFilter : CpuIdFilter where
  leaf := 0x01
  subleaf := 0x00
  masks
    | .ecx => 0xFEFFFFFF &&& 0x7FFFFFFF
    | _ => maskAll

def avx512Filter : CpuIdFilter where
  leaf := 0x07
  subleaf := 0x00
  masks
    | .ebx => 0x11DCFFFF
    | _ => maskAll

def lahfFilter : CpuIdFilter where
  leaf := 0x80000001
  subleaf := 0x00
  masks
    | .ecx => 0xFFFFFFFE
    | _ => maskAll

def common : CpuTemplate where
  name := "common".toList
  description := "Common baseline: masks hypervisor bit and TSC deadline timer".toList
  filters := [hypervisorFilter]

def zen2 : CpuTemplate where
  name := "zen2-baseline".toList
  description := "AMD Zen 2 lowest common denominator for live migration".toList
  filters := [hypervisorFilter, avx512Filter, lahfFilter]

def mask (template : CpuTemplate) (leaf subleaf : U32) (register : Register) : U32 :=
  template.filters.foldr
    (fun filter mask =>
      if leaf = filter.leaf ∧ subleaf = filter.subleaf then filter.masks register &&& mask
      else mask) maskAll

def view (template : CpuTemplate) (entry : CpuidEntry) : CpuidEntry :=
  { entry with
    registers := fun register => entry.registers register &&& template.mask entry.function
      entry.index register }

private theorem and_maskAll (word : U32) : word &&& maskAll = word := and_allOnes

theorem apply_eq_map (template : CpuTemplate) (entries : List CpuidEntry) :
    template.apply entries = entries.map template.view := by
  obtain ⟨name, description, filters⟩ := template
  induction filters generalizing entries with
  | nil =>
    have same : view ⟨name, description, []⟩ = id := funext fun entry => by simp [view, mask, and_maskAll]
    rw [same, map_id]
    rfl
  | cons filter filters ih =>
    refine (ih _).trans ((map_map ..).trans (map_congr_left fun entry _ => ?_))
    by_cases covers : entry.function = filter.leaf ∧ entry.index = filter.subleaf
    · simp [CpuIdFilter.filterEntry, view, mask, covers, BitVec.and_assoc]
    · simp [CpuIdFilter.filterEntry, view, mask, covers]

theorem apply_of_perm {template other : CpuTemplate} (perm : other.filters.Perm template.filters) :
    other.apply = template.apply := by
  have same : other.mask = template.mask := by
    funext leaf subleaf register
    refine @Perm.foldr_eq _ _ _ _ _ ⟨fun one next rest => ?_⟩ perm _
    split <;> split
    · rw [← BitVec.and_assoc, ← BitVec.and_assoc, BitVec.and_comm (one.masks register)]
    all_goals rfl
  funext entries
  rw [apply_eq_map, apply_eq_map]
  exact map_congr_left fun entry _ => by rw [view, view, same]

/-- The hosts have the same leaves, equal but for the listed bits. -/
def DifferOnlyIn (listed : U32 → U32 → Register → U32) : List CpuidEntry → List CpuidEntry → Prop :=
  Forall₂ fun entry rival => rival.function = entry.function ∧ rival.index = entry.index ∧
    rival.flags = entry.flags ∧
      ∀ register, rival.registers register &&& ~~~ listed entry.function entry.index register =
      entry.registers register &&& ~~~ listed entry.function entry.index register

variable (template : CpuTemplate) (listed : U32 → U32 → Register → U32) (host : List CpuidEntry)
  (leaf subleaf : U32)

private theorem and_eq_iff {one other mask bits : U32} (same : other &&& ~~~ bits = one &&& ~~~ bits) :
    one &&& mask = other &&& mask ↔ other &&& (mask &&& bits) = one &&& (mask &&& bits) := by
  constructor
  · intro equal
    rw [← BitVec.and_assoc, ← BitVec.and_assoc, equal]
  · intro equal
    refine eq_of_getElem_eq fun bit inside => ?_
    have outer := congrArg (·.getLsbD bit) same
    have inner := congrArg (·.getLsbD bit) equal
    grind

theorem apply_eq_iff {one other : List CpuidEntry} (differ : DifferOnlyIn listed one other) :
    template.apply one = template.apply other ↔
    Forall₂ (fun entry rival => ∀ register,
    let exposed := template.mask entry.function entry.index register &&&
    listed entry.function entry.index register
    rival.registers register &&& exposed = entry.registers register &&& exposed) one other := by
  rw [apply_eq_map, apply_eq_map]
  induction differ with
  | nil => simp
  | @cons entry rival _ _ same _ ih =>
    obtain ⟨function, index, flags, bits⟩ := same
    rw [map_cons, map_cons, cons_eq_cons, forall₂_cons, ih]
    refine and_congr_left' (Iff.trans ?_ (forall_congr' fun register => and_eq_iff (bits register)))
    simp [view, function, index, flags, funext_iff]

theorem differOnlyIn_apply_iff :
    DifferOnlyIn listed host (template.apply host) ↔
    ∀ entry ∈ host, ∀ register, entry.registers register &&&
    (~~~ template.mask entry.function entry.index register &&& ~~~ listed entry.function entry.index
      register) = 0 := by
  rw [apply_eq_map, DifferOnlyIn, forall₂_map_right_iff, forall₂_same]
  refine forall₂_congr fun entry _ => ?_
  simp only [view, true_and]
  refine forall_congr' fun register => ?_
  generalize template.mask entry.function entry.index register = mask
  constructor
  · intro same
    refine eq_of_getElem_eq fun bit inside => ?_
    have := congrArg (·.getLsbD bit) same
    grind
  · intro same
    refine eq_of_getElem_eq fun bit inside => ?_
    have := congrArg (·.getLsbD bit) same
    grind

def bits (positions : List Nat) : U32 := positions.foldl (fun word position => word ||| 1 <<< position) 0

/-- The bits that the comments on the template list. -/
def commonListed : Register → U32
  | .ecx => if leaf = 0x01 ∧ subleaf = 0x00 then bits [31, 24] else 0
  | _ => 0

def zen2Listed : Register → U32
  | .ebx => if leaf = 0x07 ∧ subleaf = 0x00 then bits [16, 17, 21, 26, 27, 28, 30, 31] else 0
  | .ecx => if leaf = 0x80000001 ∧ subleaf = 0x00 then bits [0] else commonListed leaf subleaf .ecx
  | _ => 0

theorem zen2_filters : zen2.filters = [hypervisorFilter, avx512Filter, lahfFilter] := rfl

theorem common_filters : common.filters = [hypervisorFilter] := rfl

theorem common_mask (register : Register) :
    common.mask leaf subleaf register = ~~~ commonListed leaf subleaf register := by
  by_cases covers : leaf = 0x01 ∧ subleaf = 0x00
  · obtain ⟨rfl, rfl⟩ := covers
    cases register <;> decide
  · simp only [mask, common_filters, hypervisorFilter, foldr, covers, if_false]
    cases register <;> simp only [commonListed, covers, if_false] <;> decide

theorem zen2_mask (leaf subleaf : U32) (register : Register) : let mask := zen2.mask leaf subleaf register
    let listed := zen2Listed leaf subleaf register
    mask &&& listed = (if leaf = 0x07 ∧ subleaf = 0x00 ∧ register = .ebx then bits [28] else 0) ∧
      ~~~ mask &&& ~~~ listed =
        if leaf = 0x07 ∧ subleaf = 0x00 ∧ register = .ebx then bits [25, 29] else 0 := by
  by_cases zero : subleaf = 0x00
  · subst zero
    by_cases one : leaf = 0x01
    · subst one
      cases register <;> decide
    by_cases seven : leaf = 0x07
    · subst seven
      cases register <;> decide
    by_cases extended : leaf = 0x80000001
    · subst extended
      cases register <;> decide
    simp only [mask, zen2_filters, hypervisorFilter, avx512Filter, lahfFilter, foldr, one, seven,
      extended, false_and, if_false]
    cases register <;> simp only [zen2Listed, commonListed, one, seven, extended, false_and,
      if_false] <;> decide
  · simp only [mask, zen2_filters, hypervisorFilter, avx512Filter, lahfFilter, foldr, zero,
      and_false, false_and, if_false]
    cases register <;> simp only [zen2Listed, commonListed, zero, and_false, if_false] <;> decide

/-- The hosts agree on AVX-512 CD. -/
def AgreeOnCd : List CpuidEntry → List CpuidEntry → Prop :=
  Forall₂ fun entry rival => entry.function = 0x07 → entry.index = 0x00 →
    rival.registers .ebx &&& bits [28] = entry.registers .ebx &&& bits [28]

/-- The host has neither processor trace nor the SHA extensions. -/
def LacksPtAndSha : Prop :=
  ∀ entry ∈ host, entry.function = 0x07 → entry.index = 0x00 →
    entry.registers .ebx &&& bits [25, 29] = 0

theorem migration_laws (template : CpuTemplate) (one other : List CpuidEntry) :
    (template.apply one = one.map template.view ∧
      (∀ rival : CpuTemplate, rival.filters.Perm template.filters → rival.apply = template.apply) ∧
      (one.Perm other → (template.apply one).Perm (template.apply other)) ∧
      template.apply (template.apply one) = template.apply one) ∧
    (DifferOnlyIn commonListed one other → common.apply one = common.apply other) ∧
    DifferOnlyIn commonListed one (common.apply one) ∧
    (DifferOnlyIn zen2Listed one other →
      (zen2.apply one = zen2.apply other ↔ AgreeOnCd one other)) ∧
    (DifferOnlyIn zen2Listed one (zen2.apply one) ↔ LacksPtAndSha one) := by
  refine ⟨⟨template.apply_eq_map one, fun _ => apply_of_perm, fun perm => ?_, ?_⟩, fun differ => ?_,
    ?_, fun differ => ?_, ?_⟩
  · simp only [apply_eq_map]
    exact perm.map _
  · simp only [apply_eq_map, map_map]
    refine map_congr_left fun entry _ => ?_
    simp [view, BitVec.and_assoc]
  · refine (apply_eq_iff common commonListed differ).mpr (differ.imp fun entry rival _ register => ?_)
    simp [common_mask, BitVec.and_comm]
  · refine (differOnlyIn_apply_iff common commonListed one).mpr fun entry _ register => ?_
    simp [common_mask]
  · rw [apply_eq_iff zen2 zen2Listed differ]
    simp only [(zen2_mask ..).1]
    refine ⟨fun agree => agree.imp fun entry rival same isLeaf isSubleaf => ?_, fun agree =>
      agree.imp fun entry rival same register => ?_⟩
    · simpa [isLeaf, isSubleaf] using same .ebx
    · split
      next covers =>
        obtain ⟨isLeaf, isSubleaf, rfl⟩ := covers
        exact same isLeaf isSubleaf
      · simp
  · rw [differOnlyIn_apply_iff]
    simp only [(zen2_mask ..).2]
    refine forall₂_congr fun entry _ => ⟨fun clear isLeaf isSubleaf => ?_, fun lacks register => ?_⟩
    · simpa [isLeaf, isSubleaf] using clear .ebx
    · split
      next covers =>
        obtain ⟨isLeaf, isSubleaf, rfl⟩ := covers
        exact lacks isLeaf isSubleaf
      · simp

/-- Leaf 7 of a host with the given features. -/
def leaf7 (features : U32) : List CpuidEntry := [⟨0x07, 0, 1, fun | .ebx => features | _ => 0⟩]

/-- A host with AVX512CD looks different from one without it, and SHA is lost. -/
theorem zen2_mask_differs : (DifferOnlyIn zen2Listed (leaf7 0) (leaf7 (bits [28])) ∧
    zen2.apply (leaf7 0) ≠ zen2.apply (leaf7 (bits [28]))) ∧
    ¬ DifferOnlyIn zen2Listed (leaf7 (bits [29])) (zen2.apply (leaf7 (bits [29]))) := by
  refine ⟨⟨.cons ⟨rfl, rfl, rfl, fun register => ?_⟩ .nil, fun same => ?_⟩, fun differ => ?_⟩
  · cases register <;> decide
  · have seen := congrArg (fun entries => (entries.map fun entry => entry.registers .ebx)) same
    exact absurd seen (by decide +kernel)
  · have same := (forall₂_cons.mp differ).1.2.2.2 .ebx
    exact absurd same (by decide +kernel)

end CpuTemplate
end Visor.Vmm
