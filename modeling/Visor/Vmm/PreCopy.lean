import Mathlib.Data.List.Basic
import Visor.Machine.Words

/-! A bitmap is listed bit by bit up to the last page, but counted byte by byte. Of the rates, which
are floating-point numbers, only the comparison matters. -/

namespace Visor.Vmm
open List

structure DirtyBitmap where
  bitmap : List U8
  pageCount : Nat
  sized : bitmap.length = (pageCount + 7) / 8

namespace DirtyBitmap
def fromRaw (bytes : List U8) (memorySizeBytes : Nat) : Except (Nat × Nat) DirtyBitmap :=
  let pageCount := (memorySizeBytes + 4095) / 4096
  if sized : bytes.length = (pageCount + 7) / 8 then .ok ⟨bytes, pageCount, sized⟩
  else .error ((pageCount + 7) / 8, bytes.length)

variable (dirty : DirtyBitmap)

/-- Bit of a page, also behind the last page. -/
def bit (page : Nat) : Bool := (dirty.bitmap[page / 8]?).any (·.getLsbD (page % 8))
def isDirty (page : Nat) : Bool := page < dirty.pageCount && dirty.bit page
def countOnes (byte : U8) : Nat := ((range 8).filter (byte.getLsbD ·)).length
def dirtyCount : Nat := (dirty.bitmap.map countOnes).sum

def dirtyPages : List Nat :=
  dirty.bitmap.zipIdx.flatMap fun entry => (range 8).filterMap fun bit =>
    if entry.1.getLsbD bit && entry.2 * 8 + bit < dirty.pageCount then some (entry.2 * 8 + bit)
    else none

def setBits : List Nat :=
  dirty.bitmap.zipIdx.flatMap fun entry => ((range 8).filter (entry.1.getLsbD ·)).map (entry.2 * 8 + ·)

theorem mem_setBits (page : Nat) : page ∈ dirty.setBits ↔ dirty.bit page = true := by
  simp only [setBits, bit, mem_flatMap, mem_map, mem_filter, mem_range, mem_zipIdx_iff_getElem?,
    Option.any_eq_true]
  constructor
  · rintro ⟨⟨byte, index⟩, found, offset, ⟨below, isSet⟩, rfl⟩
    refine ⟨byte, ?_, ?_⟩
    · rw [show (index * 8 + offset) / 8 = index by omega]
      exact found
    · rw [show (index * 8 + offset) % 8 = offset by omega]
      exact isSet
  · rintro ⟨byte, found, isSet⟩
    exact ⟨(byte, page / 8), found, page % 8, ⟨Nat.mod_lt _ (by decide), isSet⟩, by dsimp; omega⟩

theorem pairwise_setBits : dirty.setBits.Pairwise (· < ·) := by
  refine pairwise_flatMap.mpr ⟨fun entry _ => ?_, ?_⟩
  · exact pairwise_map.mpr ((pairwise_lt_range.filter _).imp fun less => Nat.add_lt_add_left less _)
  · have indices : (dirty.bitmap.zipIdx.map Prod.snd).Pairwise (· < ·) := by
      rw [zipIdx_map_snd]
      exact pairwise_lt_range' 1
    refine (pairwise_map.mp indices).imp fun {first second} less page member other otherMember => ?_
    simp only [mem_map, mem_filter, mem_range] at member otherMember
    omega

theorem dirtyPages_eq : dirty.dirtyPages = dirty.setBits.filter (· < dirty.pageCount) := by
  rw [dirtyPages, setBits, filter_flatMap]
  refine flatMap_congr fun entry _ => ?_
  induction range 8 with
  | nil => rfl
  | cons offset rest ih =>
    simp only [filterMap_cons, ih, filter_cons]
    grind

private theorem dirtyCount_eq : dirty.dirtyCount = dirty.setBits.length := by
  conv_lhs => rw [dirtyCount, ← zipIdx_map_fst 0 dirty.bitmap, map_map]
  simp only [setBits, length_flatMap, length_map]
  rfl

theorem dirtyCount_iff :
    dirty.dirtyCount = dirty.dirtyPages.length ↔ ∀ page, dirty.pageCount ≤ page →
    dirty.bit page = false := by
  rw [dirtyCount_eq, dirtyPages_eq, eq_comm, length_filter_eq_length_iff]
  simp only [mem_setBits, decide_eq_true_eq]
  grind

end DirtyBitmap

variable {Rate : Type} [LT Rate] [DecidableLT Rate]

structure ConvergenceDetector (Rate : Type) where
  thresholdPagesPerSec : Rate
  maxRounds : U32

def ConvergenceDetector.shouldStopAndCopy (convergence : ConvergenceDetector Rate)
    (dirtyRate : Option Rate) (round : U32) : Bool :=
  if round ≥ convergence.maxRounds then true
  else
    match dirtyRate with
    | some rate => rate < convergence.thresholdPagesPerSec
    | none => false

structure DirtySnapshot (Rate : Type) where
  bitmap : DirtyBitmap
  rate : Option Rate

inductive PreCopyAction where
  | sendPages (round : U32) (dirtyPageIndices : List Nat)
  | stopAndCopy (round : U32)

def PreCopyAction.pages : PreCopyAction → List Nat
  | .sendPages _ pages => pages
  | .stopAndCopy _ => []

structure PreCopyState (Rate : Type) where
  round : U32 := 0
  totalPagesSent : U64 := 0
  convergence : ConvergenceDetector Rate

namespace PreCopyState
variable (state : PreCopyState Rate) (snapshots : List (DirtySnapshot Rate))
  (snapshot : DirtySnapshot Rate)

def processSnapshot : PreCopyState Rate × PreCopyAction :=
  let round := state.round + 1
  let pages := snapshot.bitmap.dirtyPages
  if pages.isEmpty then ({ state with round := round }, .stopAndCopy round)
  else if state.convergence.shouldStopAndCopy snapshot.rate round then
    ({ state with round := round }, .stopAndCopy round)
  else
    ({ state with
        round := round
        totalPagesSent := state.totalPagesSent + BitVec.ofNat 64 pages.length },
      .sendPages round pages)

def processAll (state : PreCopyState Rate) : List (DirtySnapshot Rate) →
    PreCopyState Rate × List PreCopyAction
  | [] => (state, [])
  | snapshot :: rest =>
    let (next, action) := state.processSnapshot snapshot
    let (last, actions) := next.processAll rest
    (last, action :: actions)

/-- A snapshot is answered by all its pages or by the end of the rounds. -/
def Answers (action : PreCopyAction) : Prop :=
  ∃ round, action = .stopAndCopy round ∨ action = .sendPages round snapshot.bitmap.dirtyPages

theorem processSnapshot_spec (state : PreCopyState Rate) (snapshot : DirtySnapshot Rate) :
    Answers snapshot (state.processSnapshot snapshot).2 ∧
      (state.processSnapshot snapshot).1 = { state with
        round := state.round + 1
        totalPagesSent := state.totalPagesSent +
          BitVec.ofNat 64 (state.processSnapshot snapshot).2.pages.length } ∧
      (state.convergence.maxRounds ≤ state.round + 1 →
        (state.processSnapshot snapshot).2 = .stopAndCopy (state.round + 1)) := by
  fun_cases processSnapshot state snapshot with
  | case1 round | case2 round =>
    exact ⟨⟨_, .inl rfl⟩, by simp [PreCopyAction.pages, round], fun _ => rfl⟩
  | case3 round pages _ goesOn =>
    exact ⟨⟨_, .inr rfl⟩, rfl, fun reached => absurd (if_pos reached) goesOn⟩

theorem processAll_spec (state : PreCopyState Rate) (snapshots : List (DirtySnapshot Rate)) :
    Forall₂ Answers snapshots (state.processAll snapshots).2 ∧
      (state.processAll snapshots).1.totalPagesSent = state.totalPagesSent +
        BitVec.ofNat 64 ((state.processAll snapshots).2.map (·.pages.length)).sum := by
  induction snapshots generalizing state with
  | nil => exact ⟨.nil, (BitVec.add_zero _).symm⟩
  | cons snapshot rest ih =>
    obtain ⟨answers, after, -⟩ := state.processSnapshot_spec snapshot
    obtain ⟨others, total⟩ := ih (state.processSnapshot snapshot).1
    refine ⟨.cons answers others, total.trans ?_⟩
    rw [after]
    simp [processAll, after, BitVec.ofNat_add, BitVec.add_assoc]

private theorem processAll_stops (call : Nat) (given : call < snapshots.length)
    (reached : state.convergence.maxRounds ≤ state.round + BitVec.ofNat 32 (call + 1)) :
    (state.processAll snapshots).2[call]? =
    some (.stopAndCopy (state.round + BitVec.ofNat 32 (call + 1))) := by
  induction snapshots generalizing state call with
  | nil => exact absurd given (Nat.not_lt_zero _)
  | cons snapshot rest ih =>
    obtain ⟨-, after, stops⟩ := state.processSnapshot_spec snapshot
    cases call with
    | zero => exact congrArg some (stops reached)
    | succ call =>
      have same : state.round + BitVec.ofNat 32 (call + 1 + 1) =
        (state.processSnapshot snapshot).1.round + BitVec.ofNat 32 (call + 1) := by
        rw [after]
        bv_omega
      have kept : (state.processSnapshot snapshot).1.convergence = state.convergence := by rw [after]
      rw [same, ← kept] at reached
      rw [same]
      exact ih _ call (Nat.lt_of_succ_lt_succ given) reached

/-- Every snapshot is answered by its dirty pages, in ascending order, or by the end of the rounds,
which is reached in time. The pages are counted as long as the counter does not wrap; those of one
bitmap are as many as its count says if no bit behind them is set. -/
theorem pre_copy_exact (convergence : ConvergenceDetector Rate) :
    let result := processAll { convergence } snapshots
    Forall₂ Answers snapshots result.2 ∧
      (result.1.totalPagesSent.toNat = (result.2.map (·.pages.length)).sum ↔
        (result.2.map (·.pages.length)).sum < 2 ^ 64) ∧
      (∀ call < snapshots.length, call + 1 = max 1 convergence.maxRounds.toNat →
        ∃ round, result.2[call]? = some (.stopAndCopy round)) ∧
      ∀ dirty : DirtyBitmap, dirty.dirtyPages.Pairwise (· < ·) ∧
        (∀ page, page ∈ dirty.dirtyPages ↔ dirty.isDirty page = true) ∧
        (dirty.dirtyCount = dirty.dirtyPages.length ↔
          ∀ page, dirty.pageCount ≤ page → dirty.bit page = false) := by
  obtain ⟨answers, total⟩ := processAll_spec { convergence } snapshots
  refine ⟨answers, ?_, fun call given last => ⟨_, processAll_stops _ _ call given ?_⟩,
    fun dirty => ⟨?_, fun page => ?_, dirty.dirtyCount_iff⟩⟩
  · rw [total]
    dsimp only
    rw [BitVec.ofNat_eq_ofNat, BitVec.zero_add, BitVec.toNat_ofNat]
    exact Nat.mod_eq_iff_lt (by decide)
  · rw [last, BitVec.le_def]
    simp
    omega
  · rw [dirty.dirtyPages_eq]
    exact dirty.pairwise_setBits.filter _
  · simp [dirty.dirtyPages_eq, DirtyBitmap.isDirty, dirty.mem_setBits, and_comm]

/-- One page, with a bit set behind it. -/
theorem padding_counted :
    (DirtyBitmap.fromRaw [3] 4096).map (fun dirty => (dirty.dirtyCount, dirty.dirtyPages)) =
    .ok (2, [0]) := by
  decide +kernel

end PreCopyState
end Visor.Vmm
