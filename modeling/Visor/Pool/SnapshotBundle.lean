import Mathlib.Logic.Function.Basic
import Visor.Library.Run

/-! The files of a bundle are written in place, one after the other, by saves that know nothing of
each other. A crash or an error is the last that is seen of a save. -/

namespace Visor.Pool
open Library List Function

inductive BundleFile where
  | memory
  | cpuState
  | rootfs
deriving DecidableEq

/-- A file truncated by a save, one with all that a save writes, or one with parts of several. -/
inductive Content where
  | truncated (save : Nat)
  | whole (save : Nat)
  | mixed

inductive Operation where
  | create (file : BundleFile)
  | writeAll (file : BundleFile)

/-- `save_snapshot_artifact`: `save_memory`, the CPU state and the copy of the root file system. -/
def saveSnapshotArtifact : List Operation :=
  [.create .memory, .writeAll .memory, .create .cpuState, .writeAll .cpuState, .create .rootfs,
    .writeAll .rootfs]

structure SnapshotDir where
  files : BundleFile → Option Content := fun _ => none
  /-- The operations that a save has done. -/
  done : Nat → Nat := fun _ => 0

namespace SnapshotDir

/-- What a save writes lands behind the truncation by another one, too. -/
def written (save : Nat) : Option Content → Content
  | some (.truncated owner) | some (.whole owner) => if owner = save then .whole save else .mixed
  | some .mixed | none => .mixed

def perform (dir : SnapshotDir) (save : Nat) : Operation → BundleFile → Option Content
  | .create file => update dir.files file (some (.truncated save))
  | .writeAll file => update dir.files file (some (written save (dir.files file)))

def step (dir : SnapshotDir) (save : Nat) : SnapshotDir :=
  match saveSnapshotArtifact[dir.done save]? with
  | none => dir
  | some operation =>
    { files := dir.perform save operation
      done := update dir.done save (dir.done save + 1) }

def hasSnapshot (dir : SnapshotDir) : Bool :=
  (dir.files .memory).isSome && (dir.files .cpuState).isSome && (dir.files .rootfs).isSome

/-- One save has written all the files. -/
def Complete (dir : SnapshotDir) : Prop := ∃ save, ∀ file, dir.files file = some (.whole save)

/-- All the operations of a save, without one of another save in between. -/
def wholeSave (save : Nat) : List Nat := .replicate saveSnapshotArtifact.length save

theorem run_wholeSave (dir : SnapshotDir) (save : Nat) (fresh : dir.done save = 0) :
    (∀ file, (run step dir (wholeSave save)).files file = some (.whole save)) ∧
      ∀ other, other ≠ save → (run step dir (wholeSave save)).done other = dir.done other := by
  simp only [wholeSave, saveSnapshotArtifact, length_cons, length_nil, replicate, run_cons,
    run_nil, step, fresh, perform, getElem?_cons_zero, getElem?_cons_succ, update_self,
    Nat.zero_add, Nat.reduceAdd]
  constructor
  · intro file
    cases file <;> simp [written]
  · intro other apart
    simp [apart]

theorem done_run (dir : SnapshotDir) {save : Nat} {events : List Nat} (absent : save ∉ events) :
    (run step dir events).done save = dir.done save := by
  induction events generalizing dir with
  | nil => rfl
  | cons event events ih =>
    obtain ⟨apart, later⟩ := not_or.mp (mem_cons.not.mp absent)
    refine (ih (dir.step event) later).trans ?_
    unfold step
    split
    next => rfl
    next => exact update_of_ne apart ..

theorem complete_run {saves : List Nat} (distinct : saves.Nodup) {dir : SnapshotDir}
    (fresh : ∀ save ∈ saves, dir.done save = 0)
    (start : saves = [] → dir.hasSnapshot → dir.Complete) :
    (run step dir (saves.flatMap wholeSave)).hasSnapshot →
      (run step dir (saves.flatMap wholeSave)).Complete := by
  induction saves generalizing dir with
  | nil => exact start rfl
  | cons save rest ih =>
    obtain ⟨absent, distinctRest⟩ := nodup_cons.mp distinct
    obtain ⟨files, others⟩ := run_wholeSave dir save (fresh save (.head _))
    rw [flatMap_cons, run_append]
    refine ih distinctRest (fun other member => ?_) fun _ _ => ⟨save, files⟩
    rw [others other (ne_of_mem_of_not_mem member absent), fresh other (.tail _ member)]

/-- Whatever was begun and broken off before, saves that then follow one another, each to its end,
leave a complete bundle. -/
theorem bundle_complete (events saves : List Nat) (distinct : saves.Nodup)
    (fresh : ∀ save ∈ saves, save ∉ events)
    (start : saves = [] → (run step {} events).hasSnapshot = false)
    (found : (run step {} (events ++ saves.flatMap wholeSave)).hasSnapshot) :
    (run step {} (events ++ saves.flatMap wholeSave)).Complete := by
  rw [run_append] at found ⊢
  refine complete_run distinct (fun save member => done_run {} (fresh save member)) ?_ found
  intro none present
  rw [start none] at present
  cases present

/-- A save that was broken off, then two whole ones. -/
theorem two_saves_complete :
    (run step {} ([2, 2, 2] ++ [0, 1].flatMap wholeSave)).Complete :=
  bundle_complete [2, 2, 2] [0, 1] (by decide) (by decide) nofun (by decide)

/-- A second save is broken off behind its first operation. -/
theorem bundle_broken :
    (run step {} (wholeSave 0 ++ [1])).hasSnapshot = true ∧
      ¬ (run step {} (wholeSave 0 ++ [1])).Complete := by
  refine ⟨by decide, ?_⟩
  rintro ⟨save, whole⟩
  exact nomatch (show some (Content.truncated 1) = _ from whole .memory)

end SnapshotDir
end Visor.Pool
