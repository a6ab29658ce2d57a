import Visor.Backend.Config

/-! Metadata of virtual machines on disk. A save writes its file in place and the cleanup looks only for
the file, so a save that stops inside it leaves metadata that nothing loads and nothing removes. -/

namespace Visor.Backend
open Option Function List

/-- The JSON form of the metadata. It ends with the brace that closes it, so no shorter text parses. -/
structure MetaCodec (VmMeta : Type) where
  encode : VmMeta → List U8
  decode : List U8 → Option VmMeta
  decode_encode : ∀ vm, decode (encode vm) = some vm
  decode_short : ∀ vm count, count < (encode vm).length → decode ((encode vm).take count) = none

/-- The directory of each machine, with its `vm_meta.json` if there is one. -/
abbrev StateDir := Text → Option (Option (List U8))

/-- How far a save came before it was broken off. -/
inductive SaveProgress where
  | nothing
  | directory
  /-- The file was truncated, and so many bytes have reached it. -/
  | written (count : Nat)

namespace StateDir
variable {VmMeta : Type} (codec : MetaCodec VmMeta) (dir : StateDir) (id : Text) (vm : VmMeta)

def saveVmMeta : SaveProgress → StateDir
  | .nothing => dir
  | .directory => update dir id (some (dir id).join)
  | .written count => update dir id (some (some ((codec.encode vm).take count)))

def cleanupIncomplete : StateDir := fun id => (dir id).filter isSome
def loadVmMeta : Option VmMeta := (dir id).join.bind codec.decode

/-- What a later start finds, after a save was broken off. -/
structure Recovers (after : StateDir) : Prop where
  complete : ∀ other old, dir.loadVmMeta codec other = some old →
    after.loadVmMeta codec other = some old ∨ other = id ∧ after.loadVmMeta codec other = some vm
  removed : ∀ other, after other = none → dir.loadVmMeta codec other = none
  loadable : ∀ other, (after other).isSome = true → (after.loadVmMeta codec other).isSome = true

/-- The file of the saved machine is not touched yet, or complete. -/
def Whole : SaveProgress → Prop
  | .written count => (codec.encode vm).length ≤ count
  | _ => True

/-- Every file that the save does not replace can be loaded. -/
def Loadable (progress : SaveProgress) : Prop :=
  ∀ other bytes, (∀ count, progress = .written count → other ≠ id) → (dir other).join = some bytes →
    (codec.decode bytes).isSome = true

variable {codec dir id vm}

theorem cleanup_eq (other : Text) : dir.cleanupIncomplete other = (dir other).join.map some := by
  unfold cleanupIncomplete
  rcases dir other with _ | _ | _ <;> rfl

theorem load_cleanup (other : Text) :
    dir.cleanupIncomplete.loadVmMeta codec other = dir.loadVmMeta codec other := by
  rw [loadVmMeta, loadVmMeta, cleanup_eq]
  cases (dir other).join with
  | none | some => rfl

theorem file_saved {progress : SaveProgress} {other : Text}
    (untouched : ∀ count, progress = .written count → other ≠ id) :
    (dir.saveVmMeta codec id vm progress other).join = (dir other).join := by
  cases progress with
  | nothing => rfl
  | directory =>
    by_cases same : other = id
    · rw [same, saveVmMeta, update_self, join_some]
    · rw [saveVmMeta, update_of_ne same]
  | written count => rw [saveVmMeta, update_of_ne (untouched count rfl)]

private theorem file_written (count : Nat) :
    (dir.saveVmMeta codec id vm (.written count) id).join = some ((codec.encode vm).take count) := by
  rw [saveVmMeta, update_self, join_some]

theorem recovers_iff (progress : SaveProgress) :
    Recovers codec dir id vm (dir.saveVmMeta codec id vm progress).cleanupIncomplete ↔
    Whole codec vm progress ∧ Loadable codec dir id progress := by
  have loads : ∀ other, (dir.saveVmMeta codec id vm progress).cleanupIncomplete.loadVmMeta codec other =
    (dir.saveVmMeta codec id vm progress other).join.bind codec.decode := load_cleanup
  constructor
  · rintro ⟨_, _, loadable⟩
    simp only [loads, cleanup_eq, isSome_map] at loadable
    refine ⟨?_, fun other bytes untouched there => ?_⟩
    · cases progress with
      | nothing | directory => trivial
      | written count =>
        have loaded := loadable id
        rw [file_written] at loaded
        by_contra short
        simp [codec.decode_short vm count (Nat.lt_of_not_le short)] at loaded
    · have loaded := loadable other
      rw [file_saved untouched, there] at loaded
      exact loaded rfl
  · rintro ⟨whole, loadable⟩
    have either : ∀ other, (∀ count, progress = .written count → other ≠ id) ∨
      other = id ∧ (dir.saveVmMeta codec id vm progress other).join.bind codec.decode = some vm := by
      intro other
      cases progress with
      | nothing | directory => exact .inl nofun
      | written count =>
        by_cases same : other = id
        · refine .inr ⟨same, ?_⟩
          rw [same, file_written, take_of_length_le whole]
          exact codec.decode_encode vm
        · exact .inl fun _ _ => same
    refine ⟨fun other old found => ?_, fun other gone => ?_, fun other there => ?_⟩
    · rw [loads]
      rcases either other with untouched | ⟨isId, new⟩
      · rw [file_saved untouched]
        exact .inl found
      · exact .inr ⟨isId, new⟩
    · rw [cleanup_eq, map_eq_none_iff] at gone
      rcases either other with untouched | ⟨_, new⟩
      · rw [file_saved untouched] at gone
        rw [loadVmMeta, gone, bind_none]
      · rw [gone] at new
        cases new
    · rw [loads]
      rcases either other with untouched | ⟨_, new⟩
      · rw [cleanup_eq, isSome_map, file_saved untouched] at there
        obtain ⟨bytes, found⟩ := isSome_iff_exists.mp there
        rw [file_saved untouched, found]
        exact loadable other bytes untouched found
      · rw [new]
        rfl

/-- A form of metadata with two values, in braces. -/
def bracedBool : MetaCodec Bool where
  encode value := [0x7b, if value then 0x74 else 0x66, 0x7d]
  decode bytes := [true, false].find? fun value => bytes = [0x7b, if value then 0x74 else 0x66, 0x7d]
  decode_encode := by decide
  decode_short vm count short := by
    rcases count with _ | _ | _ | count
    · rfl
    · cases vm <;> rfl
    · cases vm <;> rfl
    · rw [length_cons, length_cons, length_singleton] at short
      omega

theorem truncated_meta_lost :
    ¬ Recovers bracedBool (fun _ => some (some (bracedBool.encode true)))
    [] false
    (saveVmMeta bracedBool (fun _ => some (some (bracedBool.encode true)))
      [] false (.written 0)).cleanupIncomplete :=
  fun recovers => absurd (recovers.loadable [] (by decide)) (by decide)

end StateDir
end Visor.Backend
