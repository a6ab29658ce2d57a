import Mathlib.Data.List.TakeDrop
import Visor.Oci.LayerCache

/-! While no two tasks write to one folder at once, the temporary file of the folder holds what its
one writer has written so far. So every other name stands for a whole file, also after a crash. -/

namespace Visor.Oci
open List ImageReference StoredFile
open Backend (Text)
open Library
namespace LayerCache
def IsTmp (name : Text) : Prop := ∃ pid, name = tmpName pid

variable (cache : LayerCache)

theorem isTmp_tmpPlace (folder : Folder) : IsTmp (cache.tmpPlace folder).name := ⟨cache.pid, rfl⟩

theorem tmpPlace_ne {one other : Folder} (differ : one ≠ other) :
    cache.tmpPlace one ≠ cache.tmpPlace other := fun same => differ (Place.mk.inj same).1

theorem not_isTmp_hex (digest : HexDigest) : ¬ IsTmp digest.hex := by
  rintro ⟨pid, same⟩
  have dot : '.' ∈ digest.hex := by simp [same, tmpName]
  exact absurd (digest.digits '.' dot) (by decide)

theorem not_isTmp_manifestKey (registry repository tag : Text) :
    ¬ IsTmp (manifestKey registry repository tag) := by
  rintro ⟨pid, same⟩
  have last : (manifestKey registry repository tag).getLast? = some 'n' := by
    simp [manifestKey, getLast?_cons, getLast?_append]
  have digits : decimal pid ≠ [] := Nat.toDigits_ne_nil
  rw [same, tmpName, getLast?_append_of_ne_nil _ digits] at last
  exact absurd (isDigit_of_mem_decimal (mem_of_getLast? last)) (by decide)

/-- Names that a crash can bring back: each file has one name, and a file with another name than
a temporary one is whole and no longer written to. -/
structure Recoverable (cache : LayerCache) (names : Names) : Prop where
  bounded : ∀ place file, names.lookup place = some file → file < cache.files.length
  single : ∀ one other file, names.lookup one = some file → names.lookup other = some file → one = other
  whole : ∀ place file, names.lookup place = some file → ¬ IsTmp place.name →
    ∃ data, cache.files[file]? = some ⟨data, true⟩ ∧ (place, data) ∈ cache.requested
  apart : ∀ place file, names.lookup place = some file → ¬ IsTmp place.name →
    ∀ folder, cache.names.lookup (cache.tmpPlace folder) ≠ some file

/-- What the temporary file of the folder holds at this point of the call. -/
def UnderWay (writer : Writer) : Prop :=
  match writer.phase with
  | .create => True
  | .fill file offset =>
      cache.names.lookup (cache.tmpPlace writer.dest.folder) = some file ∧
        ∃ synced, cache.files[file]? = some ⟨writer.data.take offset, synced⟩
  | .rename =>
      ∃ file, cache.names.lookup (cache.tmpPlace writer.dest.folder) = some file ∧
        cache.files[file]? = some ⟨writer.data, true⟩

structure Folders (sha256 : Bytes → HexDigest) (cache : LayerCache) : Prop where
  present : cache.names ∈ cache.journal
  recoverable : ∀ names ∈ cache.journal, Recoverable cache names
  verified : ∀ place data, (place, data) ∈ cache.requested → ¬ IsTmp place.name ∧
    (place.folder = .blobs → (sha256 data).hex = place.name)

structure Sound (sha256 : Bytes → HexDigest) (cache : LayerCache) : Prop extends Folders sha256 cache where
  asked : ∀ task writer, cache.writers.lookup task = some writer →
    (writer.dest, writer.data) ∈ cache.requested
  alone : ∀ task other writer rival, cache.writers.lookup task = some writer →
    cache.writers.lookup other = some rival → writer.dest.folder = rival.dest.folder → task = other
  underWay : ∀ task writer, cache.writers.lookup task = some writer → UnderWay cache writer

theorem sound_new (sha256 : Bytes → HexDigest) (pid : Nat) : Sound sha256 (new pid) where
  present := mem_singleton_self _
  recoverable := by
    intro names mem
    rw [new, mem_singleton] at mem
    subst mem
    constructor <;> simp
  verified := by simp [new]
  asked := by simp [new]
  alone := by simp [new]
  underWay := by simp [new]

section
variable {sha256 : Bytes → HexDigest} {cache changed : LayerCache} {names : Names} {folder : Folder}
  {file : Nat} {data : Bytes} {writer : Writer} {task : Nat}

theorem Recoverable.of_eq (recoverable : Recoverable cache names)
    (sameNames : changed.names = cache.names) (samePid : changed.pid = cache.pid)
    (sameFiles : changed.files = cache.files) (more : cache.requested ⊆ changed.requested) :
    Recoverable changed names where
  bounded := sameFiles ▸ recoverable.bounded
  single := recoverable.single
  whole place file named lasting := by
    obtain ⟨data, holds, known⟩ := recoverable.whole place file named lasting
    exact ⟨data, sameFiles ▸ holds, more known⟩
  apart place file named lasting folder := by
    rw [tmpPlace, sameNames, samePid]
    exact recoverable.apart place file named lasting folder

theorem Folders.of_eq (folders : Folders sha256 cache) (sameNames : changed.names = cache.names)
    (samePid : changed.pid = cache.pid) (sameFiles : changed.files = cache.files)
    (sameJournal : changed.journal = cache.journal)
    (sameRequested : changed.requested = cache.requested) : Folders sha256 changed where
  present := by
    rw [sameNames, sameJournal]
    exact folders.present
  recoverable names mem :=
    (folders.recoverable names (sameJournal ▸ mem)).of_eq sameNames samePid sameFiles
      (sameRequested ▸ List.Subset.refl _)
  verified := sameRequested ▸ folders.verified

theorem Folders.modify (folders : Folders sha256 cache) {target : Nat}
    (isTmp : cache.names.lookup (cache.tmpPlace folder) = some target) (change : StoredFile → StoredFile) :
    Folders sha256 (cache.withFiles (cache.files.modify target change)) where
  present := folders.present
  recoverable names mem := by
    have recoverable := folders.recoverable names mem
    refine ⟨fun place file named => ?_, recoverable.single, fun place file named lasting => ?_,
      recoverable.apart⟩
    · simpa [withFiles] using recoverable.bounded place file named
    · obtain ⟨data, holds, known⟩ := recoverable.whole place file named lasting
      have differ : target ≠ file :=
        fun same => recoverable.apart place file named lasting folder (same ▸ isTmp)
      exact ⟨data, by simp [withFiles, differ, holds], known⟩
  verified := folders.verified

theorem Recoverable.erase (recoverable : Recoverable changed names) (place : Place) :
    Recoverable changed (names.erase place) := by
  have kept (other : Place) (file : Nat) (named : (names.erase place).lookup other = some file) :
    names.lookup other = some file := by
    rw [KeyedMap.lookup_erase_eq] at named
    split at named
    · cases named
    · exact named
  exact ⟨fun other file named => recoverable.bounded other file (kept other file named),
    fun one other file named again =>
      recoverable.single one other file (kept one file named) (kept other file again),
    fun other file named => recoverable.whole other file (kept other file named),
    fun other file named => recoverable.apart other file (kept other file named)⟩

theorem Recoverable.insert (recoverable : Recoverable changed names)
    {place : Place} (bounded : file < changed.files.length)
    (nameless : ∀ other, names.lookup other = some file → other = place)
    (whole : ¬ IsTmp place.name → ∃ data, changed.files[file]? = some ⟨data, true⟩ ∧
      (place, data) ∈ changed.requested)
    (apart : ¬ IsTmp place.name → ∀ folder, changed.names.lookup (changed.tmpPlace folder) ≠
      some file) : Recoverable changed (names.insert place file) := by
  refine ⟨fun other found named => ?_, fun one other found named again => ?_,
    fun other found named lasting => ?_, fun other found named lasting => ?_⟩
  · simp only [KeyedMap.lookup_insert_eq] at named
    split at named
    · cases named
      exact bounded
    · exact recoverable.bounded other found named
  · simp only [KeyedMap.lookup_insert_eq] at named again
    split at named
    next isOne =>
      cases named
      split at again
      next isOther =>
        rw [isOne, isOther]
      · rw [isOne, nameless other again]
    · split at again
      next isOther =>
        cases again
        rw [isOther, nameless one named]
      · exact recoverable.single one other found named again
  · simp only [KeyedMap.lookup_insert_eq] at named
    split at named
    next same =>
      cases named
      exact same ▸ whole (same ▸ lasting)
    · exact recoverable.whole other found named lasting
  · simp only [KeyedMap.lookup_insert_eq] at named
    split at named
    next same =>
      cases named
      exact apart (same ▸ lasting)
    · exact recoverable.apart other found named lasting

section
variable (folders : Folders sha256 cache)
include folders

theorem Folders.create : Folders sha256 ((cache.withFiles (cache.files ++ [⟨[], false⟩])).withNames
    (cache.names.insert (cache.tmpPlace folder) cache.files.length)) where
  present := mem_cons_self
  recoverable names mem := by
    have fresh (names : Names) (mem : names ∈ cache.journal) (place : Place) :
      names.lookup place ≠ some cache.files.length := fun named =>
      absurd ((folders.recoverable names mem).bounded place _ named) (Nat.lt_irrefl _)
    have before (names : Names) (mem : names ∈ cache.journal) :
        Recoverable ((cache.withFiles (cache.files ++ [⟨[], false⟩])).withNames
          (cache.names.insert (cache.tmpPlace folder) cache.files.length)) names := by
      have recoverable := folders.recoverable names mem
      refine ⟨fun place file named => ?_, recoverable.single, fun place file named lasting => ?_,
        fun place file named lasting other => ?_⟩
      · have bound := recoverable.bounded place file named
        simp only [withNames, withFiles, length_append, length_singleton]
        omega
      · obtain ⟨data, holds, known⟩ := recoverable.whole place file named lasting
        refine ⟨data, ?_, known⟩
        simp only [withNames, withFiles]
        rw [getElem?_append_left (recoverable.bounded place file named), holds]
      · simp only [withNames, withFiles, tmpPlace, KeyedMap.lookup_insert_eq]
        split
        · rintro ⟨⟩
          exact fresh names mem place named
        · exact recoverable.apart place file named lasting other
    have temporary := isTmp_tmpPlace cache folder
    rcases mem_cons.mp mem with rfl | old
    · exact (before cache.names folders.present).insert (by simp [withNames, withFiles])
        (fun other named => absurd named (fresh _ folders.present other))
        (absurd temporary) (absurd temporary)
    · exact before names old
  verified := folders.verified

theorem Folders.move {dest : Place}
    (isTmp : cache.names.lookup (cache.tmpPlace dest.folder) = some file)
    (holds : cache.files[file]? = some ⟨data, true⟩) (known : (dest, data) ∈ cache.requested) :
    Folders sha256
    (cache.withNames ((cache.names.erase (cache.tmpPlace dest.folder)).insert dest file)) where
  present := mem_cons_self
  recoverable names mem := by
    have present := folders.recoverable _ folders.present
    have lasting := (folders.verified dest data known).1
    have freed (folder : Folder) (other : Nat) (named :
        ((cache.names.erase (cache.tmpPlace dest.folder)).insert dest file).lookup
          (cache.tmpPlace folder) = some other) :
        folder ≠ dest.folder ∧ cache.names.lookup (cache.tmpPlace folder) = some other := by
      have differ : cache.tmpPlace folder ≠ dest := fun same => lasting (same ▸ isTmp_tmpPlace cache folder)
      simp only [KeyedMap.lookup_insert_eq, KeyedMap.lookup_erase_eq, differ, if_false] at named
      split at named
      · cases named
      next other =>
        exact ⟨fun same => other (by rw [same]), named⟩
    have before (names : Names) (recoverable : Recoverable cache names) :
        Recoverable
          (cache.withNames ((cache.names.erase (cache.tmpPlace dest.folder)).insert dest file))
          names :=
      ⟨recoverable.bounded, recoverable.single, recoverable.whole,
        fun place found named permanent folder again =>
          recoverable.apart place found named permanent folder (freed folder found again).2⟩
    rcases mem_cons.mp mem with rfl | old
    · refine ((before cache.names present).erase _).insert
        (present.bounded _ file isTmp) (fun other named => ?_) (fun _ => ⟨data, holds, known⟩)
        (fun _ folder named => ?_)
      · rw [KeyedMap.lookup_erase_eq] at named
        split at named
        · cases named
        next differ =>
          exact absurd (present.single _ _ file named isTmp) differ
      · obtain ⟨differ, named⟩ := freed folder file named
        have same := present.single _ _ file named isTmp
        exact differ (congrArg Place.folder same)
    · exact before names (folders.recoverable names old)
  verified := folders.verified

theorem Folders.salvage (pid back : Nat) (disk : List Bytes) :
    Folders sha256 (cache.crash pid back disk) where
  present := mem_singleton_self _
  recoverable names mem := by
    cases mem_singleton.mp mem
    have chosen : cache.journal.getD back cache.names ∈ cache.journal := by
      rw [getD_eq_getElem?_getD]
      cases found : cache.journal[back]? with
      | none => exact folders.present
      | some => exact mem_of_getElem? found
    have recoverable := folders.recoverable _ chosen
    refine ⟨fun place file named => ?_, recoverable.single, fun place file named lasting => ?_,
      fun place file named lasting folder again => ?_⟩
    · simpa [crash, LayerCache.salvage] using recoverable.bounded place file named
    · obtain ⟨data, holds, known⟩ := recoverable.whole place file named lasting
      exact ⟨data, by simp [crash, LayerCache.salvage, holds], known⟩
    · have same := recoverable.single _ _ file named again
      exact lasting (same ▸ ⟨pid, rfl⟩)
  verified := folders.verified

end

/-- A task goes on, or ends, after a change of the folders that the writer of the other folder
does not notice. -/
theorem Sound.advance (sound : Sound sha256 cache) (found : cache.writers.lookup task = some writer)
    (folders : Folders sha256 changed) (sameRequested : changed.requested = cache.requested)
    (others : ∀ rival, rival.dest.folder ≠ writer.dest.folder → UnderWay cache rival →
      UnderWay changed rival) (next : ∀ other rival, changed.writers.lookup other = some rival →
      (other = task ∧ rival.dest = writer.dest ∧ rival.data = writer.data ∧
      UnderWay changed rival) ∨ (other ≠ task ∧ cache.writers.lookup other = some rival)) : Sound
    sha256 changed := by
  have folder (other : Nat) (rival : Writer) (runs : changed.writers.lookup other = some rival) :
      ∃ before, cache.writers.lookup other = some before ∧ before.dest = rival.dest := by
    rcases next other rival runs with ⟨rfl, dest, _⟩ | ⟨_, before⟩
    · exact ⟨writer, found, dest.symm⟩
    · exact ⟨rival, before, rfl⟩
  refine ⟨folders, fun other rival runs => ?_, fun one other mine rival runs alsoRuns same => ?_,
    fun other rival runs => ?_⟩
  · rw [sameRequested]
    rcases next other rival runs with ⟨rfl, dest, data, _⟩ | ⟨_, before⟩
    · rw [dest, data]
      exact sound.asked other writer found
    · exact sound.asked other rival before
  · obtain ⟨_, was, dest⟩ := folder one mine runs
    obtain ⟨_, wasToo, destToo⟩ := folder other rival alsoRuns
    exact sound.alone one other _ _ was wasToo (by rw [dest, destToo, same])
  · rcases next other rival runs with ⟨_, _, _, underWay⟩ | ⟨differ, before⟩
    · exact underWay
    · refine others rival (fun same => differ ?_) (sound.underWay other rival before)
      exact sound.alone other task rival writer before found same

theorem next_setPhase {phase : Phase} (sameWriters : changed.writers = cache.writers)
    (underWay : UnderWay changed { writer with phase := phase }) (other : Nat) (rival : Writer)
    (runs : (changed.setPhase task writer phase).writers.lookup other = some rival) :
    (other = task ∧ rival.dest = writer.dest ∧ rival.data = writer.data ∧
    UnderWay (changed.setPhase task writer phase) rival) ∨
    (other ≠ task ∧ cache.writers.lookup other = some rival) := by
  simp only [setPhase, KeyedMap.lookup_insert_eq, sameWriters] at runs
  split at runs
  next same =>
    cases runs
    exact .inl ⟨same, rfl, rfl, underWay⟩
  next differ =>
    exact .inr ⟨differ, runs⟩

theorem next_finish (sameWriters : changed.writers = cache.writers) (other : Nat) (rival : Writer)
    (runs : (changed.finish task).writers.lookup other = some rival) :
    other ≠ task ∧ cache.writers.lookup other = some rival := by
  simp only [finish, KeyedMap.lookup_erase_eq, sameWriters] at runs
  split at runs
  · cases runs
  next differ =>
    exact ⟨differ, runs⟩

theorem UnderWay.of_tmp (underWay : UnderWay cache writer)
    (same : ∀ file, cache.names.lookup (cache.tmpPlace writer.dest.folder) = some file →
      changed.names.lookup (changed.tmpPlace writer.dest.folder) = some file ∧
      changed.files[file]? = cache.files[file]?) : UnderWay changed writer := by
  unfold UnderWay at underWay ⊢
  split at underWay
  · trivial
  · obtain ⟨isTmp, synced, holds⟩ := underWay
    obtain ⟨stillTmp, stillHolds⟩ := same _ isTmp
    exact ⟨stillTmp, synced, stillHolds.trans holds⟩
  · obtain ⟨file, isTmp, holds⟩ := underWay
    obtain ⟨stillTmp, stillHolds⟩ := same file isTmp
    exact ⟨file, stillTmp, stillHolds.trans holds⟩

theorem UnderWay.modify (folders : Folders sha256 cache)
    {target : Nat} (isTmp : cache.names.lookup (cache.tmpPlace folder) = some target)
    (change : StoredFile → StoredFile) {rival : Writer} (differ : rival.dest.folder ≠ folder)
    (underWay : UnderWay cache rival) :
    UnderWay (cache.withFiles (cache.files.modify target change)) rival := by
  refine underWay.of_tmp fun file named => ⟨named, ?_⟩
  have distinct : target ≠ file := by
    rintro rfl
    have same := (folders.recoverable _ folders.present).single _ _ target named isTmp
    exact differ (congrArg Place.folder same)
  simp [withFiles, distinct]

theorem Sound.finish (sound : Sound sha256 cache) (task : Nat) : Sound sha256 (cache.finish task) where
  toFolders := sound.toFolders.of_eq rfl rfl rfl rfl rfl
  asked other writer runs := sound.asked other writer (next_finish rfl other writer runs).2
  alone one other writer rival runs alsoRuns :=
    sound.alone one other writer rival (next_finish rfl one writer runs).2
      (next_finish rfl other rival alsoRuns).2
  underWay other writer runs := sound.underWay other writer (next_finish rfl other writer runs).2

def Idle (cache : LayerCache) (folder : Folder) : Prop :=
  cache.writers.entries.all (fun entry => entry.2.dest.folder ≠ folder) = true
deriving Decidable

theorem Idle.ne (idle : cache.Idle folder) (runs : cache.writers.lookup task = some writer) :
    writer.dest.folder ≠ folder := by
  simpa using (KeyedMap.all_entries_iff _ _).mp idle task writer runs

theorem Sound.beginWrite (sound : Sound sha256 cache) (task : Nat)
    {dest : Place} (idle : cache.Idle dest.folder) (lasting : ¬ IsTmp dest.name)
    (verified : dest.folder = .blobs → (sha256 data).hex = dest.name) :
    Sound sha256 (cache.beginWrite task dest data) := by
  unfold LayerCache.beginWrite
  split
  · exact sound
  · have origin (other : Nat) (rival : Writer)
        (runs : (cache.writers.insert task ⟨dest, data, .create⟩).lookup other = some rival) :
        (other = task ∧ rival = ⟨dest, data, .create⟩) ∨
          (other ≠ task ∧ cache.writers.lookup other = some rival) := by
      rw [KeyedMap.lookup_insert_eq] at runs
      split at runs
      next same =>
        cases runs
        exact .inl ⟨same, rfl⟩
      next differ =>
        exact .inr ⟨differ, runs⟩
    refine ⟨⟨sound.present, fun names mem => ?_, fun place stored known => ?_⟩,
      fun other rival runs => ?_, fun one other mine rival runs alsoRuns same => ?_,
        fun other rival runs => ?_⟩
    · exact (sound.recoverable names mem).of_eq rfl rfl rfl (subset_cons_self _ _)
    · rcases mem_cons.mp known with same | before
      · cases same
        exact ⟨lasting, verified⟩
      · exact sound.verified place stored before
    · rcases origin other rival runs with ⟨_, rfl⟩ | ⟨_, before⟩
      · exact mem_cons_self
      · exact .tail _ (sound.asked other rival before)
    · rcases origin one mine runs with ⟨rfl, rfl⟩ | ⟨_, before⟩
      · rcases origin other rival alsoRuns with ⟨rfl, _⟩ | ⟨_, alsoBefore⟩
        · rfl
        · exact absurd same.symm (idle.ne alsoBefore)
      · rcases origin other rival alsoRuns with ⟨_, rfl⟩ | ⟨_, alsoBefore⟩
        · exact absurd same (idle.ne before)
        · exact sound.alone one other mine rival before alsoBefore same
    · rcases origin other rival runs with ⟨_, rfl⟩ | ⟨_, before⟩
      · trivial
      · exact sound.underWay other rival before

theorem Sound.createTmp (sound : Sound sha256 cache) (found : cache.writers.lookup task = some writer) :
    Sound sha256 (cache.createTmp task writer) := by
  unfold LayerCache.createTmp
  split
  next file isTmp =>
    refine sound.advance found ((sound.toFolders.modify isTmp _).of_eq rfl rfl rfl rfl rfl) rfl
      (fun rival differ => UnderWay.modify sound.toFolders isTmp _ differ)
      (next_setPhase rfl ⟨isTmp, false, ?_⟩)
    have bound := (sound.recoverable _ sound.present).bounded _ file isTmp
    simp [withFiles, bound]
  · refine sound.advance found (sound.toFolders.create.of_eq rfl rfl rfl rfl rfl) rfl
      (fun rival differ underWay => ?_) (next_setPhase rfl ⟨?_, false, ?_⟩)
    · refine underWay.of_tmp fun file named => ⟨?_, ?_⟩
      · exact (KeyedMap.lookup_insert_eq _ _ _ _).trans ((if_neg (cache.tmpPlace_ne differ)).trans named)
      · exact getElem?_append_left ((sound.recoverable _ sound.present).bounded _ file named)
    · exact (KeyedMap.lookup_insert_eq _ _ _ _).trans (if_pos rfl)
    · simp [withNames, withFiles]

theorem write_next {offset count : Nat} {synced : Bool} (inside : offset ≤ data.length) :
    write ⟨data.take offset, synced⟩ offset ((data.drop offset).take count) =
    ⟨data.take (offset + ((data.drop offset).take count).length), false⟩ := by
  have full : (data.take offset).length = offset := length_take_of_le inside
  have nothing : (data.take offset).drop (offset + ((data.drop offset).take count).length) = [] :=
    drop_eq_nil_of_le (by omega)
  have chunk := prefix_iff_eq_take.mp (List.take_prefix count (data.drop offset))
  simp only [write]
  rw [takeD_eq_take _ full.ge, nothing, take_add, ← chunk]
  simp

section
variable (sound : Sound sha256 cache) {task : Nat} {writer : Writer}
    (found : cache.writers.lookup task = some writer)
include sound found

theorem Sound.fillTmp {file offset : Nat} (phase : writer.phase = .fill file offset) (count : Nat) :
    Sound sha256 (cache.fillTmp task writer file offset count) := by
  have underWay := sound.underWay task writer found
  simp only [UnderWay, phase] at underWay
  obtain ⟨isTmp, synced, holds⟩ := underWay
  unfold LayerCache.fillTmp
  split
  next unfinished =>
    refine sound.advance found ((sound.toFolders.modify isTmp _).of_eq rfl rfl rfl rfl rfl) rfl
      (fun rival differ => UnderWay.modify sound.toFolders isTmp _ differ)
      (next_setPhase rfl ⟨isTmp, false, ?_⟩)
    simp [withFiles, holds, write_next unfinished.le]
  next finished =>
    refine sound.advance found ((sound.toFolders.modify isTmp _).of_eq rfl rfl rfl rfl rfl) rfl
      (fun rival differ => UnderWay.modify sound.toFolders isTmp _ differ)
      (next_setPhase rfl ⟨file, isTmp, ?_⟩)
    simp [withFiles, holds, take_of_length_le (Nat.le_of_not_lt finished)]

theorem Sound.renameTmp (phase : writer.phase = .rename) : Sound sha256 (cache.renameTmp task writer) := by
  have underWay := sound.underWay task writer found
  simp only [UnderWay, phase] at underWay
  obtain ⟨file, isTmp, holds⟩ := underWay
  have known := sound.asked task writer found
  have moved := sound.toFolders.move isTmp holds known
  simp only [LayerCache.renameTmp, isTmp]
  refine sound.advance found (moved.of_eq rfl rfl rfl rfl rfl) rfl
    (fun rival differ underWay => underWay.of_tmp fun other named => ⟨?_, rfl⟩)
    (fun other rival runs => .inr (next_finish rfl other rival runs))
  have notDest : cache.tmpPlace rival.dest.folder ≠ writer.dest :=
    fun same => (sound.verified _ _ known).1 (same ▸ isTmp_tmpPlace cache _)
  calc ((cache.names.erase (cache.tmpPlace writer.dest.folder)).insert writer.dest file).lookup
        (cache.tmpPlace rival.dest.folder)
      = cache.names.lookup (cache.tmpPlace rival.dest.folder) := by simp [notDest, cache.tmpPlace_ne differ]
    _ = some other := named

end

theorem Sound.crash (sound : Sound sha256 cache) (pid back : Nat) (disk : List Bytes) :
    Sound sha256 (cache.crash pid back disk) where
  toFolders := sound.toFolders.salvage pid back disk
  asked := by simp [LayerCache.crash]
  alone := by simp [LayerCache.crash]
  underWay := by simp [LayerCache.crash]

/-- A call begins only while no other call writes to the same folder. -/
def Serial (sha256 : Bytes → HexDigest) (cache : LayerCache) : Event → Prop
  | .put _ digest data => verifyDigest sha256 digest data = true → cache.Idle .blobs
  | .putManifest _ _ _ _ _ => cache.Idle .manifests
  | .turn _ _ | .fail _ | .crash _ _ _ => True

instance (sha256 : Bytes → HexDigest) (cache : LayerCache) (event : Event) :
    Decidable (cache.Serial sha256 event) := by
  unfold Serial
  split <;> infer_instance

theorem Sound.step (sound : Sound sha256 cache) (event : Event)
    (serial : cache.Serial sha256 event) : Sound sha256 (cache.step sha256 event) := by
  cases event with
  | put task digest data =>
    simp only [LayerCache.step, LayerCache.put]
    split
    next verified =>
      have named : (sha256 data).hex = blobName digest := by simpa [verifyDigest] using verified
      exact sound.beginWrite task (serial verified) (named ▸ not_isTmp_hex _) fun _ => named
    · exact sound
  | putManifest task => exact sound.beginWrite task serial (not_isTmp_manifestKey _ _ _) (by rintro ⟨⟩)
  | turn task count =>
    simp only [LayerCache.step, LayerCache.turn]
    split
    · exact sound
    next writer found =>
      split
      · exact sound.createTmp found
      next phase =>
        exact sound.fillTmp found phase count
      next phase =>
        exact sound.renameTmp found phase
  | fail task => exact sound.finish task
  | crash pid back disk => exact sound.crash pid back disk

/-- A blob that is found under a digest has this digest, and a manifest that is found was given
whole for its key. -/
structure Intact (sha256 : Bytes → HexDigest) (cache : LayerCache) : Prop where
  blobs : ∀ digest (hash : HexDigest) place, blobName digest = hash.hex →
    cache.get digest = some place → ∃ data, cache.read place = some data ∧ sha256 data = hash
  manifests : ∀ registry repository tag data, cache.getManifest registry repository tag = some data →
    (⟨.manifests, manifestKey registry repository tag⟩, data) ∈ cache.requested

theorem Sound.read (sound : Sound sha256 cache)
    {place : Place} (named : cache.names.lookup place = some file) (lasting : ¬ IsTmp place.name) :
    ∃ data, cache.read place = some data ∧ (place, data) ∈ cache.requested := by
  obtain ⟨data, holds, known⟩ := (sound.recoverable _ sound.present).whole place file named lasting
  exact ⟨data, by simp [LayerCache.read, named, holds], known⟩

private theorem HexDigest.eq_of_hex {one other : HexDigest} (same : one.hex = other.hex) : one = other := by
  cases one
  cases other
  cases same
  rfl

theorem Sound.intact (sound : Sound sha256 cache) : Intact sha256 cache where
  blobs digest hash place isHash visible := by
    obtain ⟨shown, rfl⟩ : cache.has digest = true ∧ ⟨.blobs, hash.hex⟩ = place := by
      simpa [LayerCache.get, isHash] using visible
    obtain ⟨file, named⟩ := Option.isSome_iff_exists.mp shown
    rw [isHash] at named
    obtain ⟨data, reads, known⟩ := sound.read named (not_isTmp_hex hash)
    exact ⟨data, reads, HexDigest.eq_of_hex ((sound.verified _ data known).2 rfl)⟩
  manifests registry repository tag data visible := by
    cases named : cache.names.lookup ⟨.manifests, manifestKey registry repository tag⟩ with
    | none => simp [getManifest, LayerCache.read, named] at visible
    | some =>
      obtain ⟨found, reads, known⟩ := sound.read named (not_isTmp_manifestKey registry repository tag)
      rw [getManifest, reads, Option.some.injEq] at visible
      exact visible ▸ known

end
end LayerCache

namespace ImageReference
variable (reference : ImageReference)

def cacheTag : Text := reference.tag.getD defaultTag
def triple : Text × Text × Text := (reference.registry, reference.repository, reference.cacheTag)
def key : Text := manifestKey reference.registry reference.repository reference.cacheTag

def words : List Text :=
  [reference.registry, reference.repository, reference.cacheTag].flatMap fun part =>
    splitAll '_' (flat part)

/-- No part of the name has the character that joins the parts of a key. -/
def Plain : Prop := '_' ∉ reference.registry ∧ '_' ∉ reference.repository ∧ '_' ∉ reference.cacheTag

theorem key_eq_iff (one other : ImageReference) : one.key = other.key ↔ one.words = other.words := by
  have split (reference : ImageReference) : splitAll '_' (flat reference.registry ++
      '_' :: (flat reference.repository ++ '_' :: flat reference.cacheTag)) =
        reference.words := by simp [words, splitAll_append]
  rw [← split, ← split, (splitAll_injective '_').eq_iff]
  simp only [key, manifestKey, ← append_assoc, ← cons_append]
  exact append_left_inj _

theorem flat_injOn {one other : Text} (plain : '_' ∉ one) (alsoPlain : '_' ∉ other)
    (same : flat one = flat other) : one = other := by
  have restored (text : Text) (plain : '_' ∉ text) :
    (flat text).map (fun char => if char = '_' then '/' else char) = text := by
    rw [flat, map_map]
    refine (map_congr_left fun char mem => ?_).trans (map_id text)
    have differ : char ≠ '_' := fun same => plain (same ▸ mem)
    by_cases slash : char = '/' <;> simp [slash, differ]
  rw [← restored one plain, ← restored other alsoPlain, same]

private theorem flat_eq_self {text : Text} (single : '/' ∉ text) : flat text = text := by
  refine (map_congr_left fun char mem => ?_).trans (map_id text)
  have differ : char ≠ '/' := fun same => single (same ▸ mem)
  exact if_neg differ

private theorem words_of_plain {reference : ImageReference} (accepted : reference.Accepted)
    (plain : reference.Plain) :
    reference.words = reference.registry ::
    (splitAll '_' (flat reference.repository) ++ [reference.cacheTag]) := by
  have tagSlash : '/' ∉ reference.cacheTag := by
    rw [cacheTag]
    cases tag : reference.tag with
    | none => decide
    | some text => exact accepted.noSlash.2 text tag
  simp only [words, flatMap_cons, flatMap_nil, append_nil]
  rw [flat_eq_self accepted.noSlash.1, flat_eq_self tagSlash, splitAll_of_not_mem plain.1,
    splitAll_of_not_mem plain.2.2, singleton_append]

theorem triple_eq_of_plain {one other : ImageReference} (accepted : one.Accepted)
    (alsoAccepted : other.Accepted) (plain : one.Plain) (alsoPlain : other.Plain)
    (same : one.words = other.words) : one.triple = other.triple := by
  rw [words_of_plain accepted plain, words_of_plain alsoAccepted alsoPlain] at same
  obtain ⟨registry, rest⟩ := cons.inj same
  obtain ⟨parts, tags⟩ := append_inj' rest rfl
  have repository := flat_injOn plain.2.1 alsoPlain.2.1 (splitAll_injective '_' parts)
  rw [triple, triple, registry, repository, singleton_inj.mp tags]

end ImageReference

namespace LayerCache
variable (sha256 : Bytes → HexDigest)

theorem cache_intact_and_keys_distinct (pid : Nat) (events : List Event)
    (serial : Along (step sha256) (Serial sha256) (new pid) events) :
    Throughout (step sha256) (Intact sha256) (new pid) events ∧
    ∀ one other : ImageReference, one.Accepted → other.Accepted → one.triple ≠ other.triple →
    (one.key ≠ other.key ↔ one.words ≠ other.words) ∧ (one.Plain → other.Plain → one.key ≠ other.key) := by
  constructor
  · exact throughout_of_invariant (Sound sha256)
      (fun cache event sound serial => sound.step event serial) (fun _ sound => sound.intact)
      (sound_new sha256 pid) serial
  · intro one other accepted alsoAccepted differ
    have keys := not_congr (key_eq_iff one other)
    refine ⟨keys, fun plain alsoPlain => keys.mpr fun same => differ ?_⟩
    exact triple_eq_of_plain accepted alsoAccepted plain alsoPlain same

/-- A digest for short runs: the length of the data, written many times. -/
def lengthDigest (data : Bytes) : HexDigest where
  hex := replicate 64 (if data.length % 2 = 0 then '0' else '1')
  length := length_replicate
  digits := by
    intro char mem
    rw [eq_of_mem_replicate mem]
    split <;> rfl

/-- A blob and a manifest stored at once, then another manifest, and a crash that undoes the last
renaming while a third one is written. -/
def serialWrites : List Event :=
  [.putManifest 0 defaultRegistry "a".toList "1".toList [1, 1],
    .put 1 (digestStart ++ (lengthDigest [5]).hex) [5],
    .turn 0 0, .turn 1 0, .turn 0 0, .turn 1 0, .turn 0 0, .turn 0 0, .turn 0 0, .turn 1 0,
    .turn 1 0, .putManifest 1 defaultRegistry "a".toList "1".toList [2], .turn 1 0, .turn 1 0,
      .turn 1 0, .turn 1 0,
    .putManifest 2 defaultRegistry "a".toList "1".toList [3, 3], .turn 2 0, .turn 2 0,
      .crash 8 2 [[], [], [7]]]

theorem serialWrites_intact : Along (step lengthDigest) (Serial lengthDigest) (new 7) serialWrites ∧
    Throughout (step lengthDigest) (Intact lengthDigest) (new 7) serialWrites := by
  have serial : Along (step lengthDigest) (Serial lengthDigest) (new 7) serialWrites := by decide +kernel
  exact ⟨serial, (cache_intact_and_keys_distinct lengthDigest 7 _ serial).1⟩

/-- Two writes at once: both tasks empty the temporary file, and the second writes over what the
first is about to rename. -/
def overlappingTurns : List Event := [.turn 0 0, .turn 1 0, .turn 0 1, .turn 1 0, .turn 0 0, .turn 0 0]

theorem overlap_mixes (one other : Place) (sameFolder : one.folder = other.folder) :
    let cache :=
      run (step sha256) (((new 7).beginWrite 0 one [1, 1]).beginWrite 1 other [2]) overlappingTurns
    (cache.names.lookup one).isSome = true ∧ cache.read one = some [2, 1] ∧
      cache.requested = [(other, [2]), (one, [1, 1])] := by
  simp [overlappingTurns, step, beginWrite, turn, createTmp, fillTmp, renameTmp, new, setPhase,
    withFiles, withNames, finish, tmpPlace, write, LayerCache.read, sameFolder, -AList.insert_empty]

def overlappingManifests : List Event :=
  .putManifest 0 defaultRegistry "a".toList "1".toList [1, 1] ::
    .putManifest 1 defaultRegistry "b".toList "1".toList [2] :: overlappingTurns

def overlappingBlobs : List Event :=
  .put 0 (digestStart ++ (sha256 [1, 1]).hex) [1, 1] :: .put 1 (digestStart ++ (sha256 [2]).hex)
    [2] :: overlappingTurns

theorem overlapping_writes_corrupt :
    (∀ sha256, ¬ Intact sha256 (run (step sha256) (new 7) overlappingManifests)) ∧
    (∀ sha256, sha256 [2, 1] ≠ sha256 [1, 1] →
      ¬ Intact sha256 (run (step sha256) (new 7) (overlappingBlobs sha256))) ∧
    ∃ one other, parse "docker.io/a_b:c".toList = .ok one ∧ parse "docker.io/a:b_c".toList =
    .ok other ∧ one.triple ≠ other.triple ∧ one.key = other.key := by
  refine ⟨fun sha256 intact => ?_, fun sha256 differ intact => ?_, ?_⟩
  · obtain ⟨_, reads, requested⟩ := overlap_mixes sha256
      ⟨.manifests, manifestKey defaultRegistry "a".toList "1".toList⟩
      ⟨.manifests, manifestKey defaultRegistry "b".toList "1".toList⟩ rfl
    simp only [overlappingManifests, run_cons, step, putManifest] at intact
    have known := intact.manifests defaultRegistry "a".toList "1".toList [2, 1] reads
    rw [requested] at known
    simp at known
  · have named (data : Bytes) : blobName (digestStart ++ (sha256 data).hex) =
      (sha256 data).hex := by simp [blobName]
    obtain ⟨present, reads, _⟩ :=
      overlap_mixes sha256 ⟨.blobs, (sha256 [1, 1]).hex⟩ ⟨.blobs, (sha256 [2]).hex⟩ rfl
    simp only [overlappingBlobs, run_cons, step, put, verifyDigest, named, beq_self_eq_true,
      if_true] at intact
    obtain ⟨data, found, hashed⟩ := intact.blobs (digestStart ++ (sha256 [1, 1]).hex) _
      ⟨.blobs, (sha256 [1, 1]).hex⟩ (named _)
      (by rw [LayerCache.get, has, named]; exact if_pos present)
    cases found.symm.trans reads
    exact differ hashed
  · refine ⟨⟨defaultRegistry, "a_b".toList, some "c".toList, none⟩,
      ⟨defaultRegistry, "a".toList, some "b_c".toList, none⟩, ?_⟩
    decide +kernel

end LayerCache
end Visor.Oci
