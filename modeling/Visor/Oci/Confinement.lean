import Visor.Oci.Extraction

/-! An entry changes the target directory only if the links in the tree do not turn its path aside,
if what a whiteout leaves of its name is a name, and if a hard link's original is in the target. -/

namespace Visor.Oci
open Library Fs Command LayerMerger HostPath List Option Io Oci.Tree
variable {root : Location} {target : HostPath}
namespace HostPath
variable {path : HostPath} {name : Name} {dir : List Component}

theorem parts_of_fileName (named : path.fileName = some name) :
    ∃ dir, path.parts = dir ++ [.normal name] := by
  unfold fileName at named
  split at named
  next last =>
    cases named
    exact ⟨_, (dropLast_append_getLast? _ last).symm⟩
  · cases named

structure IsEntry (path : HostPath) (dir : List Component) (name : Name) : Prop where
  parts : path.parts = dir ++ [.normal name]
  relative : path.isAbsolute = false

namespace IsEntry
section
variable (entry : path.IsEntry dir name)
include entry

theorem below_eq : path.below = dir.filter (· ≠ .curDir) ++ [.normal name] := by
  unfold below
  rw [entry.parts, filter_append]
  rfl

theorem below_ne_nil : path.below ≠ [] := by
  rw [entry.below_eq]
  simp

theorem below_getLast? : path.below.getLast? = some (.normal name) := by
  rw [entry.below_eq, getLast?_concat]

theorem below_dropLast : path.below.dropLast = dir.filter (· ≠ .curDir) := by
  rw [entry.below_eq, dropLast_concat]

theorem parent_eq : path.parent = some ⟨dir, .plain⟩ := by
  unfold parent
  rw [entry.parts, getLast?_concat, dropLast_concat]

theorem parent_relative : isAbsolute ⟨dir, .plain⟩ = false := by
  have relative := entry.relative
  unfold isAbsolute at relative ⊢
  rw [entry.parts] at relative
  cases dir with
  | nil => rfl
  | cons => exact relative

theorem join_eq (target : HostPath) : target.join path = ⟨target.parts ++ path.below, path.ending⟩ := by
  unfold join
  rw [if_neg (by simp [entry.relative]), entry.parts, if_neg (by simp)]

theorem join_parent (target : HostPath) :
    (target.join ⟨dir, .plain⟩).parts = target.parts ++ path.below.dropLast := by
  unfold join
  rw [if_neg (by simp [entry.parent_relative]), entry.below_dropLast]
  rfl

theorem parent_join (target : HostPath) :
    (target.join path).parent = some ⟨target.parts ++ path.below.dropLast, .plain⟩ := by
  unfold parent
  rw [entry.join_eq]
  rw [getLast?_append_of_ne_nil _ entry.below_ne_nil, entry.below_getLast?,
    dropLast_append_of_ne_nil entry.below_ne_nil]

end
end IsEntry

theorem join_relative (target : HostPath) (relative : path.isAbsolute = false) :
    (target.join path).parts = target.parts ++ path.below ∧
    (path.parts ≠ [] → (target.join path).ending = path.ending) ∧
    (path.parts = [] → (target.join path).ending = .slash) := by
  unfold join
  rw [if_neg (by simp [relative])]
  refine ⟨rfl, fun nonempty => ?_, fun isEmpty => ?_⟩
  · simp [nonempty]
  · simp [isEmpty]

theorem ending_of_below_nil {bytes : List U8} (nothing : (ofBytes bytes).below = [])
    (nonempty : (ofBytes bytes).parts ≠ []) : (ofBytes bytes).ending ≠ .plain := by
  have skipped : ∀ part ∈ Path.split bytes, part = [] ∨ part = [0x2e] := by
    intro part member
    by_contra other
    obtain ⟨notEmpty, notDot⟩ := not_or.mp other
    obtain ⟨component, isComponent, notCurDir⟩ : ∃ component, Path.component part = some component ∧
      component ≠ .curDir := by
      unfold Path.component
      rw [if_neg (by simpa using notEmpty), if_neg notDot]
      split
      · exact ⟨_, rfl, Component.noConfusion⟩
      · exact ⟨_, rfl, Component.noConfusion⟩
    have inParts : component ∈ (ofBytes bytes).parts :=
      mem_append_right _ (mem_filterMap.mpr ⟨part, member, isComponent⟩)
    have inBelow : component ∈ (ofBytes bytes).below := mem_filter.mpr ⟨inParts, decide_eq_true notCurDir⟩
    rw [nothing] at inBelow
    cases inBelow
  obtain ⟨last, isLast⟩ : ∃ last, (Path.split bytes).getLast? = some last :=
    ⟨_, getLast?_eq_some_getLast (Path.split_ne_nil bytes)⟩
  have notEmpty : bytes ≠ [] := by
    rintro rfl
    exact nonempty (by decide)
  unfold ofBytes
  rw [isLast]
  rcases skipped last (mem_of_getLast? isLast) with rfl | rfl
  · simp [notEmpty]
  · simp

end HostPath

/-- What an entry needs of the tree: the way to its place is kept, and so are the other paths it
uses. -/
def Harmless (root : Location) (tree : Tree) (entry : Entry) : Prop :=
  let path := ofBytes entry.path
  let reached := Kept root tree path.below.dropLast
  pathIsUnsafe path = false → ∀ fileName, path.fileName.filter isUtf8 = some fileName →
    if fileName = opaqueWhiteout then reached
    else
      match stripPrefix whiteoutPrefix fileName with
      | some stripped => reached ∧ ofBytes stripped = .ofName stripped
      | none =>
        match entry.entryType with
        | .block | .char => True
        | .directory => reached ∧ Leads root tree path.below
        | .symlink => reached
        | .link => reached ∧ ∀ linkName, entry.linkName = some linkName →
          (ofBytes linkName).isAbsolute = false ∧
            Kept root tree (ofBytes linkName).below.dropLast
        | .other => reached ∧ (path.ending ≠ .plain → Leads root tree path.below)

section Entries
variable {path : HostPath} {dir : List Component} {name : Name}
  {ways leads : List (List Component)}

theorem ensures_createParent (context : Context) (isEntry : path.IsEntry dir name)
    (listed : path.below.dropLast ∈ ways) :
    Ensures (Filling root target ways leads) (createParent context (target.join path))
    (Filling root target ways leads) := by
  unfold createParent
  rw [isEntry.parent_join]
  exact (ensures_createDirAll rfl (.inr ⟨_, listed, dropLast_prefix _⟩)).withContext

section
variable (isEntry : path.IsEntry dir name)
include isEntry

theorem ensures_unpackWhiteout {stripped : Name} (isName : ofBytes stripped = .ofName stripped) :
    Ensures (Clearing root target [path.below.dropLast]) (unpackWhiteout ⟨target⟩ path stripped)
    (Sound root target) := by
  unfold unpackWhiteout
  rw [isEntry.parent_eq, isName]
  have isPath : ((target.join ⟨dir, .plain⟩).join (.ofName stripped)).parts =
    target.parts ++ (path.below.dropLast ++ [.normal stripped]) := by
    rw [← append_assoc, ← isEntry.join_parent]
    rfl
  refine (ensures_removeEntry isPath ⟨rfl, stripped, getLast?_concat⟩
    ⟨_, .head _, ?_⟩).weaken (fun _ holds => holds) fun _ holds => holds.sound
  rw [dropLast_concat]

theorem ensures_unpackOpaque :
    Ensures (Clearing root target [path.below.dropLast]) (unpackOpaque ⟨target⟩ path)
    (Sound root target) := by
  unfold unpackOpaque
  rw [isEntry.parent_eq]
  refine (Ensures.then (ensures_inspect _) fun isDir => ?_).weaken (fun _ holds => holds)
    fun _ holds => Clearing.sound holds
  split
  · exact (ensures_clearDirectory (isEntry.join_parent target) ⟨_, .head _, prefix_refl _⟩).withContext
  · exact ensures_pure _

theorem ensures_unpackDirectory (mode : Option U32) :
    Ensures (Filling root target [path.below.dropLast] [path.below])
    (unpackDirectory (target.join path) mode) (Sound root target) := by
  have isPath : (target.join path).parts = target.parts ++ path.below := by rw [isEntry.join_eq]
  have created : Ensures (Filling root target [path.below.dropLast] [path.below])
    (createDirAll (target.join path))
    (Filling root target [path.below.dropLast] [path.below]) :=
    ensures_createDirAll isPath (.inr ⟨_, .head _, prefix_refl _⟩)
  refine created.withContext.bind (fun _ => ?_) fun _ holds => holds.sound
  exact (ensures_setPermissions _ isPath isEntry.below_ne_nil (.head _)).withContext

end

theorem ensures_clearedParent {Value : Type} (context : Context)
    (isEntry : path.IsEntry dir name) (listed : path.below.dropLast ∈ ways) {next : Layering Value}
    (ensures : Ensures (Clearing root target ways) next (Sound root target)) :
    Ensures (Filling root target ways leads) (do
    createParent context (target.join path)
    let _ ← attempt (removeFile (target.join path))
    next) (Sound root target) := by
  have isPath : (target.join path).parts = target.parts ++ path.below := by rw [isEntry.join_eq]
  have removed : Ensures (Clearing root target ways) (removeFile (target.join path))
    (Clearing root target ways) :=
    ensures_removeFile isPath isEntry.below_ne_nil ⟨_, listed, prefix_refl _⟩
  refine (ensures_createParent context isEntry listed).bind (fun _ => ?_) fun _ holds => holds.sound
  refine Ensures.bind (removed.attempt.weaken (fun _ holds => Filling.clearing holds)
    fun _ holds => holds) (fun _ => ensures) fun _ holds => holds.sound

theorem ensures_unpackSymlink (isEntry : path.IsEntry dir name) (linkName : Option (List U8)) :
    Ensures (Filling root target [path.below.dropLast] [])
    (unpackSymlink path (target.join path) linkName) (Sound root target) := by
  cases linkName with
  | none => exact (ensures_throw _).weaken (fun _ holds => holds) fun _ holds => Filling.sound holds
  | some =>
    refine ensures_clearedParent _ isEntry (.head _) ?_
    exact (ensures_symlink _ (by rw [isEntry.join_eq]) isEntry.below_ne_nil
      ⟨_, .head _, prefix_refl _⟩).withContext

private theorem ensures_hardLink_of_relative {original : List U8} {leading : List (List Component)}
    (relative : (ofBytes original).isAbsolute = false) (isEntry : path.IsEntry dir name)
    (listed : path.below.dropLast ∈ leading) (also : (ofBytes original).below.dropLast ∈ leading) :
    Ensures (Clearing root target leading)
    (hardLink (target.join (.ofBytes original)) (target.join path)) (Sound root target) := by
  obtain ⟨isOriginal, plain, slash⟩ := join_relative target relative
  have isPath : (target.join path).parts = target.parts ++ path.below := by rw [isEntry.join_eq]
  by_cases nothing : (ofBytes original).below = []
  · -- The original is the target itself, which has no hard links.
    have notPlain : (target.join (.ofBytes original)).ending ≠ .plain := by
      by_cases isEmpty : (ofBytes original).parts = []
      · rw [slash isEmpty]
        exact Ending.noConfusion
      · rw [plain isEmpty]
        exact ending_of_below_nil nothing isEmpty
    refine ensures_inspect_bind ?_ fun _ holds => holds.sound
    rintro ⟨place, node⟩
    intro host holds
    dsimp only
    rw [require_bind_apply, if_neg (not_not.mpr (occupied_directory notPlain holds.2))]
    exact holds.1.sound
  · exact ensures_hardLink isOriginal nothing ⟨_, also, prefix_refl _⟩ isPath isEntry.below_ne_nil
      ⟨_, listed, prefix_refl _⟩

theorem ensures_unpackLink (isEntry : path.IsEntry dir name) (linkTarget : List U8)
    (relative : (ofBytes linkTarget).isAbsolute = false) :
    Ensures (Filling root target [path.below.dropLast, (ofBytes linkTarget).below.dropLast] [])
    (unpackLink ⟨target⟩ path (target.join path) (some linkTarget)) (Sound root target) :=
  ensures_clearedParent _ isEntry (.head _)
    (ensures_hardLink_of_relative relative isEntry (.head _) (.tail _ (.head _))).withContext

/-- The change was made to the object that a path names, or to the mode of the one that the path
leads to. -/
def Effect.At (host : Host) (path : HostPath) : Effect → Prop
  | .created place | .removed place => host.tree.locate host.cwd path.parts = .ok place
  | .modeSet place _ => host.tree.locate host.cwd path.parts = .ok place ∨
      host.resolve path = .ok place
  | .linkedTo _ => False

/-- What is asked of the archive library: an entry is written to the path it is unpacked to. The
object that the path names may be replaced, and nothing else in the tree changes. -/
structure WritesAt (unpack : Unpack) : Prop where
  cwd : ∀ entry dest host, (unpack entry dest host).2.cwd = host.cwd
  elsewhere : ∀ entry dest host place, host.tree.locate host.cwd dest.parts ≠ .ok place →
    (unpack entry dest host).2.tree.node place = host.tree.node place
  effects : ∀ entry dest host, ∃ effects,
    (unpack entry dest host).2.effects = host.effects ++ effects ∧
      ∀ effect ∈ effects, effect.At host dest

theorem WritesAt.ensures {unpack : Unpack} (writes : WritesAt unpack) {entry : Entry}
    {dest : HostPath} {way : List Component} (isDest : dest.parts = target.parts ++ way)
    (last : way.getLast? = some (.normal name)) :
    Ensures (fun host => Clearing root target [way.dropLast] host ∧ LeadsNow root host.tree way)
      (unpack entry dest) (Sound root target) := by
  rintro host ⟨clearing, leads⟩
  have sound := clearing.sound
  have nonempty : way ≠ [] := by
    rintro rfl
    cases last
  have located : ∀ place, host.tree.locate host.cwd dest.parts = .ok place →
      Below root place := by
    intro place found
    rw [isDest] at found
    exact locate_below sound (clearing.kept _ (.head _)) last found
  obtain ⟨effects, added, places⟩ := writes.effects entry dest host
  refine sound.changed (writes.cwd entry dest host)
    (fun place notBelow => writes.elsewhere entry dest host place fun found =>
      notBelow (located place found)) added fun effect member => ?_
  have isAt := places effect member
  cases effect with
  | created place | removed place => exact located place isAt
  | linkedTo => exact isAt.elim
  | modeSet place =>
    rcases isAt with found | resolved
    · exact (located place found).1
    · unfold Host.resolve at resolved
      rw [isDest, sound.resolve nonempty] at resolved
      exact leads place resolved

/-- Once a file at the end of the path has been removed, the path does not lead further. -/
theorem removeFile_leads {dest : HostPath} {way : List Component} {host : Host}
    (clearing : Clearing root target [way.dropLast] host)
    (isDest : dest.parts = target.parts ++ way) (last : way.getLast? = some (.normal name))
    (plain : dest.ending = .plain) : LeadsNow root (removeFile dest host).2.tree way := by
  have nonempty : way ≠ [] := by
    rintro rfl
    cases last
  have after : Clearing root target [way.dropLast] (removeFile dest host).2 :=
    ensures_removeFile isDest nonempty ⟨_, .head _, prefix_refl _⟩ host clearing
  have sub : (removeFile dest host).2.tree.Sub host.tree := by
    rw [removeFile_apply]
    split
    · split
      · exact fun _ _ found => found
      · exact sub_erase _ _
    · exact fun _ _ found => found
  have isLast : dest.parts.getLast? = some (.normal name) := by
    rw [isDest, getLast?_append_of_ne_nil _ nonempty, last]
  intro place resolved
  unfold Tree.resolve at resolved
  cases located : (removeFile dest host).2.tree.locate root way with
  | error =>
    rw [located] at resolved
    cases resolved
  | ok found =>
    have below : Below root found := by
      rw [← after.sound.locate nonempty] at located
      exact locate_below after.sound (after.kept _ (.head _)) last located
    have before : host.tree.locate host.cwd dest.parts = .ok found := by
      rw [isDest, clearing.sound.locate nonempty]
      exact sub.locate located
    rw [located] at resolved
    have followed : (removeFile dest host).2.tree.follow maxLinks found = .ok place := resolved
    unfold follow at followed
    split at followed
    · next link isLink => exact absurd isLink (removeFile_noLink plain isLast below.ne_nil before link)
    · cases followed
      exact below.1

private theorem ensures_unpackFile {unpack : Unpack} (writes : WritesAt unpack) {entry : Entry}
    (isEntry : path.IsEntry dir name) (leading : path.ending ≠ .plain → path.below ∈ leads) :
    Ensures (Filling root target [path.below.dropLast] leads)
      (unpackFile unpack entry (target.join path)) (Sound root target) := by
  have isDest : (target.join path).parts = target.parts ++ path.below := by rw [isEntry.join_eq]
  have ending : (target.join path).ending = path.ending := by rw [isEntry.join_eq]
  have removed : Ensures (Filling root target [path.below.dropLast] leads)
      (removeFile (target.join path)) fun host =>
        Clearing root target [path.below.dropLast] host ∧ LeadsNow root host.tree path.below := by
    intro host filling
    refine ⟨ensures_removeFile isDest isEntry.below_ne_nil ⟨_, .head _, prefix_refl _⟩ host
      filling.clearing, ?_⟩
    by_cases plain : path.ending = .plain
    · exact removeFile_leads filling.clearing isDest isEntry.below_getLast? (ending.trans plain)
    · rw [removeFile_notPlain (by rwa [ending])]
      exact filling.led _ (leading plain) _ (.refl _)
  refine (ensures_createParent _ isEntry (.head _)).bind (fun _ => ?_) fun _ holds => holds.sound
  refine removed.attempt.bind (fun _ => ?_) fun _ holds => holds.1.sound
  exact (writes.ensures isDest isEntry.below_getLast?).withContext

theorem unpackFile_sound {unpack : Unpack} (writes : WritesAt unpack) {entry : Entry} {host : Host}
    (isEntry : path.IsEntry dir name) (sound : Sound root target host)
    (reached : Kept root host.tree path.below.dropLast)
    (leading : path.ending ≠ .plain → Leads root host.tree path.below) :
    Sound root target (unpackFile unpack entry (target.join path) host).2 := by
  by_cases plain : path.ending = .plain
  · exact ensures_unpackFile writes isEntry (fun other => absurd plain other) host
      ⟨sound, by simpa using reached, fun _ => not_mem_nil.elim⟩
  · exact ensures_unpackFile writes isEntry (fun _ => .head []) host
      ⟨sound, by simpa using reached, by simpa using leading plain⟩

end Entries

theorem ensures_unpackEntry {unpack : Unpack} (writes : WritesAt unpack) (entry : Entry) :
    Ensures (fun host => Sound root target host ∧ Harmless root host.tree entry)
      (unpackEntry unpack ⟨target⟩ entry) (Sound root target) := by
  rintro host ⟨sound, harmless⟩
  unfold unpackEntry
  rw [require_bind_apply]
  by_cases isSafe : pathIsUnsafe (ofBytes entry.path) = false
  · rw [if_pos isSafe]
    cases named : (ofBytes entry.path).fileName.filter isUtf8 with
    | none => exact sound
    | some fileName =>
      obtain ⟨dir, parts⟩ := parts_of_fileName (filter_eq_some_iff.mp named).1
      have isEntry : (ofBytes entry.path).IsEntry dir fileName :=
        ⟨parts, (Bool.or_eq_false_iff.mp isSafe).1⟩
      have needs := harmless isSafe fileName named
      have filling : ∀ ways leads, (∀ way ∈ ways, Kept root host.tree way) →
        (∀ way ∈ leads, Leads root host.tree way) → Filling root target ways leads host :=
        fun ways leads kept led => ⟨sound, kept, led⟩
      dsimp only at needs ⊢
      by_cases isOpaque : fileName = opaqueWhiteout
      · rw [if_pos isOpaque] at needs ⊢
        exact ensures_unpackOpaque isEntry host (filling [_] [] (by simpa using needs) (by simp)).clearing
      · rw [if_neg isOpaque] at needs ⊢
        cases isWhiteout : stripPrefix whiteoutPrefix fileName with
        | some =>
          rw [isWhiteout] at needs
          exact ensures_unpackWhiteout isEntry needs.2 host
            (filling [_] [] (by simpa using needs.1) (by simp)).clearing
        | none =>
          rw [isWhiteout] at needs
          cases kind : entry.entryType with
          | block | char => exact sound
          | directory =>
            rw [kind] at needs
            exact ensures_unpackDirectory isEntry entry.mode host
              (filling [_] [_] (by simpa using needs.1) (by simpa using needs.2))
          | symlink =>
            rw [kind] at needs
            exact ensures_unpackSymlink isEntry entry.linkName host
              (filling [_] [] (by simpa using needs) (by simp))
          | link =>
            rw [kind] at needs
            cases linked : entry.linkName with
            | none => exact sound
            | some linkName =>
              obtain ⟨relative, kept⟩ := needs.2 linkName linked
              exact ensures_unpackLink isEntry linkName relative host
                (filling [_, _] [] (by simpa using ⟨needs.1, kept⟩) (by simp))
          | other =>
            rw [kind] at needs
            exact unpackFile_sound writes isEntry sound needs.1 needs.2
  · rw [if_neg isSafe]
    exact sound

structure Progress where
  host : Host
  stopped : Bool

open Progress

/-- What is left of a command's outcome: the state, and whether it failed. -/
def Progress.of {Value : Type} (outcome : Except LayerError Value × Host) : Progress :=
  ⟨outcome.2, !outcome.1.isOk⟩

/-- Nothing is done after a failure. An entry that cannot be read is one. -/
def Progress.advance (unpack : Unpack) (target : HostPath) (progress : Progress) :
    Option Entry → Progress
  | none => { progress with stopped := true }
  | some entry =>
    if progress.stopped then progress
    else .of (unpackEntry unpack ⟨target⟩ entry progress.host)

/-- The entries of all layers. A layer that cannot be opened has one that cannot be read. -/
def entriesOf (layers : List (Option (List (Option Entry)))) : List (Option Entry) :=
  layers.flatMap fun layer => layer.getD [none]

theorem run_stopped (unpack : Unpack) (target : HostPath) (host : Host)
    (entries : List (Option Entry)) :
    run (advance unpack target) ⟨host, true⟩ entries = ⟨host, true⟩ := by
  induction entries with
  | nil => rfl
  | cons entry rest ih =>
    cases entry with
    | none | some => exact ih

theorem of_withContext {Value : Type} (context : LayerError → LayerError)
    (command : Layering Value) (host : Host) :
    of ((command.withContext context : Layering Value) host) = .of (command host) := by
  unfold of withContext
  obtain ⟨_ | _, next⟩ := command host
  · rfl
  · rfl

theorem of_bind {Value Result : Type} (unpack : Unpack) (target : HostPath)
    (first : Layering Value) (second : Value → Layering Result) (host : Host)
    (entries : List (Option Entry))
    (continues : ∀ value next,
      of (second value next) = run (advance unpack target) ⟨next, false⟩ entries) :
    of ((first >>= second) host) = run (advance unpack target) (.of (first host)) entries := by
  have result : (first >>= second) host =
      ExceptT.bindCont second (first host).1 (first host).2 := rfl
  rw [result]
  obtain ⟨_ | value, next⟩ := first host
  · exact (run_stopped unpack target next entries).symm
  · exact continues value next

theorem unpackLayerFromReader_run (unpack : Unpack) (target : HostPath)
    (entries : List (Option Entry)) (host : Host) :
    of (unpackLayerFromReader unpack ⟨target⟩ entries host) =
      run (advance unpack target) ⟨host, false⟩ entries := by
  induction entries generalizing host with
  | nil => rfl
  | cons item rest ih =>
    cases item with
    | none => exact (run_stopped unpack target host rest).symm
    | some => exact of_bind unpack target _ _ host rest fun _ next => ih next

theorem mergeLayers_run (unpack : Unpack) (target : HostPath)
    (layers : List (Option (List (Option Entry)))) (host : Host) :
    of (mergeLayers unpack ⟨target⟩ layers host) =
      run (advance unpack target) ⟨host, false⟩ (entriesOf layers) := by
  unfold mergeLayers
  generalize 0 = index
  induction layers generalizing host index with
  | nil => rfl
  | cons layer rest ih =>
    have opened : of (((unpackLayer unpack ⟨target⟩ layer).withContext
        (.during (.layer index) target) : Layering Unit) host) =
        run (advance unpack target) ⟨host, false⟩ (layer.getD [none]) := by
      rw [of_withContext]
      cases layer with
      | none => rfl
      | some entries => exact unpackLayerFromReader_run unpack target entries host
    show _ = run (advance unpack target) ⟨host, false⟩ (layer.getD [none] ++ entriesOf rest)
    rw [run_append, ← opened]
    exact of_bind unpack target _ _ host (entriesOf rest) fun _ next => ih next (index + 1)

/-- A merge of harmless entries changes the target directory only, which stays. -/
theorem mergeLayers_confined {unpack : Unpack} (writes : WritesAt unpack) {start : Host}
    {layers : List (Option (List (Option Entry)))} (sound : Sound root target start)
    (harmless : Along (advance unpack target) (fun progress item =>
      progress.stopped = false → ∀ entry, item = some entry →
        Harmless root progress.host.tree entry) ⟨start, false⟩ (entriesOf layers)) :
    (∀ effect ∈ (mergeLayers unpack ⟨target⟩ layers start).2.effects, effect.Inside root) ∧
      (mergeLayers unpack ⟨target⟩ layers start).2.tree.node root = some .directory := by
  have merged := congrArg host (mergeLayers_run unpack target layers start)
  have kept : Sound root target
      (run (advance unpack target) ⟨start, false⟩ (entriesOf layers)).host := by
    refine invariant_run (fun progress : Progress => Sound root target progress.host)
      (fun progress item holds admitted => ?_) sound harmless
    cases item with
    | none => exact holds
    | some entry =>
      unfold advance
      cases stopped : progress.stopped with
      | true => exact holds
      | false =>
        exact ensures_unpackEntry writes entry progress.host ⟨holds, admitted stopped entry rfl⟩
  rw [← merged] at kept
  exact ⟨kept.inside, kept.standing⟩

/-- How a regular file is unpacked: it is created where nothing is, and takes the entry's mode. -/
def unpackRegular : Unpack := fun entry dest => do
  let place ← inspect (·.vacant dest)
  require (dest.ending = .plain) .eisdir
  update (Host.create place .file)
  match entry.mode with
  | some mode => update (Host.note (.modeSet place mode))
  | none => return

private theorem unpackRegular_apply (entry : Entry) (dest : HostPath) (host : Host) :
    (unpackRegular entry dest host).2 = host ∨
      ∃ place, host.tree.locate host.cwd dest.parts = .ok place ∧ place ≠ [] ∧
        (unpackRegular entry dest host).2 = match entry.mode with
          | some mode => (host.create place .file).note (.modeSet place mode)
          | none => host.create place .file := by
  unfold unpackRegular
  cases found : host.vacant dest with
  | error => exact .inl (by rw [inspect_bind_error (fun host : Host => host.vacant dest) found])
  | ok place =>
    rw [inspect_bind_ok (fun host : Host => host.vacant dest) found, require_bind_apply]
    split
    · obtain ⟨located, missing⟩ := locate_of_vacant found
      refine .inr ⟨place, located, ?_, ?_⟩
      · rintro rfl
        cases missing
      · cases entry.mode with
        | none | some => rfl
    · exact .inl rfl

theorem writesAt_unpackRegular : WritesAt unpackRegular where
  cwd entry dest host := by
    rcases unpackRegular_apply entry dest host with same | ⟨_, _, _, created⟩
    · rw [same]
    · rw [created]
      cases entry.mode with
      | none | some => rfl
  elsewhere entry dest host place other := by
    rcases unpackRegular_apply entry dest host with same | ⟨here, located, nonempty, created⟩
    · rw [same]
    · have apart : place ≠ here := by
        rintro rfl
        exact other located
      have inserted : (unpackRegular entry dest host).2.tree = host.tree.insert here .file := by
        rw [created]
        cases entry.mode with
        | none | some => rfl
      rw [inserted, node_insert _ _ nonempty, if_neg apart]
  effects entry dest host := by
    rcases unpackRegular_apply entry dest host with same | ⟨here, located, _, created⟩
    · exact ⟨[], by rw [same, append_nil], fun _ => not_mem_nil.elim⟩
    · rw [created]
      cases entry.mode with
      | none => exact ⟨[.created here], rfl, by simpa [Effect.At] using located⟩
      | some mode =>
        refine ⟨[.created here, .modeSet here mode], by simp [Host.create, Host.note], ?_⟩
        intro effect member
        rcases (by simpa using member : effect = _ ∨ effect = _) with rfl | rfl
        · exact located
        · exact .inl located

def startHost : Host where
  tree := ⟨[(⟨[[0x74]], .directory⟩ : (_ : Location) × Node), ⟨[[0x65]], .directory⟩,
    ⟨[[0x65], [0x66]], .file⟩].toAList⟩
  cwd := []
  effects := []

def targetT : HostPath := .ofBytes [0x2f, 0x74]

theorem startHost_sound : Sound [[0x74]] targetT startHost where
  anchored tree agrees := by
    have there : tree.node [[0x74]] = some .directory := agrees [[0x74]] fun below => below.2 rfl
    have entered : tree.enter maxLinks [] (.normal [0x74]) = .ok [[0x74]] := by
      unfold enter
      rw [nil_append, there]
    show tree.enter maxLinks [] (.normal [0x74]) >>= pure = .ok [[0x74]]
    rw [entered]
    rfl
  standing := rfl
  inside _ member := nomatch member

def archived (path : List U8) (entryType : EntryType) (linkName : Option (List U8)) : Entry :=
  ⟨path, entryType, linkName, some 0o755⟩

/-- A directory `d`, a file `d/f` and a link `d/l` out of the target; then `d/f` is taken away. -/
def fourEntries : List (Option (List (Option Entry))) :=
  [some [some (archived [0x64] .directory none), some (archived [0x64, 0x2f, 0x66] .other none)],
    some [some (archived [0x64, 0x2f, 0x6c] .symlink (some [0x2f, 0x65])),
      some (archived [0x64, 0x2f, 0x2e, 0x77, 0x68, 0x2e, 0x66] .other none)]]

private theorem fourEntries_harmless :
    Along (advance unpackRegular targetT)
    (fun progress item => progress.stopped = false → ∀ entry, item = some entry →
      Harmless [[0x74]] progress.host.tree entry) ⟨startHost, false⟩ (entriesOf fourEntries) := by
  refine ⟨?_, ?_, ?_, ?_, trivial⟩
  · rintro _ _ ⟨⟩ _ fileName named
    have isName : [0x64] = fileName := some.inj (Eq.trans (by decide) named)
    subst isName
    exact ⟨(show Straight _ _ [] by decide +kernel).kept,
      (show Straight _ _ [[0x64]] by decide +kernel).leads⟩
  · rintro _ _ ⟨⟩ _ fileName named
    have isName : [0x66] = fileName := some.inj (Eq.trans (by decide) named)
    subst isName
    exact ⟨(show Straight _ _ [[0x64]] by decide +kernel).kept, fun other => absurd (by decide) other⟩
  · rintro _ _ ⟨⟩ _ fileName named
    have isName : [0x6c] = fileName := some.inj (Eq.trans (by decide) named)
    subst isName
    exact (show Straight _ _ [[0x64]] by decide +kernel).kept
  · rintro _ _ ⟨⟩ _ fileName named
    have isName : [0x2e, 0x77, 0x68, 0x2e, 0x66] = fileName := some.inj (Eq.trans (by decide) named)
    subst isName
    exact ⟨(show Straight _ _ [[0x64]] by decide +kernel).kept, by decide⟩

/-- Four entries stay in `/t`, a link out of it among them. -/
theorem fourEntries_confined :
    (∀ effect ∈ (mergeLayers unpackRegular ⟨targetT⟩ fourEntries startHost).2.effects,
      effect.Inside [[0x74]]) ∧
    (mergeLayers unpackRegular ⟨targetT⟩ fourEntries startHost).2.tree.node [[0x74]] = some .directory :=
  mergeLayers_confined writesAt_unpackRegular startHost_sound fourEntries_harmless

def linkOut : Option Entry := some (archived [0x6c] .symlink (some [0x2f, 0x65]))

/-- With a link `l` to `/e`, the file `l/x` is created in `/e`, and the directory `l` changes the
mode of `/e`. A hard link takes `/e/f`, and the whiteout of an empty name removes the target. -/
theorem mergeLayers_escapes :
    Sound [[0x74]] targetT startHost ∧
    (∃ effect ∈ (mergeLayers unpackRegular
      ⟨targetT⟩ [some [linkOut, some (archived [0x6c, 0x2f, 0x78] .other none)]]
      startHost).2.effects, effect = .created [[0x65], [0x78]] ∧ ¬ effect.Inside [[0x74]]) ∧
    (∃ effect ∈ (mergeLayers unpackRegular
      ⟨targetT⟩ [some [linkOut], some [some (archived [0x6c] .directory none)]]
      startHost).2.effects, effect = .modeSet [[0x65]] 0o755 ∧ ¬ effect.Inside [[0x74]]) ∧
    (∃ effect ∈ (mergeLayers unpackRegular
      ⟨targetT⟩ [some [some (archived [0x68] .link (some [0x2f, 0x65, 0x2f, 0x66]))]]
      startHost).2.effects, effect = .linkedTo [[0x65], [0x66]] ∧ ¬ effect.Inside [[0x74]]) ∧
    (mergeLayers unpackRegular ⟨targetT⟩ [some [some (archived whiteoutPrefix .other none)]]
      startHost).2.tree.node [[0x74]] = none := by
  have outside : ∀ rest : Location, ¬ [[0x74]] <+: [0x65] :: rest := by
    intro rest inside
    exact absurd (cons_prefix_cons.mp inside).1 (by decide)
  refine ⟨startHost_sound, ⟨_, ?_, rfl, fun below => outside _ below.1⟩,
    ⟨_, ?_, rfl, fun below => outside _ below⟩, ⟨_, ?_, rfl, fun below => outside _ below.1⟩, ?_⟩
  all_goals decide +kernel

end Visor.Oci
