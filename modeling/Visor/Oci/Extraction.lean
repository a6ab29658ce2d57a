import Visor.Library.Run
import Visor.Oci.HostTree

/-! The entries of a layer are put into the target directory one after the other. An entry whose
name starts with the whiteout prefix removes something instead. -/

namespace Visor.Oci
open Library Fs Command

def whiteoutPrefix : Name := [0x2e, 0x77, 0x68, 0x2e]
def opaqueWhiteout : Name := [0x2e, 0x77, 0x68, 0x2e, 0x2e, 0x77, 0x68, 0x2e, 0x2e, 0x6f, 0x70, 0x71]

/-- The kinds of entries that are told apart; `other` is a regular file or any other kind. -/
inductive EntryType where
  | directory
  | symlink
  | link
  | block
  | char
  | other
deriving DecidableEq

/-- An entry of an archive. The mode is absent if the header has none that can be read. -/
structure Entry where
  path : List U8
  entryType : EntryType
  linkName : Option (List U8)
  mode : Option U32

inductive Context where
  | openLayer
  | layer (index : Nat)
  | readEntry
  | applyOpaque
  | removeDirectory
  | removeFile
  | readDirectory
  | createDirectory
  | setPermissions
  | symlinkParent
  | createSymlink
  | hardlinkParent
  | createHardlink
  | fileParent
  | unpackEntry

inductive LayerError where
  | host (errno : Errno)
  | unreadable
  | unsafePath (path : HostPath)
  | noTarget (path : HostPath)
  | during (context : Context) (path : HostPath) (cause : LayerError)

abbrev Layering (Value : Type) := Command Host LayerError Value

variable (context : Context) (path : HostPath) {root : Location} {target : HostPath}
  {ways leads : List (List Component)} {way : List Component}

def calling {Value : Type} (call : Io Value) : Layering Value :=
  call.withContext fun errno => .during context path (.host errno)

def pathIsUnsafe : Bool := path.isAbsolute || path.parts.contains .parentDir

def removeEntry : Layering Unit := do
  match ← attempt (Io.symlinkMetadata path) with
  | .ok .directory => calling .removeDirectory path (Io.removeDirAll path)
  | .ok _ => calling .removeFile path (Io.removeFile path)
  | .error _ => return

def clearDirectory (dir : HostPath) : Layering Unit := do
  let names ← calling .readDirectory dir (Io.readDir dir)
  names.forM fun name => removeEntry (dir.join (.ofName name))

def setPermissions (path : HostPath) (mode : U32) : Layering Unit :=
  calling .setPermissions path (Io.setPermissions path mode)

/-- `entry.unpack(&dest)` of the archive library, which is not part of this program. -/
abbrev Unpack := Entry → HostPath → Io Unit

def stripPrefix (start name : Name) : Option Name :=
  if start.isPrefixOf name then some (name.drop start.length) else none

structure LayerMerger where
  target : HostPath

namespace LayerMerger
def new (target : HostPath) : Io LayerMerger := do
  Io.createDirAll target
  return ⟨target⟩

variable (merger : LayerMerger) (path dest : HostPath) (linkName : Option (List U8))

def unpackWhiteout (path : HostPath) (stripped : Name) : Layering Unit :=
  removeEntry (match path.parent with
    | some parent => (merger.target.join parent).join (.ofBytes stripped)
    | none => merger.target.join (.ofBytes stripped))

def unpackOpaque (path : HostPath) : Layering Unit := do
  match path.parent with
  | none => return
  | some parent =>
    let abs := merger.target.join parent
    if ← inspect (.ok <| ·.isDir abs) then
      (clearDirectory abs).withContext (.during .applyOpaque abs)

def createParent (context : Context) (dest : HostPath) : Layering Unit :=
  match dest.parent with
  | none => return
  | some parent => calling context dest (Io.createDirAll parent)

def unpackDirectory (dest : HostPath) (mode : Option U32) : Layering Unit := do
  calling .createDirectory dest (Io.createDirAll dest)
  setPermissions dest (mode.getD 0o755)

def unpackSymlink : Layering Unit := do
  match linkName with
  | none => throw (.noTarget path)
  | some linkTarget =>
    createParent .symlinkParent dest
    let _ ← attempt (Io.removeFile dest)
    calling .createSymlink dest (Io.symlink linkTarget dest)

def unpackLink : Layering Unit := do
  match linkName with
  | none => throw (.noTarget path)
  | some linkTarget =>
    let linkDest := merger.target.join (.ofBytes linkTarget)
    createParent .hardlinkParent dest
    let _ ← attempt (Io.removeFile dest)
    calling .createHardlink dest (Io.hardLink linkDest dest)

def unpackFile (unpack : Unpack) (entry : Entry) (dest : HostPath) : Layering Unit := do
  createParent .fileParent dest
  let _ ← attempt (Io.removeFile dest)
  calling .unpackEntry dest (unpack entry dest)

def unpackEntry (unpack : Unpack) (merger : LayerMerger) (entry : Entry) : Layering Unit := do
  let path := HostPath.ofBytes entry.path
  require (pathIsUnsafe path = false) (.unsafePath path)
  match path.fileName.filter isUtf8 with
  | none => return
  | some fileName =>
    if fileName = opaqueWhiteout then merger.unpackOpaque path
    else
      match stripPrefix whiteoutPrefix fileName with
      | some stripped => merger.unpackWhiteout path stripped
      | none =>
        let dest := merger.target.join path
        match entry.entryType with
        | .block | .char => return
        | .directory => unpackDirectory dest entry.mode
        | .symlink => unpackSymlink path dest entry.linkName
        | .link => merger.unpackLink path dest entry.linkName
        | .other => unpackFile unpack entry dest

/-- An entry that cannot be read ends the layer. -/
def unpackLayerFromReader (unpack : Unpack) (merger : LayerMerger) :
    List (Option Entry) → Layering Unit
  | [] => return
  | none :: _ => throw (.during .readEntry merger.target .unreadable)
  | some entry :: rest => do
    merger.unpackEntry unpack entry
    merger.unpackLayerFromReader unpack rest

/-- A layer is absent if its file cannot be opened. -/
def unpackLayer (unpack : Unpack) (merger : LayerMerger) :
    Option (List (Option Entry)) → Layering Unit
  | none => throw (.during .openLayer merger.target .unreadable)
  | some entries => merger.unpackLayerFromReader unpack entries

def mergeLayersFrom (unpack : Unpack) (merger : LayerMerger) :
    Nat → List (Option (List (Option Entry))) → Layering Unit
  | _, [] => return
  | index, layer :: rest => do
    (merger.unpackLayer unpack layer).withContext (.during (.layer index) merger.target)
    merger.mergeLayersFrom unpack (index + 1) rest

def mergeLayers (unpack : Unpack) (merger : LayerMerger)
    (layers : List (Option (List (Option Entry)))) : Layering Unit :=
  merger.mergeLayersFrom unpack 0 layers

end LayerMerger

/-! The names of entries are checked, but what they lead to depends on the links that are in the
tree when an entry is put in its place. -/

open List Host

/-- The change was made in the directory. The directory itself may change its mode only. -/
def Effect.Inside (root : Location) : Effect → Prop
  | .created place | .removed place | .linkedTo place => Below root place
  | .modeSet place _ => root <+: place

/-- The target's path leads to the root directory, whatever that has in it; the directory is
there; and every change so far was made in it. -/
structure Sound (root : Location) (target : HostPath) (host : Host) : Prop where
  anchored : ∀ tree : Tree, (∀ place, ¬ Below root place → tree.node place = host.tree.node place) →
    tree.walk host.cwd target.parts = .ok root
  standing : host.tree.node root = some .directory
  inside : ∀ effect ∈ host.effects, effect.Inside root

namespace Sound
variable {host : Host}
section
variable (sound : Sound root target host)
include sound

theorem walk_target : host.tree.walk host.cwd target.parts = .ok root := sound.anchored _ fun _ _ => rfl

theorem walk (way : List Component) :
    host.tree.walk host.cwd (target.parts ++ way) = host.tree.walk root way := by
  rw [Tree.walk_append, sound.walk_target]
  rfl

variable {way : List Component}

theorem locate (nonempty : way ≠ []) :
    host.tree.locate host.cwd (target.parts ++ way) = host.tree.locate root way := by
  unfold Tree.locate
  rw [getLast?_append_of_ne_nil _ nonempty, dropLast_append_of_ne_nil nonempty, sound.walk, sound.walk]

theorem resolve (nonempty : way ≠ []) :
    host.tree.resolve host.cwd (target.parts ++ way) = host.tree.resolve root way := by
  unfold Tree.resolve
  rw [sound.locate nonempty]

theorem changed {next : Host} {effects : List Effect} (sameDir : next.cwd = host.cwd)
    (outside : ∀ place, ¬ Below root place → next.tree.node place = host.tree.node place)
    (added : next.effects = host.effects ++ effects)
    (inside : ∀ effect ∈ effects, effect.Inside root) : Sound root target next where
  anchored other agrees := by
    rw [sameDir]
    exact sound.anchored other fun place notBelow =>
      (agrees place notBelow).trans (outside place notBelow)
  standing := (outside root fun below => below.2 rfl).trans sound.standing
  inside effect member := by
    rw [added] at member
    exact (mem_append.mp member).elim (sound.inside effect) (inside effect)

theorem create {place : Location} (below : Below root place) (node : Node) :
    Sound root target (host.create place node) := by
  refine sound.changed rfl (fun other notBelow => ?_) rfl fun effect member => ?_
  · exact (Tree.node_insert _ _ below.ne_nil _).trans (if_neg (below.apart notBelow))
  · cases mem_singleton.mp member
    exact below

theorem remove {place : Location} (below : Below root place) :
    Sound root target (host.remove place) := by
  refine sound.changed rfl (fun other notBelow => ?_) rfl fun effect member => ?_
  · exact (Tree.node_erase _ below.ne_nil _).trans (if_neg (below.apart notBelow))
  · cases mem_singleton.mp member
    exact below

theorem note {effect : Effect} (inside : effect.Inside root) :
    Sound root target (host.note effect) := by
  refine sound.changed rfl (fun _ _ => rfl) rfl fun other member => ?_
  cases mem_singleton.mp member
  exact inside

end
end Sound

/-- The places that paths below the target may name: the ways to them are kept, and so are
those of some links at their ends. -/
structure Filling (root : Location) (target : HostPath) (ways leads : List (List Component))
    (host : Host) : Prop where
  sound : Sound root target host
  kept : ∀ way ∈ ways, Tree.Kept root host.tree way
  led : ∀ way ∈ leads, Tree.Leads root host.tree way

/-- The ways are kept as long as nothing is added. -/
structure Clearing (root : Location) (target : HostPath) (ways : List (List Component))
    (host : Host) : Prop where
  sound : Sound root target host
  kept : ∀ way ∈ ways, Tree.KeptNow root host.tree way

theorem Filling.clearing {host : Host} (filling : Filling root target ways leads host) :
    Clearing root target ways host :=
  ⟨filling.sound, fun way member => (filling.kept way member).now⟩

theorem locate_of_vacant {host : Host} {path : HostPath} {place : Location}
    (found : host.vacant path = .ok place) :
    host.tree.locate host.cwd path.parts = .ok place ∧ host.tree.node place = none := by
  unfold vacant at found
  cases located : host.tree.locate host.cwd path.parts with
  | error =>
    rw [located] at found
    cases found
  | ok here =>
    rw [located] at found
    simp only [bind, Except.bind] at found
    split at found
    · split at found
      · cases found
      · next missing =>
        cases found
        exact ⟨rfl, by simpa using missing⟩
    · cases found

section Places
variable {host : Host} {path : HostPath} {place : Location}
section
variable (sound : Sound root target host)
include sound

theorem locate_below (kept : Tree.KeptNow root host.tree way.dropLast)
    {name : Name} (last : way.getLast? = some (.normal name))
    (found : host.tree.locate host.cwd (target.parts ++ way) = .ok place) : Below root place := by
  have nonempty : way ≠ [] := by
    rintro rfl
    cases last
  rw [sound.locate nonempty] at found
  unfold Tree.locate at found
  rw [last] at found
  cases reached : host.tree.walk root way.dropLast with
  | error =>
    rw [reached] at found
    cases found
  | ok dir =>
    rw [reached] at found
    cases found
    exact below_append (kept _ (prefix_refl _) dir reached) name

theorem vacant_below (kept : Tree.KeptNow root host.tree way.dropLast) (nonempty : way ≠ [])
    (isPath : path.parts = target.parts ++ way) (found : host.vacant path = .ok place) :
    Below root place ∧ host.tree.node place = none := by
  obtain ⟨located, missing⟩ := locate_of_vacant found
  unfold vacant at found
  rw [isPath] at found located
  rw [located, getLast?_append_of_ne_nil _ nonempty] at found
  simp only [bind, Except.bind] at found
  split at found
  · next name last => exact ⟨locate_below sound kept last located, missing⟩
  · cases found

theorem vacant_target (nonempty : target.parts ≠ []) (isPath : path.parts = target.parts) :
    host.vacant path = .error .eexist := by
  obtain ⟨init, last, isTarget⟩ : ∃ init last, target.parts = init ++ [last] :=
    ⟨_, _, (dropLast_concat_getLast nonempty).symm⟩
  have reached := sound.walk_target
  rw [isTarget] at isPath reached
  unfold vacant Tree.locate
  rw [isPath, getLast?_concat, dropLast_concat]
  cases last with
  | normal name =>
    rw [Tree.walk_append] at reached
    cases walked : host.tree.walk host.cwd init with
    | error =>
      rw [walked] at reached
      cases reached
    | ok dir =>
      rw [walked] at reached
      have there : (host.tree.node (dir ++ [name])).isSome = true := by
        cases found : host.tree.node (dir ++ [name]) with
        | some => rfl
        | none =>
          exfalso
          have entered : host.tree.enter Tree.maxLinks dir (.normal name) = .ok root := by
            simpa [Tree.walk, Except.bind] using reached
          unfold Tree.enter at entered
          rw [found] at entered
          cases entered
      simp only [Except.map, bind, Except.bind, there, if_true]
  | _ => simp only [reached, bind, Except.bind]

theorem occupied_below (kept : Tree.KeptNow root host.tree way.dropLast) (nonempty : way ≠ [])
    (isPath : path.parts = target.parts ++ way)
    {node : Node} (found : host.occupied path = .ok (place, node))
    (named : node ≠ .directory ∨ path.ending = .plain ∧ ∃ name, way.getLast? =
      some (.normal name)) : Below root place := by
  unfold occupied at found
  rw [isPath, getLast?_append_of_ne_nil _ nonempty] at found
  split at found
  · cases found
  next name _ last =>
    cases located : host.tree.locate host.cwd (target.parts ++ way) with
    | error =>
      rw [located] at found
      cases found
    | ok =>
      rw [located] at found
      simp only [bind, Except.bind] at found
      split at found
      · cases found
      · cases found
        exact locate_below sound kept last located
  next notNamed =>
    cases walked : host.tree.walk host.cwd (target.parts ++ way) with
    | error =>
      rw [walked] at found
      cases found
    | ok =>
      rw [walked] at found
      cases found
      rcases named with other | ⟨plain, name, last⟩
      · exact absurd rfl other
      · exact absurd last (notNamed name plain)

end
end Places

section Calls
variable {path : HostPath} {host : Host}

theorem ensures_createDir (isPath : path.parts = target.parts ++ way)
    (within : way = [] ∨ ∃ kept ∈ ways, way.dropLast <+: kept) :
    Ensures (Filling root target ways leads) (Io.createDir path) (Filling root target ways leads) := by
  apply ensures_inspect_bind
  · intro place
    apply ensures_require_bind
    · intro _
      apply ensures_update
      rintro host ⟨filling, found⟩
      have sound := filling.sound
      by_cases nonempty : way = []
      · subst nonempty
        rw [append_nil] at isPath
        by_cases isEmpty : target.parts = []
        · unfold vacant Tree.locate at found
          rw [isPath, isEmpty] at found
          cases found
        · rw [vacant_target sound isEmpty isPath] at found
          cases found
      · obtain ⟨kept, member, shorter⟩ := within.resolve_left nonempty
        obtain ⟨below, missing⟩ :=
          vacant_below sound ((filling.kept kept member).now.narrow shorter) nonempty isPath found
        have filled : host.tree.Filled (host.create place .directory).tree := Tree.filled_insert missing
        exact ⟨sound.create below _, fun way member => (filling.kept way member).filled filled,
          fun way member => (filling.led way member).filled filled⟩
    · rintro host ⟨filling, _⟩
      exact filling
  · exact fun _ holds => holds

theorem createDir_target (sound : Sound root target host) (nonempty : target.parts ≠ [])
    (isPath : path.parts = target.parts) : Io.createDir path host = (.error .eexist, host) :=
  inspect_bind_error (fun host : Host => host.vacant path) (vacant_target sound nonempty isPath)

private theorem ensures_isDir {before : Host → Prop} (error : Errno) : Ensures before (do
    if ← inspect (.ok <| ·.isDir path) then return else throw error : Io Unit) before := by
  refine (ensures_inspect _).then fun isDir => ?_
  split
  · exact ensures_pure _
  · exact ensures_throw _

private theorem ensures_createDirAllFrom (ending : Ending)
    (within : way = [] ∨ ∃ kept ∈ ways, way.dropLast <+: kept) :
    Ensures (Filling root target ways leads)
    (Io.createDirAllFrom (target.parts ++ way).reverse ending) (Filling root target ways leads) := by
  induction way using reverseRec generalizing ending with
  | nil =>
    rw [append_nil]
    cases backward : target.parts.reverse with
    | nil => exact ensures_pure _
    | cons last before =>
      have isPath : (last :: before).reverse = target.parts := by rw [← backward, reverse_reverse]
      have nonempty : target.parts ≠ [] := by
        rw [← isPath]
        simp
      -- The target is there, so nothing is tried above it.
      apply ensures_attempt_bind
      rintro outcome next ⟨host, filling, ran⟩
      rw [createDir_target filling.sound nonempty isPath] at ran
      cases ran
      exact ensures_isDir _ _ filling
  | append_singleton way part ih =>
    have shorter : way = [] ∨ ∃ kept ∈ ways, way.dropLast <+: kept := by
      obtain ⟨kept, member, isShorter⟩ := within.resolve_left (by simp)
      rw [dropLast_concat] at isShorter
      exact .inr ⟨kept, member, (List.dropLast_prefix way).trans isShorter⟩
    rw [← append_assoc, reverse_append, reverse_singleton, singleton_append]
    have created : ∀ path : HostPath, path.parts = target.parts ++ (way ++ [part]) →
      Ensures (Filling root target ways leads) (Io.createDir path)
        (Filling root target ways leads) := fun path isPath => ensures_createDir isPath within
    have isPath : (part :: (target.parts ++ way).reverse).reverse = target.parts ++
      (way ++ [part]) := by simp
    refine (created ⟨_, ending⟩ isPath).attempt.then ?_
    rintro (error | ⟨⟩)
    · cases error with
      | enoent =>
        refine (ih .plain shorter).then fun _ => (created ⟨_, ending⟩ isPath).attempt.then ?_
        rintro (error | ⟨⟩)
        · exact ensures_isDir error
        · exact ensures_pure _
      | _ => exact ensures_isDir _
    · exact ensures_pure _

theorem ensures_createDirAll (isPath : path.parts = target.parts ++ way)
    (within : way = [] ∨ ∃ kept ∈ ways, way.dropLast <+: kept) :
    Ensures (Filling root target ways leads) (Io.createDirAll path) (Filling root target ways leads) := by
  unfold Io.createDirAll
  rw [isPath]
  exact ensures_createDirAllFrom path.ending within

theorem Clearing.remove (clearing : Clearing root target ways host)
    {place : Location} (below : Below root place) : Clearing root target ways (host.remove place) :=
  ⟨clearing.sound.remove below, fun way member => (clearing.kept way member).sub (Tree.sub_erase _ _)⟩

theorem Clearing.removeAll (clearing : Clearing root target ways host) {places : List Location}
    (below : ∀ place ∈ places, Below root place) : Clearing root target ways (host.removeAll places) := by
  induction places generalizing host with
  | nil => exact clearing
  | cons place rest ih =>
    exact ih (clearing.remove (below place (.head _))) fun later member => below later (.tail _ member)

section
variable {host : Host} {place : Location} (clearing : Clearing root target ways host)
  (within : ∃ kept ∈ ways, way.dropLast <+: kept) (nonempty : way ≠ [])
    (isPath : path.parts = target.parts ++ way)
include clearing within nonempty isPath

theorem Clearing.vacant (found : host.vacant path = .ok place) : Below root place := by
  obtain ⟨kept, member, shorter⟩ := within
  exact (vacant_below clearing.sound ((clearing.kept kept member).narrow shorter) nonempty isPath found).1

theorem Clearing.occupied {node : Node} (found : host.occupied path = .ok (place, node))
    (named : node ≠ .directory ∨ path.ending = .plain ∧ ∃ name, way.getLast? =
      some (.normal name)) : Below root place := by
  obtain ⟨kept, member, shorter⟩ := within
  exact occupied_below clearing.sound ((clearing.kept kept member).narrow shorter) nonempty
    isPath found named

end

theorem ensures_removeDirAll (isPath : path.parts = target.parts ++ way)
    (named : path.ending = .plain ∧ ∃ name, way.getLast? = some (.normal name))
    (within : ∃ kept ∈ ways, way.dropLast <+: kept) :
    Ensures (Clearing root target ways) (Io.removeDirAll path) (Clearing root target ways) := by
  have nonempty : way ≠ [] := by
    rintro rfl
    obtain ⟨_, _, ⟨⟩⟩ := named
  refine ensures_inspect_bind ?_ fun _ holds => holds
  rintro ⟨place, node⟩
  cases node with
  | file => exact (ensures_throw _).weaken (fun _ holds => holds.1) fun _ holds => holds
  | symlink =>
    apply ensures_update
    rintro host ⟨clearing, found⟩
    exact clearing.remove (clearing.occupied within nonempty isPath found (.inr named))
  | directory =>
    have emptied : Ensures
      (fun host => Clearing root target ways host ∧
        host.occupied path = .ok (place, .directory))
      (update fun host => host.removeAll (host.tree.keysBelow place) : Io Unit)
      (fun host => Clearing root target ways host ∧ Below root place) := by
      apply ensures_update
      rintro host ⟨clearing, found⟩
      have isBelow := clearing.occupied within nonempty isPath found (.inr named)
      refine ⟨clearing.removeAll fun key listed => ?_, isBelow⟩
      have deeper := (mem_filter.mp listed).2
      exact isBelow.deeper (of_decide_eq_true deeper).1
    refine emptied.bind (fun _ => ?_) fun _ holds => holds.1
    refine ensures_require_bind (fun _ => ?_) fun _ holds => holds.1
    refine ensures_require_bind (fun _ => ?_) fun _ holds => holds.1
    refine ensures_require_bind (fun _ => ?_) fun _ holds => holds.1
    apply ensures_update
    rintro host ⟨clearing, isBelow⟩
    exact clearing.remove isBelow

theorem ensures_symlink (linkTarget : List U8) (isPath : path.parts = target.parts ++ way)
    (nonempty : way ≠ []) (within : ∃ kept ∈ ways, way.dropLast <+: kept) :
    Ensures (Clearing root target ways) (Io.symlink linkTarget path) (Sound root target) := by
  refine ensures_require_bind (fun _ => ?_) fun _ holds => holds.sound
  refine ensures_inspect_bind (fun place => ?_) fun _ holds => holds.sound
  refine ensures_require_bind (fun _ => ?_) fun _ holds => holds.1.sound
  apply ensures_update
  rintro host ⟨clearing, found⟩
  exact clearing.sound.create (clearing.vacant within nonempty isPath found) _

theorem ensures_hardLink {original : HostPath} {source : List Component}
    (isOriginal : original.parts = target.parts ++ source) (some : source ≠ [])
    (kept : ∃ kept ∈ ways, source.dropLast <+: kept) (isPath : path.parts = target.parts ++ way)
    (nonempty : way ≠ []) (within : ∃ kept ∈ ways, way.dropLast <+: kept) :
    Ensures (Clearing root target ways) (Io.hardLink original path) (Sound root target) := by
  refine ensures_inspect_bind ?_ fun _ holds => holds.sound
  rintro ⟨place, node⟩
  refine ensures_require_bind (fun notDir => ?_) fun _ holds => holds.1.sound
  refine ensures_inspect_bind (fun newPlace => ?_) fun _ holds => holds.1.sound
  refine ensures_require_bind (fun _ => ?_) fun _ holds => holds.1.1.sound
  have noted : Ensures
    (fun host => (Clearing root target ways host ∧ host.occupied original = .ok (place, node)) ∧
      host.vacant path = .ok newPlace)
    (update (note (.linkedTo place)) : Io Unit)
    (fun host => Sound root target host ∧ Below root newPlace) := by
    apply ensures_update
    rintro host ⟨⟨clearing, found⟩, vacant⟩
    have sourceBelow := clearing.occupied kept some isOriginal found (.inl notDir)
    exact ⟨clearing.sound.note sourceBelow, clearing.vacant within nonempty isPath vacant⟩
  refine noted.bind (fun _ => ?_) fun _ holds => holds.1
  apply ensures_update
  rintro host ⟨sound, newBelow⟩
  exact sound.create newBelow _

theorem ensures_setPermissions (mode : U32) (isPath : path.parts = target.parts ++ way)
    (nonempty : way ≠ []) (leading : way ∈ leads) :
    Ensures (Filling root target ways leads) (Io.setPermissions path mode) (Sound root target) := by
  refine ensures_inspect_bind (fun place => ensures_update ?_) fun _ holds => holds.sound
  rintro host ⟨filling, found⟩
  unfold resolve at found
  rw [isPath, filling.sound.resolve nonempty] at found
  cases resolved : host.tree.resolve root way with
  | error =>
    rw [resolved] at found
    cases found
  | ok =>
    rw [resolved] at found
    simp only [bind, Except.bind] at found
    split at found
    · cases found
      exact filling.sound.note (filling.led way leading _ (.refl _) _ resolved)
    · cases found

theorem ensures_removeFile (isPath : path.parts = target.parts ++ way) (nonempty : way ≠ [])
    (within : ∃ kept ∈ ways, way.dropLast <+: kept) :
    Ensures (Clearing root target ways) (Io.removeFile path) (Clearing root target ways) := by
  refine ensures_inspect_bind ?_ fun _ holds => holds
  rintro ⟨place, node⟩
  refine ensures_require_bind (fun notDir => ensures_update ?_) fun _ holds => holds.1
  rintro host ⟨clearing, found⟩
  exact clearing.remove (clearing.occupied within nonempty isPath found (.inl notDir))

theorem occupied_directory {place : Location} {node : Node} (notPlain : path.ending ≠ .plain)
    (found : host.occupied path = .ok (place, node)) : node = .directory := by
  unfold occupied at found
  split at found
  · exact absurd ‹_› notPlain
  · exact absurd ‹_› notPlain
  · cases walked : host.tree.walk host.cwd path.parts with
    | error =>
      rw [walked] at found
      cases found
    | ok =>
      rw [walked] at found
      cases found
      rfl

theorem removeFile_apply (path : HostPath) (host : Host) :
    (Io.removeFile path host).2 =
      match host.occupied path with
      | .ok (place, node) => if node = .directory then host else host.remove place
      | .error _ => host := by
  unfold Io.removeFile
  cases found : host.occupied path with
  | error => rw [inspect_bind_error (fun host : Host => host.occupied path) found]
  | ok object =>
    obtain ⟨place, node⟩ := object
    rw [inspect_bind_ok (fun host : Host => host.occupied path) found]
    dsimp only
    rw [require_bind_apply]
    by_cases isDir : node = .directory
    · rw [if_neg (not_not.mpr isDir), if_pos isDir]
    · rw [if_pos isDir, if_neg isDir]
      rfl

theorem removeFile_notPlain (notPlain : path.ending ≠ .plain) (host : Host) :
    (Io.removeFile path host).2 = host := by
  rw [removeFile_apply]
  cases found : host.occupied path with
  | error => rfl
  | ok => exact if_pos (occupied_directory notPlain found)

/-- Where a file could be removed, no link is left. -/
theorem removeFile_noLink (plain : path.ending = .plain) {name : Name}
    (last : path.parts.getLast? = some (.normal name)) {place : Location} (nonempty : place ≠ [])
    (located : host.tree.locate host.cwd path.parts = .ok place) (link : HostPath) :
    (Io.removeFile path host).2.tree.node place ≠ some (.symlink link) := by
  have found : host.occupied path =
      (host.tree.node place).elim (.error .enoent) fun node => .ok (place, node) := by
    unfold occupied
    rw [plain, last, located]
    dsimp only [bind, Except.bind]
    cases host.tree.node place <;> rfl
  rw [removeFile_apply, found]
  cases isNode : host.tree.node place with
  | none => simp [isNode]
  | some node =>
    dsimp only [Option.elim]
    by_cases isDir : node = .directory
    · simp [isDir, isNode]
    · simp only [if_neg isDir]
      rw [show (host.remove place).tree = host.tree.erase place from rfl,
        Tree.node_erase _ nonempty, if_pos rfl]
      exact nofun

end Calls

section
variable {path : HostPath} (isPath : path.parts = target.parts ++ way)
include isPath

theorem ensures_removeEntry
    (named : path.ending = .plain ∧ ∃ name, way.getLast? = some (.normal name))
    (within : ∃ kept ∈ ways, way.dropLast <+: kept) :
    Ensures (Clearing root target ways) (removeEntry path) (Clearing root target ways) := by
  have nonempty : way ≠ [] := by
    rintro rfl
    obtain ⟨_, _, ⟨⟩⟩ := named
  refine (ensures_inspect _).attempt.then fun outcome => ?_
  rcases outcome with error | node
  · exact ensures_pure _
  · cases node with
    | directory => exact (ensures_removeDirAll isPath named within).withContext
    | _ => exact (ensures_removeFile isPath nonempty within).withContext

theorem ensures_clearDirectory (within : ∃ kept ∈ ways, way <+: kept) :
    Ensures (Clearing root target ways) (clearDirectory path) (Clearing root target ways) := by
  refine (ensures_inspect _).withContext.then fun names => ensures_forM fun name _ => ?_
  have isChild : (path.join (.ofName name)).parts = target.parts ++ (way ++ [.normal name]) := by
    rw [← append_assoc, ← isPath]
    rfl
  refine ensures_removeEntry isChild ⟨rfl, name, getLast?_concat⟩ ?_
  rw [dropLast_concat]
  exact within

end
end Visor.Oci
