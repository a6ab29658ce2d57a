import Mathlib.Data.List.Infix
import Visor.Fs.Path
import Visor.Library.Command
import Visor.Library.KeyedMap

/-! Directories, files and symbolic links by their location, which is the list of names from the
root. A path is walked one component at a time, and a link on the way is replaced by its target.
Modes and contents are left out, as no walk depends on them. Every change leaves a trace, so that
it can be said where changes were made. -/

namespace Visor.Oci
open Library Fs KeyedMap

abbrev Name := List U8

/-- A path ends with its last component, with a separator or with a dot. -/
inductive Ending where
  | plain
  | slash
  | dot
deriving DecidableEq

structure HostPath where
  parts : List Component
  ending : Ending
deriving DecidableEq

namespace HostPath
def ofBytes (bytes : List U8) : HostPath where
  parts := Path.components bytes
  ending :=
    match (Path.split bytes).getLast? with
    | some [0x2e] => .dot
    | some [] => if bytes.isEmpty then .plain else .slash
    | _ => .plain

variable (path : HostPath)

def isAbsolute : Bool := path.parts.head? == some .rootDir

/-- What the path adds to one it is joined to. -/
def below : List Component := path.parts.filter (· ≠ .curDir)

def join (base path : HostPath) : HostPath :=
  if path.isAbsolute then path
  else ⟨base.parts ++ path.below, if path.parts.isEmpty then .slash else path.ending⟩

def parent : Option HostPath :=
  match path.parts.getLast? with
  | none | some .rootDir => none
  | some _ => some ⟨path.parts.dropLast, .plain⟩

def fileName : Option Name :=
  match path.parts.getLast? with
  | some (.normal name) => some name
  | _ => none

def ofName (name : Name) : HostPath := ⟨[.normal name], .plain⟩

end HostPath

inductive Errno where
  | enoent
  | enotdir
  | eexist
  | eisdir
  | eloop
  | einval
  | enotempty
  | eperm
  | ebusy

abbrev Location := List Name

inductive Node where
  | directory
  | file
  | symlink (target : HostPath)
deriving DecidableEq

structure Tree where
  nodes : KeyedMap Location Node

namespace Tree
variable (tree : Tree) (dir : Location) (parts : List Component)

def node (place : Location) : Option Node :=
  if place = [] then some .directory else tree.nodes.lookup place

/-- The links that may be nested in one another. -/
def maxLinks : Nat := 40

def enter (tree : Tree) : Nat → Location → Component → Except Errno Location
  | _, dir, .curDir => .ok dir
  | _, dir, .parentDir => .ok dir.dropLast
  | _, _, .rootDir => .ok []
  | depth, dir, .normal name =>
    match tree.node (dir ++ [name]) with
    | none => .error .enoent
    | some .file => .error .enotdir
    | some .directory => .ok (dir ++ [name])
    | some (.symlink target) =>
      match depth with
      | 0 => .error .eloop
      | depth + 1 => target.parts.foldlM (tree.enter depth) dir

def walk : Except Errno Location := parts.foldlM (tree.enter maxLinks) dir

def locate : Except Errno Location :=
  match parts.getLast? with
  | none => .error .enoent
  | some (.normal name) => (tree.walk dir parts.dropLast).map (· ++ [name])
  | some _ => tree.walk dir parts

/-- What a chain of links at the end of a path leads to. -/
def follow (tree : Tree) : Nat → Location → Except Errno Location
  | depth, place =>
    match tree.node place with
    | some (.symlink target) =>
      match depth with
      | 0 => .error .eloop
      | depth + 1 => (tree.locate place.dropLast target.parts).bind (tree.follow depth)
    | _ => .ok place

def resolve : Except Errno Location := (tree.locate dir parts).bind (tree.follow maxLinks)
def keysBelow (place : Location) : List Location :=
  tree.nodes.keys.filter fun key => place <+: key ∧ key ≠ place

def children : List Name :=
  tree.nodes.keys.filterMap fun key => if key.dropLast = dir then key.getLast? else none

def insert (tree : Tree) (place : Location) (node : Node) : Tree := ⟨tree.nodes.insert place node⟩
def erase (tree : Tree) (place : Location) : Tree := ⟨tree.nodes.erase place⟩

end Tree

inductive Effect where
  | created (place : Location)
  | removed (place : Location)
  | linkedTo (place : Location)
  | modeSet (place : Location) (mode : U32)
deriving DecidableEq

structure Host where
  tree : Tree
  cwd : Location
  effects : List Effect

open Host
namespace Host

def create (place : Location) (node : Node) (host : Host) : Host :=
  { host with
    tree := host.tree.insert place node
    effects := host.effects ++ [.created place] }

def remove (place : Location) (host : Host) : Host :=
  { host with
    tree := host.tree.erase place
    effects := host.effects ++ [.removed place] }

def removeAll (places : List Location) (host : Host) : Host :=
  places.foldl (fun host place => host.remove place) host

def note (effect : Effect) (host : Host) : Host :=
  { host with effects := host.effects ++ [effect] }

variable (host : Host) (path : HostPath)

def vacant : Except Errno Location := do
  let place ← host.tree.locate host.cwd path.parts
  match path.parts.getLast? with
  | some (.normal _) => if (host.tree.node place).isSome then .error .eexist else .ok place
  | _ => .error .eexist

/-- The object that a path names, which may be a link. A path with more than a name at its end
names a directory. -/
def occupied : Except Errno (Location × Node) :=
  match path.ending, path.parts.getLast? with
  | .plain, none => .error .enoent
  | .plain, some (.normal _) => do
    let place ← host.tree.locate host.cwd path.parts
    match host.tree.node place with
    | none => .error .enoent
    | some node => .ok (place, node)
  | _, _ => do
    let place ← host.tree.walk host.cwd path.parts
    .ok (place, .directory)

def resolve : Except Errno Location := host.tree.resolve host.cwd path.parts

def isDir : Bool :=
  match host.resolve path with
  | .ok place => decide (host.tree.node place = some .directory)
  | .error _ => false

end Host

abbrev Io (Value : Type) := Command Host Errno Value

namespace Io
open Command
variable (path : HostPath)

def createDir : Io Unit := do
  let place ← inspect (·.vacant path)
  require (path.ending ≠ .dot) .enoent
  update (create place .directory)

/-- `fs::create_dir_all`, the components from the last one back. -/
def createDirAllFrom : List Component → Ending → Io Unit
  | [], _ => pure ()
  | last :: before, ending => do
    let path : HostPath := ⟨(last :: before).reverse, ending⟩
    match ← attempt (createDir path) with
    | .ok () => return
    | .error .enoent =>
      createDirAllFrom before .plain
      match ← attempt (createDir path) with
      | .ok () => return
      | .error error => if ← inspect (.ok <| ·.isDir path) then return else throw error
    | .error error => if ← inspect (.ok <| ·.isDir path) then return else throw error

def createDirAll : Io Unit := createDirAllFrom path.parts.reverse path.ending
def symlinkMetadata : Io Node := inspect fun host => (host.occupied path).map (·.2)

def removeFile : Io Unit := do
  let (place, node) ← inspect (·.occupied path)
  require (node ≠ .directory) .eisdir
  update (remove place)

/-- `fs::remove_dir_all`: everything in the directory, and then the directory. -/
def removeDirAll : Io Unit := do
  match ← inspect (·.occupied path) with
  | (_, .file) => throw .enotdir
  | (place, .symlink _) => update (remove place)
  | (place, .directory) =>
    update fun host => host.removeAll (host.tree.keysBelow place)
    require (path.ending ≠ .dot ∧ path.parts.getLast? ≠ some .curDir) .einval
    require (path.parts.getLast? ≠ some .parentDir) .enotempty
    require (place ≠ []) .ebusy
    update (remove place)

def symlink (target : List U8) (path : HostPath) : Io Unit := do
  require (target ≠ []) .enoent
  let place ← inspect (·.vacant path)
  require (path.ending = .plain) .enoent
  update (create place (.symlink (.ofBytes target)))

def hardLink (original path : HostPath) : Io Unit := do
  let (source, node) ← inspect (·.occupied original)
  require (node ≠ .directory) .eperm
  let place ← inspect (·.vacant path)
  require (path.ending = .plain) .enoent
  update (note (.linkedTo source))
  update (create place node)

def setPermissions (mode : U32) : Io Unit := do
  let place ← inspect fun host => do
    let place ← host.resolve path
    if (host.tree.node place).isSome then .ok place else .error .enoent
  update (note (.modeSet place mode))

def readDir : Io (List Name) := inspect fun host => do
  let place ← host.resolve path
  if host.tree.node place = some .directory then .ok (host.tree.children place)
  else .error .enotdir

end Io

/-! A walk below a directory stays in it as long as every directory on its way lies in it. Taking
something out of the tree ends walks early but turns none aside; filling a gap with a directory
lets a walk go on, which is why it is said of all trees with more directories that a way is kept. -/

open List

/-- The place lies in the directory and is not the directory itself. -/
def Below (root place : Location) : Prop := root <+: place ∧ place ≠ root

theorem Below.ne_nil {root place : Location} (below : Below root place) : place ≠ [] := by
  rintro rfl
  exact below.2 (prefix_nil.mp below.1).symm

theorem Below.apart {root place other : Location} (below : Below root place)
    (notBelow : ¬ Below root other) : other ≠ place := by
  rintro rfl
  exact notBelow below

theorem below_append {root dir : Location} (inside : root <+: dir) (name : Name) :
    Below root (dir ++ [name]) := by
  refine ⟨inside.trans (prefix_append dir [name]), fun same => ?_⟩
  have shorter := inside.length_le
  rw [← same, length_append] at shorter
  exact absurd shorter (by simp)

theorem Below.deeper {root place deeper : Location} (below : Below root place)
    (further : place <+: deeper) : Below root deeper := by
  refine ⟨below.1.trans further, ?_⟩
  rintro rfl
  exact below.2 (below.1.eq_of_length (Nat.le_antisymm below.1.length_le further.length_le)).symm

namespace Tree
variable {tree other : Tree} {root dir : Location} {place : Location} {more : Tree}
  {way : List Component}

@[simp] theorem node_insert (tree : Tree) (node : Node) (nonempty : place ≠ [])
    (elsewhere : Location) :
    (tree.insert place node).node elsewhere = if elsewhere = place then some node else tree.node
    elsewhere := by
  unfold Tree.node insert
  by_cases isRoot : elsewhere = []
  · subst isRoot
    rw [if_pos rfl, if_neg nonempty.symm, if_pos rfl]
  · rw [if_neg isRoot, if_neg isRoot, lookup_insert_eq]

@[simp] theorem node_erase (tree : Tree) (nonempty : place ≠ []) (elsewhere : Location) :
    (tree.erase place).node elsewhere = if elsewhere = place then none else tree.node elsewhere := by
  unfold Tree.node erase
  by_cases isRoot : elsewhere = []
  · subst isRoot
    rw [if_pos rfl, if_neg nonempty.symm, if_pos rfl]
  · rw [if_neg isRoot, if_neg isRoot, lookup_erase_eq]

theorem walk_append (tree : Tree) (dir : Location) (first second : List Component) :
    tree.walk dir (first ++ second) = (tree.walk dir first).bind (tree.walk · second) :=
  foldlM_append

def Sub (tree other : Tree) : Prop :=
  ∀ place node, tree.node place = some node → other.node place = some node

theorem foldlM_congr {step other : Location → Component → Except Errno Location}
    (same : ∀ dir part next, step dir part = .ok next → other dir part = .ok next)
    (parts : List Component) {dir last : Location} (reached : parts.foldlM step dir = .ok last) :
    parts.foldlM other dir = .ok last := by
  induction parts generalizing dir with
  | nil => exact reached
  | cons part rest ih =>
    rw [foldlM_cons] at reached ⊢
    cases entered : step dir part with
    | error =>
      rw [entered] at reached
      cases reached
    | ok next =>
      rw [entered] at reached
      rw [same dir part next entered]
      exact ih reached

theorem Sub.enter (sub : tree.Sub other) (depth : Nat) (dir : Location) (part : Component)
    (next : Location) (entered : tree.enter depth dir part = .ok next) :
    other.enter depth dir part = .ok next := by
  induction depth generalizing dir part next with
  | zero =>
    unfold Tree.enter at entered ⊢
    cases part with
    | normal name =>
      dsimp only at entered ⊢
      cases found : tree.node (dir ++ [name]) with
      | none => rw [found] at entered; cases entered
      | some =>
        rw [found] at entered
        rw [sub _ _ found]
        exact entered
    | _ => exact entered
  | succ depth ih =>
    unfold Tree.enter at entered ⊢
    cases part with
    | normal name =>
      dsimp only at entered ⊢
      cases found : tree.node (dir ++ [name]) with
      | none => rw [found] at entered; cases entered
      | some node =>
        rw [found] at entered
        rw [sub _ _ found]
        cases node with
        | symlink target => exact foldlM_congr ih target.parts entered
        | _ => exact entered
    | _ => exact entered

theorem Sub.walk (sub : tree.Sub other) {parts : List Component} {last : Location}
    (reached : tree.walk dir parts = .ok last) : other.walk dir parts = .ok last :=
  foldlM_congr (sub.enter maxLinks) parts reached

theorem Sub.locate (sub : tree.Sub other) {parts : List Component} {last : Location}
    (located : tree.locate dir parts = .ok last) : other.locate dir parts = .ok last := by
  unfold Tree.locate at located ⊢
  split at located
  · cases located
  · cases walked : tree.walk dir parts.dropLast with
    | error =>
      rw [walked] at located
      cases located
    | ok =>
      rw [walked] at located
      rw [sub.walk walked]
      exact located
  · exact sub.walk located

theorem sub_erase (tree : Tree) (place : Location) : (tree.erase place).Sub tree := by
  intro elsewhere node found
  unfold Tree.node erase at found
  unfold Tree.node
  by_cases isRoot : elsewhere = []
  · rw [if_pos isRoot] at found ⊢
    exact found
  · rw [if_neg isRoot] at found ⊢
    rw [lookup_erase_eq] at found
    split at found
    · cases found
    · exact found

def Filled (tree more : Tree) : Prop :=
  ∀ place, more.node place = tree.node place ∨
    tree.node place = none ∧ more.node place = some .directory

theorem Filled.refl (tree : Tree) : tree.Filled tree := fun _ => .inl rfl

theorem Filled.trans {most : Tree} (first : tree.Filled more) (second : more.Filled most) :
    tree.Filled most := by
  intro place
  rcases second place with same | ⟨missing, there⟩
  · rw [same]
    exact first place
  · rcases first place with same | ⟨_, filled⟩
    · exact .inr ⟨same ▸ missing, there⟩
    · rw [filled] at missing
      cases missing

theorem filled_insert (missing : tree.node place = none) : tree.Filled (tree.insert place .directory) := by
  have nonempty : place ≠ [] := by
    rintro rfl
    cases missing
  intro elsewhere
  rw [node_insert tree _ nonempty]
  split
  next same =>
    exact .inr ⟨same ▸ missing, rfl⟩
  · exact .inl rfl

/-- Every directory on the way lies in the root directory. -/
def KeptNow (root : Location) (tree : Tree) (way : List Component) : Prop :=
  ∀ start, start <+: way → ∀ dir, tree.walk root start = .ok dir → root <+: dir

/-- So it does when directories that are missing have been created. -/
def Kept (root : Location) (tree : Tree) (way : List Component) : Prop :=
  ∀ more, tree.Filled more → KeptNow root more way

/-- The path leads into the root directory, if anywhere, a link at its end included. -/
def LeadsNow (root : Location) (tree : Tree) (way : List Component) : Prop :=
  ∀ place, tree.resolve root way = .ok place → root <+: place

def Leads (root : Location) (tree : Tree) (way : List Component) : Prop :=
  ∀ more, tree.Filled more → LeadsNow root more way

theorem KeptNow.sub (kept : KeptNow root other way) (sub : tree.Sub other) : KeptNow root tree way :=
  fun start before dir reached => kept start before dir (sub.walk reached)

theorem KeptNow.narrow {shorter : List Component} (kept : KeptNow root tree way)
    (within : shorter <+: way) : KeptNow root tree shorter :=
  fun start before => kept start (before.trans within)

theorem Kept.now (kept : Kept root tree way) : KeptNow root tree way := kept tree (.refl tree)

theorem Kept.filled (kept : Kept root tree way) (filled : tree.Filled more) : Kept root more way :=
  fun most later => kept most (filled.trans later)

theorem Leads.filled (leads : Leads root tree way) (filled : tree.Filled more) :
    Leads root more way := fun most later => leads most (filled.trans later)

def isLink (tree : Tree) (place : Location) : Bool :=
  match tree.node place with
  | some (.symlink _) => true
  | _ => false

/-- No link stands on the way that the names give. -/
def Straight (root : Location) (tree : Tree) (names : List Name) : Prop :=
  ∀ start ∈ names.inits, tree.isLink (root ++ start) = false
deriving Decidable

theorem Straight.filled {names : List Name} (straight : Straight root tree names)
    (filled : tree.Filled more) : Straight root more names := by
  intro start member
  have before := straight start member
  unfold isLink at before ⊢
  rcases filled (root ++ start) with same | ⟨_, there⟩
  · rw [same]
    exact before
  · rw [there]

theorem Straight.narrow {names shorter : List Name} (straight : Straight root tree names)
    (within : shorter <+: names) : Straight root tree shorter := fun start member =>
  straight start ((mem_inits _ _).mpr (((mem_inits _ _).mp member).trans within))

section
variable {names : List Name} (straight : Straight root tree names)
include straight

theorem Straight.walk (reached : tree.walk root (names.map .normal) = .ok dir) : dir = root ++ names := by
  induction names using reverseRec generalizing dir with
  | nil =>
    cases reached
    exact (append_nil root).symm
  | append_singleton names name ih =>
    rw [map_append, walk_append] at reached
    cases walked : tree.walk root (names.map .normal) with
    | error =>
      rw [walked] at reached
      cases reached
    | ok =>
      cases ih (straight.narrow (prefix_append _ _)) walked
      have noLink := straight (names ++ [name]) ((mem_inits _ _).mpr (prefix_refl _))
      have entered : tree.enter maxLinks (root ++ names) (.normal name) = .ok dir := by
        rw [walked] at reached
        simpa [Tree.walk, Except.bind] using reached
      unfold isLink at noLink
      unfold Tree.enter at entered
      rw [← append_assoc] at noLink ⊢
      cases found : tree.node (root ++ names ++ [name]) with
      | none =>
        rw [found] at entered
        cases entered
      | some node =>
        rw [found] at entered noLink
        cases node with
        | directory =>
          cases entered
          rfl
        | file => cases entered
        | symlink => cases noLink

theorem Straight.kept : Kept root tree (names.map .normal) := by
  intro more filled start before dir reached
  obtain ⟨shorter, within, rfl⟩ := prefix_map_iff.mp before
  cases ((straight.filled filled).narrow within).walk reached
  exact prefix_append _ _

theorem Straight.leads : Leads root tree (names.map .normal) := by
  intro more filled place resolved
  have straightMore := straight.filled filled
  induction names using reverseRec with
  | nil => cases resolved
  | append_singleton names name =>
    unfold Tree.resolve Tree.locate at resolved
    rw [map_append, map_singleton, getLast?_concat, dropLast_concat] at resolved
    cases walked : more.walk root (names.map .normal) with
    | error =>
      rw [walked] at resolved
      cases resolved
    | ok =>
      cases (straightMore.narrow (prefix_append _ _)).walk walked
      have noLink := straightMore (names ++ [name]) ((mem_inits _ _).mpr (prefix_refl _))
      unfold isLink at noLink
      rw [walked] at resolved
      have followed : more.follow maxLinks (root ++ names ++ [name]) = .ok place := resolved
      unfold follow at followed
      rw [← append_assoc] at noLink
      split at followed
      next isSymlink =>
        rw [isSymlink] at noLink
        cases noLink
      · cases followed
        rw [append_assoc]
        exact prefix_append _ _

end
end Tree
end Visor.Oci
