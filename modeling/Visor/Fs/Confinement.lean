import Visor.Fs.Device
import Visor.Library.Run

/-! The device joins the name of a LOOKUP to the path of its parent as it stands, so a name may
climb out of the shared directory or replace it. What the device asks of the host in answer to a
request is collected here from the handlers; hosts that agree on it are answered alike. -/

namespace Visor.Fs
open Library List FsDevice Fs.Path Option KeyedMap

/-- What every host keeps: the empty path names nothing, and a directory lists plain names. -/
structure HostFs.Plain (host : HostFs) : Prop where
  noEmpty : host.metadata [] = none
  entryNames : ∀ dir names, host.readDir dir = some names → ∀ name ∈ names, IsEntryName name

structure Request where
  host : HostFs
  data : List U8

namespace Request
variable (request : Request)

def opcode : Option Opcode := Opcode.fromU32 (BitVec.ofNat 32 (leField request.data 4 4))
def nodeid : U64 := BitVec.ofNat 64 (leField request.data 16 8)
def body : List U8 := request.data.drop fuseInHeaderSize
def name : List U8 := request.body.takeWhile (· ≠ 0)

def Releases (fh : U64) : Prop :=
  (request.opcode = some .release ∨ request.opcode = some .releasedir) ∧
    8 ≤ request.body.length ∧ BitVec.ofNat 64 (leField request.body 0 8) = fh

end Request

namespace FsDevice
def serve (device : FsDevice) (request : Request) : FsDevice :=
  if request.data.length < fuseInHeaderSize then device
  else (device.dispatch request.host request.data).1

def lookupDir (device : FsDevice) (request : Request) : Option Path :=
  match device.inodes.lookup request.nodeid with
  | none => none
  | some parent => if parent.isDir && isUtf8 request.name then some parent.path else none

def handlePath (device : FsDevice) (request : Request) : Option Path := do
  let read ← ReadIn.parse request.body
  let ino ← device.openHandles.lookup read.fh
  let entry ← device.inodes.lookup ino
  return entry.path

def consulted (device : FsDevice) (request : Request) : List Path :=
  if request.data.length < fuseInHeaderSize then []
  else
    match request.opcode with
    | some .lookup => ((device.lookupDir request).map (·.join request.name)).toList
    | some .read => (device.handlePath request).toList
    | some .readdir =>
      match device.handlePath request with
      | none => []
      | some dir => dir :: ((request.host.readDir dir).getD []).map dir.join
    | _ => []

def AgreeAt (first second : HostFs) (path : Path) : Prop :=
  first.metadata path = second.metadata path ∧ first.openFile path = second.openFile path ∧
    first.readDir path = second.readDir path

theorem getOrCreateInode_congr (device : FsDevice) {first second : HostFs} {path : Path}
    (agree : first.metadata path = second.metadata path) :
    device.getOrCreateInode first path = device.getOrCreateInode second path := by
  rw [getOrCreateInode, getOrCreateInode, agree]

theorem listFrom_congr {first second : HostFs} (dir : Path) (offset maxSize : Nat)
    {names : List (List U8)}
    (agree : ∀ name ∈ names, first.metadata (dir.join name) = second.metadata (dir.join name))
    (skipped : Nat) (device : FsDevice) (buf : List U8) :
    listFrom first dir offset maxSize names skipped device buf =
      listFrom second dir offset maxSize names skipped device buf := by
  induction names generalizing skipped device buf with
  | nil => rfl
  | cons name rest ih =>
    have here := agree name (.head _)
    have later := ih fun other member => agree other (.tail _ member)
    simp only [listFrom, getOrCreateInode_congr _ here, here, later]

private theorem handleLookup_congr (device : FsDevice) (request : Request) (second : HostFs)
    (unique : U64) (agree : ∀ dir, device.lookupDir request = some dir →
      request.host.metadata (dir.join request.name) = second.metadata (dir.join request.name)) :
    device.handleLookup request.host unique request.nodeid request.body =
      device.handleLookup second unique request.nodeid request.body := by
  unfold handleLookup
  unfold lookupDir at agree
  cases found : device.inodes.lookup request.nodeid with
  | none => rfl
  | some parent =>
    rw [found] at agree
    rw [show request.body.takeWhile (· ≠ 0) = request.name from rfl]
    cases isDir : parent.isDir with
    | false => simp [isDir]
    | true =>
      cases valid : isUtf8 request.name with
      | false => simp [isDir, valid]
      | true =>
        have here := agree parent.path (by simp [isDir, valid])
        simp only [isDir, valid, getOrCreateInode_congr _ here]

private theorem handleRead_congr (device : FsDevice) (request : Request) (second : HostFs)
    (unique : U64) (agree : ∀ path, device.handlePath request = some path →
      request.host.openFile path = second.openFile path) :
    device.handleRead request.host unique request.body =
      device.handleRead second unique request.body := by
  unfold handleRead
  unfold handlePath at agree
  cases parsed : ReadIn.parse request.body with
  | none => rfl
  | some read =>
    cases isOpen : device.openHandles.lookup read.fh with
    | none => simp only [isOpen]
    | some ino =>
      cases found : device.inodes.lookup ino with
      | none => simp only [isOpen, found]
      | some entry =>
        have here := agree entry.path (by simp [parsed, isOpen, found])
        simp only [isOpen, found, here]

private theorem handleReaddir_congr (device : FsDevice) (request : Request) (second : HostFs)
    (unique : U64) (agree : ∀ dir, device.handlePath request = some dir →
      request.host.readDir dir = second.readDir dir ∧
        ∀ name ∈ (request.host.readDir dir).getD [],
          request.host.metadata (dir.join name) = second.metadata (dir.join name)) :
    device.handleReaddir request.host unique request.body =
      device.handleReaddir second unique request.body := by
  unfold handleReaddir
  unfold handlePath at agree
  cases parsed : ReadIn.parse request.body with
  | none => rfl
  | some read =>
    cases isOpen : device.openHandles.lookup read.fh with
    | none => simp only [isOpen]
    | some ino =>
      cases found : device.inodes.lookup ino with
      | none => simp only [isOpen, found]
      | some entry =>
        obtain ⟨same, children⟩ := agree entry.path (by simp [parsed, isOpen, found])
        simp only [isOpen, found, ← same]
        cases listed : request.host.readDir entry.path with
        | none => rfl
        | some names =>
          rw [listed, Option.getD_some] at children
          simp only [listFrom_congr _ _ _ children]

/-- A request is answered alike by two hosts that agree on the paths it consults. -/
theorem dispatch_congr (device : FsDevice) (request : Request) {second : HostFs}
    (complete : ¬ request.data.length < fuseInHeaderSize)
    (agree : ∀ path ∈ device.consulted request, AgreeAt request.host second path) :
    device.dispatch request.host request.data = device.dispatch second request.data := by
  have isOpcode : Opcode.fromU32 (BitVec.ofNat 32 (leField request.data 4 4)) =
      request.opcode := rfl
  unfold dispatch
  dsimp only
  rw [isOpcode]
  generalize BitVec.ofNat 64 (leField request.data 8 8) = unique
  rw [consulted, if_neg complete] at agree
  cases which : request.opcode with
  | none => rfl
  | some opcode =>
    rw [which] at agree
    cases opcode with
    | lookup =>
      have same := handleLookup_congr device request second unique fun dir found =>
        (agree (dir.join request.name) (by simp [found])).1
      exact congrArg (fun answer => (answer.1, some answer.2)) same
    | read =>
      have same := handleRead_congr device request second unique fun path found =>
        (agree path (by simp [found])).2.1
      exact congrArg (fun answer => (device, some answer)) same
    | readdir =>
      have same := handleReaddir_congr device request second unique fun dir found =>
        ⟨(agree dir (by simp [found])).2.2, fun name member =>
          (agree (dir.join name) (by simp [found, mem_map_of_mem member])).1⟩
      exact congrArg (fun answer => (answer.1, some answer.2)) same
    | _ => rfl

def enter (host : HostFs) (device : FsDevice) (paths : List Path) : FsDevice :=
  run (fun device path => (device.getOrCreateInode host path).1) device paths

variable {sharedDir : Path} {device : FsDevice} {host : HostFs} {request : Request}

theorem listFrom_enters (dir : Path) (offset maxSize : Nat) (names : List (List U8))
    (skipped : Nat) (device : FsDevice) (buf : List U8) : ∃ paths, paths.Sublist (names.map dir.join) ∧
    (listFrom host dir offset maxSize names skipped device buf).1 = device.enter host paths := by
  induction names generalizing skipped device buf with
  | nil => exact ⟨[], .slnil, rfl⟩
  | cons name rest ih =>
    unfold listFrom
    dsimp only
    split
    · obtain ⟨paths, sublist, entered⟩ := ih (skipped + 1) device buf
      exact ⟨paths, sublist.cons _, entered⟩
    · split
      · exact ⟨[dir.join name], (nil_sublist _).cons_cons _, rfl⟩
      · obtain ⟨paths, sublist, entered⟩ := ih (skipped + 1) _ _
        exact ⟨dir.join name :: paths, sublist.cons_cons _, entered⟩

/-- What a request can do to the tables: enter paths it consulted, open a handle or release one. -/
inductive Served (device : FsDevice) (request : Request) : FsDevice → Prop where
  | entered (paths : List Path) (sublist : paths.Sublist (device.consulted request)) :
    Served device request (device.enter request.host paths)
  | opened {nodeid : U64} {entry : InodeEntry} (found : device.inodes.lookup nodeid = some entry)
    (kind : request.opcode = some (if entry.isDir then .opendir else .open)) :
    Served device request (device.allocHandle nodeid).1
  | released {fh : U64} (releases : request.Releases fh) :
    Served device request { device with openHandles := device.openHandles.erase fh }

theorem Served.unchanged (device : FsDevice) (request : Request) : Served device request device :=
  .entered [] (nil_sublist _)

theorem openInode_served {unique nodeid : U64} {wantDir : Bool} {error : Errno}
    (kind : request.opcode = some (if wantDir then .opendir else .open)) :
    Served device request (device.openInode unique nodeid wantDir error).1 := by
  unfold openInode
  split
  · exact .unchanged _ _
  next entry found =>
    split
    · exact .unchanged _ _
    next wanted =>
      have same : entry.isDir = wantDir := by simpa using wanted
      exact .opened found (same ▸ kind)

theorem handleLookup_served (complete : ¬ request.data.length < fuseInHeaderSize)
    (which : request.opcode = some .lookup) (unique : U64) : Served device request
    (device.handleLookup request.host unique request.nodeid request.body).1 := by
  unfold handleLookup
  split
  · exact .unchanged _ _
  next parent found =>
    rw [show request.body.takeWhile (· ≠ 0) = request.name from rfl]
    dsimp only
    split
    · exact .unchanged _ _
    · split
      · exact .unchanged _ _
      · have consulted : device.consulted request = [parent.path.join request.name] := by
          simp_all [consulted, lookupDir]
        have entered :
          Served device request (device.getOrCreateInode request.host (parent.path.join request.name)).1 :=
          .entered [parent.path.join request.name] (consulted ▸ .refl _)
        generalize device.getOrCreateInode request.host (parent.path.join request.name) = answer at entered
        obtain ⟨after, _ | childIno⟩ := answer
        · exact entered
        · dsimp only
          split <;> exact entered

private theorem handleReaddir_served (complete : ¬ request.data.length < fuseInHeaderSize)
    (which : request.opcode = some .readdir) (unique : U64) :
    Served device request (device.handleReaddir request.host unique request.body).1 := by
  fun_cases handleReaddir device request.host unique request.body with
  | case6 read parsed ino isOpen entry found _ names listed after buf listing =>
    have consulted : device.consulted request = entry.path :: names.map entry.path.join := by
      simp [consulted, complete, which, handlePath, parsed, isOpen, found, listed]
    obtain ⟨paths, sublist, entered⟩ :=
      @listFrom_enters request.host entry.path read.offset.toNat read.size.toNat names 0 device []
    rw [listing] at entered
    subst entered
    exact .entered paths (consulted ▸ sublist.cons _)
  | _ => exact .unchanged _ _

theorem serve_served (device : FsDevice) (request : Request) :
    Served device request (device.serve request) := by
  unfold serve
  split
  · exact .unchanged _ _
  next complete =>
    have isOpcode : Opcode.fromU32 (BitVec.ofNat 32 (leField request.data 4 4)) =
      request.opcode := rfl
    unfold dispatch
    dsimp only
    rw [isOpcode]
    generalize BitVec.ofNat 64 (leField request.data 8 8) = unique
    cases which : request.opcode with
    | none => exact .unchanged _ _
    | some opcode =>
      cases opcode with
      | lookup => exact handleLookup_served complete which unique
      | «open» | opendir => exact openInode_served which
      | readdir => exact handleReaddir_served complete which unique
      | release | releasedir =>
        unfold handleRelease
        dsimp only
        split
        · exact .released ⟨by simp [which], ‹_›, rfl⟩
        · exact .unchanged _ _
      | _ => exact .unchanged _ _

/-- Every path in the inode table is inside the shared directory. -/
def TableInside (sharedDir : Path) (device : FsDevice) : Prop :=
  ∀ ino entry, device.inodes.lookup ino = some entry →
    entry.path ≠ [] ∧ Inside sharedDir entry.path

theorem TableInside.enter (plain : host.Plain) {paths : List Path}
    (within : ∀ path ∈ paths, Inside sharedDir path) (inside : TableInside sharedDir device) :
    TableInside sharedDir (device.enter host paths) := by
  induction paths generalizing device with
  | nil => exact inside
  | cons path rest ih =>
    refine ih (fun other member => within other (.tail _ member)) ?_
    show TableInside sharedDir (device.getOrCreateInode host path).1
    unfold getOrCreateInode
    split
    · exact inside
    · split
      · exact inside
      next present =>
        intro ino entry found
        rw [lookup_insert_eq] at found
        split at found
        · cases found
          refine ⟨?_, within path (.head _)⟩
          rintro rfl
          cases plain.noEmpty.symm.trans present
        · exact inside ino entry found

/-- A LOOKUP that gets to the host asks for a name that stays in the shared directory. -/
def LookupHarmless (sharedDir : Path) (device : FsDevice) (request : Request) : Prop :=
  fuseInHeaderSize ≤ request.data.length → request.opcode = some .lookup →
    (device.lookupDir request).isSome → Harmless sharedDir request.name

/-- Every path that the request consults is inside the shared directory. -/
def Confined (sharedDir : Path) (device : FsDevice) (request : Request) : Prop :=
  ∀ path ∈ device.consulted request, Inside sharedDir path

theorem lookupDir_inside (inside : TableInside sharedDir device) {dir : Path}
    (found : device.lookupDir request = some dir) : dir ≠ [] ∧ Inside sharedDir dir := by
  unfold lookupDir at found
  split at found
  · cases found
  · split at found
    · cases found
      exact inside _ _ ‹_›
    · cases found

theorem handlePath_inside (inside : TableInside sharedDir device) {path : Path}
    (found : device.handlePath request = some path) : path ≠ [] ∧ Inside sharedDir path := by
  unfold handlePath at found
  simp only [bind_eq_bind, bind_eq_some_iff, pure, some.injEq] at found
  obtain ⟨read, _, ino, _, entry, present, rfl⟩ := found
  exact inside ino entry present

section
variable (plain : request.host.Plain) (inside : TableInside sharedDir device)
include plain inside

theorem confined_iff : Confined sharedDir device request ↔ LookupHarmless sharedDir device request := by
  unfold Confined LookupHarmless consulted
  by_cases short : request.data.length < fuseInHeaderSize
  · simp [short, Nat.not_le.mpr short]
  · rw [if_neg short]
    cases which : request.opcode with
    | none => simp
    | some opcode =>
      cases opcode with
      | lookup =>
        cases found : device.lookupDir request with
        | none => simp
        | some dir =>
          obtain ⟨nonempty, below⟩ := lookupDir_inside inside found
          have joined : Inside sharedDir (dir.join request.name) ↔ _ := inside_join_iff nonempty below
          simp [joined, Nat.le_of_not_lt short]
      | read =>
        refine iff_of_true (fun path member => ?_) nofun
        cases found : device.handlePath request with
        | none => simp [found] at member
        | some opened =>
          have same : path = opened := by simpa [found] using member
          rw [same]
          exact (handlePath_inside inside found).2
      | readdir =>
        refine iff_of_true (fun path member => ?_) nofun
        cases found : device.handlePath request with
        | none => simp [found] at member
        | some dir =>
          obtain ⟨nonempty, below⟩ := handlePath_inside inside found
          simp only [found] at member
          rcases mem_cons.mp member with rfl | child
          · exact below
          · obtain ⟨name, listed, rfl⟩ := mem_map.mp child
            cases names : request.host.readDir dir with
            | none => simp [names] at listed
            | some entries =>
              rw [names] at listed
              exact (inside_join_iff nonempty below).mpr
                (harmless_entryName (plain.entryNames dir entries names name listed))
      | _ => simp

theorem serve_tableInside (harmless : LookupHarmless sharedDir device request) :
    TableInside sharedDir (device.serve request) := by
  have served := serve_served device request
  generalize device.serve request = after at served ⊢
  cases served with
  | entered paths sublist =>
    refine inside.enter plain fun path member => ?_
    exact (confined_iff plain inside).mpr harmless path (sublist.subset member)
  | opened | released => exact inside

end

private theorem new_tableInside (plain : host.Plain) (created : new host sharedDir = some device) :
    TableInside sharedDir device := by
  obtain ⟨found, isFound, rfl⟩ := map_eq_some_iff.mp created
  have nonempty : sharedDir ≠ [] := by
    rintro rfl
    rw [plain.noEmpty] at isFound
    cases isFound
  intro ino entry present
  rw [lookup_insert_eq] at present
  split at present
  · cases present
    exact ⟨nonempty, inside_refl sharedDir⟩
  · cases present

/-- A device that shares a directory keeps to it, in its table and in what it asks of the
host, exactly as long as every LOOKUP that reaches the host is harmless. -/
theorem confined_along_iff {requests : List Request} (plain : host.Plain)
    (hosts : ∀ request ∈ requests, request.host.Plain)
    (created : new host sharedDir = some device) :
    Throughout serve (TableInside sharedDir) device requests ∧
    Along serve (Confined sharedDir) device requests ↔
    Along serve (LookupHarmless sharedDir) device requests := by
  have inside := new_tableInside plain created
  clear created
  induction requests generalizing device with
  | nil => exact iff_of_true ⟨inside, trivial⟩ trivial
  | cons request rest ih =>
    have here := hosts request (.head _)
    have later := fun other member => hosts other (mem_cons_of_mem request member)
    constructor
    · rintro ⟨⟨_, tables⟩, confined, remaining⟩
      have harmless := (confined_iff here inside).mp confined
      exact ⟨harmless, (ih later (serve_tableInside here inside harmless)).mp ⟨tables, remaining⟩⟩
    · rintro ⟨harmless, remaining⟩
      obtain ⟨tables, confined⟩ := (ih later (serve_tableInside here inside harmless)).mpr remaining
      exact ⟨⟨inside, tables⟩, (confined_iff here inside).mpr harmless, confined⟩

/-! A host on which every path names an empty directory, shared from `/s`. -/

def directoryHost : HostFs where
  metadata path := if path.isEmpty then none else some ⟨true, 0, 0x41ed⟩
  openFile _ := none
  readDir path := if path.isEmpty then none else some []

def sharedS : Path := [separator, 0x73]

theorem directoryHost_plain : directoryHost.Plain where
  noEmpty := rfl
  entryNames dir names listed := by
    unfold directoryHost at listed
    dsimp only at listed
    split at listed
    · cases listed
    · cases listed
      nofun

def lookupInRoot (name : List U8) : Request where
  host := directoryHost
  data := toLeBytes 4 0 ++ toLeBytes 4 1 ++ toLeBytes 8 7 ++ toLeBytes 8 fuseRootId.toNat ++
    replicate 16 0 ++ name ++ [0]

/-- Looking up `a` and then `b` in the root keeps to `/s`. -/
theorem lookup_confined : ∃ device, new directoryHost sharedS = some device ∧
    Along serve (LookupHarmless sharedS) device [lookupInRoot [0x61], lookupInRoot [0x62]] ∧
    Throughout serve (TableInside sharedS) device [lookupInRoot [0x61], lookupInRoot [0x62]] ∧
    Along serve (Confined sharedS) device [lookupInRoot [0x61], lookupInRoot [0x62]] := by
  have harmless :
    ∀ device, Along serve (LookupHarmless sharedS) device
    [lookupInRoot [0x61], lookupInRoot [0x62]] := fun device =>
    ⟨fun _ _ _ => harmless_entryName (by unfold IsEntryName; decide),
      fun _ _ _ => harmless_entryName (by unfold IsEntryName; decide), trivial⟩
  refine ⟨_, rfl, harmless _, ?_⟩
  refine (confined_along_iff directoryHost_plain ?_ rfl).mpr (harmless _)
  intro request member
  simp only [mem_cons, not_mem_nil, or_false] at member
  rcases member with rfl | rfl <;> exact directoryHost_plain

/-- LOOKUP of `..` and of `/e` in the shared directory: the table gets both paths. -/
theorem lookup_escapes : ∃ device, new directoryHost sharedS = some device ∧
    (∃ entry, (device.serve (lookupInRoot [0x2e, 0x2e])).inodes.lookup 2 = some entry ∧
    entry.path = sharedS ++ [separator, 0x2e, 0x2e] ∧ ¬ Inside sharedS entry.path) ∧
    ∃ entry, (device.serve (lookupInRoot [separator, 0x65])).inodes.lookup 2 = some entry ∧
    entry.path = [separator, 0x65] ∧ ¬ Inside sharedS entry.path := by
  have climbs : ¬ Inside sharedS (sharedS ++ [separator, 0x2e, 0x2e]) := by
    have continues : components (sharedS ++ [separator, 0x2e, 0x2e]) = components sharedS ++
      [.parentDir] := by decide
    rw [inside_iff continues]
    intro normal
    obtain ⟨text, impossible⟩ := normal .parentDir (.head _)
    cases impossible
  have replaces : ¬ Inside sharedS [separator, 0x65] := by
    rintro ⟨names, continues⟩
    have second : some (Component.normal [0x65]) = some (.normal [0x73]) :=
      congrArg (fun parts => parts[1]?) continues
    exact absurd second (by decide)
  exact ⟨_, rfl, ⟨_, rfl, rfl, climbs⟩, _, rfl, rfl, replaces⟩

/-- Every path has one inode, and every handle leads to one. -/
structure Tables (device : FsDevice) : Prop where
  own : ∀ ino entry, device.inodes.lookup ino = some entry → entry.ino = ino
  paths : ∀ ino other entry rival, device.inodes.lookup ino = some entry →
    device.inodes.lookup other = some rival →
    entry.path.sameAs rival.path = true → ino = other
  handles : ∀ fh ino, device.openHandles.lookup fh = some ino →
    ∃ entry, device.inodes.lookup ino = some entry

theorem Tables.enter (tables : device.Tables) (paths : List Path) : (device.enter host paths).Tables := by
  refine stable_run Tables paths (fun device path tables => ?_) tables
  unfold getOrCreateInode
  split
  · exact tables
  next absent =>
    split
    · exact tables
    · have other : ∀ ino entry, device.inodes.lookup ino = some entry →
        components entry.path ≠ components path := by
        intro ino entry there
        have found := find?_eq_none.mp absent ino ((mem_keys_iff _ ino).mpr (by simp [there]))
        simpa [there, sameAs] using found
      obtain ⟨own, paths, handles⟩ := tables
      constructor
      all_goals
        simp only [lookup_insert_eq, sameAs, decide_eq_true_eq] at *
        grind

theorem tables_sound (created : new host sharedDir = some device) (requests : List Request) :
    (run serve device requests).Tables := by
  refine stable_run Tables requests (fun device request tables => ?_) ?_
  · have served := serve_served device request
    generalize device.serve request = after at served
    have handles := tables.handles
    cases served with
    | entered paths => exact tables.enter paths
    | opened | released =>
      refine ⟨tables.own, tables.paths, fun fh ino there => ?_⟩
      simp only [allocHandle, lookup_insert_eq, lookup_erase_eq] at there ⊢
      grind
  · obtain ⟨found, _, rfl⟩ := map_eq_some_iff.mp created
    constructor
    all_goals
      simp only [lookup_insert_eq, AList.lookup_empty]
      grind

theorem tables_of_lookup :
    ∃ device, new directoryHost sharedS = some device ∧ (run serve device [lookupInRoot [0x61]]).Tables :=
  ⟨_, rfl, tables_sound (show new directoryHost sharedS = _ from rfl) _⟩

end FsDevice
end Visor.Fs
