import Visor.Backend.Config
import Visor.Library.Text
import Mathlib.Data.List.TakeWhile
import Visor.Library.Json
import Visor.Library.KeyedMap
import Visor.Library.Run

/-! The folders of the cache, and the tasks that write to it, one file operation at a time. All
tasks of a process write to the one temporary file of the folder and then rename it. A crash ends
every task. It may also undo the latest changes of the folders, and the data of a file that was not
synced can then be anything. -/

namespace Visor.Oci
open Backend (Text)
open Library

/-! The parser of image references. A registry and a tag have no slash in them, so only the repository
of an accepted reference can be a path. -/

def defaultRegistry : Text := "docker.io".toList
def defaultTag : Text := "latest".toList
def libraryStart : Text := "library/".toList

structure ImageReference where
  registry : Text
  repository : Text
  tag : Option Text
  digest : Option Text
deriving DecidableEq

inductive ReferenceError where
  | empty
  | invalidCharacter (char : Char)
  | emptyDigest
  | emptyTag
  | emptyRepository
deriving DecidableEq

def isReferenceChar (char : Char) : Bool := char.isAlphanum || ['.', '-', '_', '/', ':', '@'].contains char

variable (mark : Char) (absent : ReferenceError) (input : Text)

def validateCharacters : Except ReferenceError Unit :=
  match input.find? fun char => !isReferenceChar char with
  | some char => .error (.invalidCharacter char)
  | none => .ok ()

def splitSuffix : Except ReferenceError (Text × Option Text) :=
  match splitLast mark input with
  | none => .ok (input, none)
  | some (before, after) => if after.isEmpty then .error absent else .ok (before, some after)

/-- The tag follows the last colon after the last slash. -/
def splitNameAndTag : Except ReferenceError (Text × Option Text) :=
  match splitLast '/' input with
  | none => splitSuffix ':' .emptyTag input
  | some (path, last) => do
    let (name, tag) ← splitSuffix ':' .emptyTag last
    return (path ++ '/' :: name, tag)

def splitReference : Except ReferenceError (Text × Option Text × Option Text) := do
  let (beforeDigest, digest) ← splitSuffix '@' .emptyDigest input
  let (name, tag) ← splitNameAndTag beforeDigest
  return (name, tag, digest)

def isRegistry (component : Text) : Bool :=
  component.contains '.' || component.contains ':' || component == "localhost".toList

def splitName (name : Text) : Except ReferenceError (Text × Text) :=
  match splitOnce '/' name with
  | none => .ok (defaultRegistry, libraryStart ++ name)
  | some (first, rest) =>
    if isRegistry first then
      if rest.isEmpty then .error .emptyRepository else .ok (first, rest)
    else .ok (defaultRegistry, name)

namespace ImageReference
def parse (input : Text) : Except ReferenceError ImageReference := do
  if input.isEmpty then throw .empty
  validateCharacters input
  let (name, tag, digest) ← splitReference input
  let (registry, repository) ← splitName name
  let tag := if tag.isNone && digest.isNone then some defaultTag else tag
  return { registry, repository, tag, digest }

/-- The parser gives the reference for some input. -/
def Accepted (reference : ImageReference) : Prop := ∃ input, parse input = .ok reference

end ImageReference

private theorem splitSuffix_suffix {mark other : Char} {absent : ReferenceError}
    {input before suffix : Text} (ran : splitSuffix mark absent input = .ok (before, some suffix))
    (mem : other ∈ suffix) : other ∈ input := by
  unfold splitSuffix at ran
  split at ran
  · cases ran
  next split =>
    split at ran
    · cases ran
    · cases ran
      exact (snd_splitLast split).2 mem

theorem splitNameAndTag_tag {input name tag : Text}
    (ran : splitNameAndTag input = .ok (name, some tag)) : '/' ∉ tag := by
  unfold splitNameAndTag at ran
  split at ran
  next unsplit =>
    exact fun mem => splitLast_eq_none unsplit (splitSuffix_suffix ran mem)
  next path last split =>
    obtain ⟨⟨before, after⟩, suffix, ran⟩ := bind_eq_ok.mp ran
    cases pure_eq_ok.mp ran
    exact fun mem => (snd_splitLast split).1 (splitSuffix_suffix suffix mem)

private theorem splitName_registry {name registry repository : Text}
    (ran : splitName name = .ok (registry, repository)) : '/' ∉ registry := by
  unfold splitName at ran
  split at ran
  · cases ran
    decide
  next first rest split =>
    split at ran
    · split at ran
      · cases ran
      · cases ran
        rw [fst_splitOnce split]
        intro mem
        simpa using List.mem_takeWhile_imp mem
    · cases ran
      decide

theorem ImageReference.Accepted.noSlash {reference : ImageReference} (accepted : reference.Accepted) :
    '/' ∉ reference.registry ∧ ∀ tag ∈ reference.tag, '/' ∉ tag := by
  obtain ⟨input, parsed⟩ := accepted
  unfold ImageReference.parse at parsed
  split at parsed
  · cases parsed
  · obtain ⟨_, _, parsed⟩ := bind_eq_ok.mp parsed
    obtain ⟨⟨name, tag, digest⟩, split, parsed⟩ := bind_eq_ok.mp parsed
    obtain ⟨⟨registry, repository⟩, splitName, parsed⟩ := bind_eq_ok.mp parsed
    cases pure_eq_ok.mp parsed
    refine ⟨splitName_registry splitName, fun chosen isTag => ?_⟩
    dsimp only at isTag
    split at isTag
    · cases isTag
      decide
    · obtain ⟨⟨beforeDigest, _⟩, _, split⟩ := bind_eq_ok.mp split
      obtain ⟨⟨_, _⟩, nameAndTag, split⟩ := bind_eq_ok.mp split
      cases pure_eq_ok.mp split
      exact splitNameAndTag_tag (isTag ▸ nameAndTag)

abbrev Bytes := List U8
def isHexDigit (char : Char) : Bool := char.isDigit || ['a', 'b', 'c', 'd', 'e', 'f'].contains char

/-- A hexadecimal SHA-256 digest, as `hex::encode` writes it. -/
structure HexDigest where
  hex : Text
  length : hex.length = 64
  digits : ∀ char ∈ hex, isHexDigit char = true

def digestStart : Text := "sha256:".toList
def blobName (digest : Text) : Text := (afterStart digestStart digest).getD digest
def flat (text : Text) : Text := text.map fun char => if char = '/' then '_' else char
def manifestKey (registry repository tag : Text) : Text :=
  flat registry ++ '_' :: (flat repository ++ '_' :: (flat tag ++ ".json".toList))

def tmpName (pid : Nat) : Text := ".tmp-".toList ++ decimal pid
def verifyDigest (sha256 : Bytes → HexDigest) (digest : Text) (data : Bytes) : Bool :=
  (sha256 data).hex == blobName digest

inductive Folder where
  | blobs
  | manifests
deriving DecidableEq

structure Place where
  folder : Folder
  name : Text
deriving DecidableEq

/-- The names of both folders, with the numbers of their files. -/
abbrev Names := KeyedMap Place Nat

structure StoredFile where
  data : Bytes
  synced : Bool

/-- Writing at an offset; a gap before it is filled with zeros. -/
def StoredFile.write (file : StoredFile) (offset : Nat) (chunk : Bytes) : StoredFile where
  data := file.data.takeD offset 0 ++ chunk ++ file.data.drop (offset + chunk.length)
  synced := false

inductive Phase where
  | create
  | fill (file offset : Nat)
  | rename

structure Writer where
  dest : Place
  data : Bytes
  phase : Phase

structure LayerCache where
  pid : Nat
  names : Names
  /-- The names that a crash can bring back, the present ones among them. -/
  journal : List Names
  files : List StoredFile
  writers : KeyedMap Nat Writer
  /-- What the tasks were asked to store; no operation reads it. -/
  requested : List (Place × Bytes)

namespace LayerCache
def new (pid : Nat) : LayerCache where
  pid := pid
  names := ∅
  journal := [∅]
  files := []
  writers := ∅
  requested := []

variable (sha256 : Bytes → HexDigest) (cache : LayerCache) (task : Nat) (digest : Text)
  (registry repository tag : Text) (writer : Writer)

def tmpPlace (folder : Folder) : Place := ⟨folder, tmpName cache.pid⟩
def withNames (names : Names) : LayerCache :=
  { cache with names := names, journal := names :: cache.journal }

def withFiles (files : List StoredFile) : LayerCache := { cache with files := files }

def read (place : Place) : Option Bytes := do
  let file ← cache.names.lookup place
  let stored ← cache.files[file]?
  return stored.data

def has : Bool := (cache.names.lookup ⟨.blobs, blobName digest⟩).isSome

def get : Option Place :=
  if cache.has digest then some ⟨.blobs, blobName digest⟩ else none

def getManifest : Option Bytes := cache.read ⟨.manifests, manifestKey registry repository tag⟩

/-- The call of `atomic_write` by a task that has no other call under way. -/
def beginWrite (dest : Place) (data : Bytes) : LayerCache :=
  match cache.writers.lookup task with
  | some _ => cache
  | none => { cache with
    writers := cache.writers.insert task ⟨dest, data, .create⟩
    requested := (dest, data) :: cache.requested }

def put (data : Bytes) : LayerCache :=
  if verifyDigest sha256 digest data then
    cache.beginWrite task ⟨.blobs, blobName digest⟩ data
  else cache

def putManifest (data : Bytes) : LayerCache :=
  cache.beginWrite task ⟨.manifests, manifestKey registry repository tag⟩ data

def setPhase (phase : Phase) : LayerCache :=
  { cache with writers := cache.writers.insert task { writer with phase := phase } }

def finish : LayerCache := { cache with writers := cache.writers.erase task }

/-- `File::create`: the temporary file is made, or emptied where it exists. -/
def createTmp : LayerCache :=
  match cache.names.lookup (cache.tmpPlace writer.dest.folder) with
  | some file =>
    (cache.withFiles (cache.files.modify file fun _ => ⟨[], false⟩)).setPhase task writer (.fill file 0)
  | none =>
    let file := cache.files.length
    let names := cache.names.insert (cache.tmpPlace writer.dest.folder) file
    ((cache.withFiles (cache.files ++ [⟨[], false⟩])).withNames names).setPhase task writer (.fill file 0)

/-- One `write` of `write_all`, of as many bytes as the system takes, or `sync_all` after the
last of them. -/
def fillTmp (file offset count : Nat) : LayerCache :=
  if offset < writer.data.length then
    let chunk := (writer.data.drop offset).take (count + 1)
    (cache.withFiles (cache.files.modify file (·.write offset chunk))).setPhase task writer
      (.fill file (offset + chunk.length))
  else
    (cache.withFiles (cache.files.modify file ({ · with synced := true }))).setPhase task writer .rename

/-- `fs::rename` of whatever the temporary name stands for, and the return of the call. -/
def renameTmp : LayerCache :=
  let tmp := cache.tmpPlace writer.dest.folder
  match cache.names.lookup tmp with
  | none => cache.finish task
  | some file => (cache.withNames ((cache.names.erase tmp).insert writer.dest file)).finish task

def turn (task count : Nat) : LayerCache :=
  match cache.writers.lookup task with
  | none => cache
  | some writer =>
    match writer.phase with
    | .create => cache.createTmp task writer
    | .fill file offset => cache.fillTmp task writer file offset count
    | .rename => cache.renameTmp task writer

/-- The files after a crash: what was not synced is as the disk has it. -/
def salvage (files : List StoredFile) (disk : List Bytes) : List StoredFile :=
  files.mapIdx fun index file => if file.synced then file else ⟨disk.getD index file.data, true⟩

def crash (pid back : Nat) (disk : List Bytes) : LayerCache :=
  let names := cache.journal.getD back cache.names
  { cache with
    pid := pid
    names := names
    journal := [names]
    files := salvage cache.files disk
    writers := ∅ }

inductive Event where
  | put (task : Nat) (digest : Text) (data : Bytes)
  | putManifest (task : Nat) (registry repository tag : Text) (data : Bytes)
  | turn (task count : Nat)
  /-- The next file operation of the task fails, and so does its call. -/
  | fail (task : Nat)
  /-- The end of the process, and the next process with this cache. -/
  | crash (pid back : Nat) (disk : List Bytes)

def step (sha256 : Bytes → HexDigest) (cache : LayerCache) : Event → LayerCache
  | .put task digest data => cache.put sha256 task digest data
  | .putManifest task registry repository tag data => cache.putManifest task registry repository tag data
  | .turn task count => cache.turn task count
  | .fail task => cache.finish task
  | .crash pid back disk => cache.crash pid back disk

end LayerCache
end Visor.Oci
