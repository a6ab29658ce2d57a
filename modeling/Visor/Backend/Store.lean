import Visor.Backend.Config
import Visor.Library.KeyedMap

/-! Three maps by the id of a virtual machine, each behind a lock of its own, and the machines
themselves, which run on threads of their own. Every boot has a number of its own, from which its
context id is taken, so that what is recorded can be told apart by the boot it belongs to. -/

namespace Visor.Backend
open Library List KeyedMap

abbrev VmId := Text

/-- The number of a boot, with which it allocates its context id. -/
abbrev BootId := Nat
abbrev ThreadId := Nat

inductive VmState where
  | creating
  | running
  | stopped
  | failed
deriving DecidableEq

structure VmInfo where
  name : Option Text
  state : VmState
  memoryMib : U32
  vcpus : U32
  ports : List PortMapping
  exitCode : Option Int
  stdout : Option Text
  stderr : Option Text
  cid : Option U32
  boot : BootId
deriving DecidableEq

/-- The thread, its kill flag and its serial output are shared; here they are known by the number
of the thread. -/
structure VmLiveState where
  cid : U32
  thread : ThreadId
  completionRx : Bool
  portForwardHandle : Bool
  boot : BootId
deriving DecidableEq

/-- A thread that panics drops the completion channel without a message. -/
inductive ThreadState where
  | running
  | exited
  | panicked
deriving DecidableEq

/-- A machine on its thread. It is `asked` once its agent has accepted a shutdown, and `observed`
once its completion message has been received or its thread has been joined. -/
structure Machine where
  id : VmId
  boot : BootId
  state : ThreadState
  killFlag : Bool
  asked : Bool
  observed : Bool
  serial : List U8
  forwards : Bool
deriving DecidableEq

structure SerialReader where
  extractStdout : List U8 → Text
  parseExitCode : List U8 → Int

structure Store where
  vms : KeyedMap VmId VmInfo
  liveVms : KeyedMap VmId VmLiveState
  vmConfigs : KeyedMap VmId VmConfig
  machines : KeyedMap ThreadId Machine
  /-- The temporary directory of an id, and the boot that it was last made for. -/
  tempDirs : KeyedMap VmId BootId
  nextBoot : BootId
  nextThread : ThreadId

/-- The context id of a boot. The counter wraps. -/
def cidOf (boot : BootId) : U32 := firstGuestCid + BitVec.ofNat 32 boot

namespace Store
def empty : Store where
  vms := ∅
  liveVms := ∅
  vmConfigs := ∅
  machines := ∅
  tempDirs := ∅
  nextBoot := 0
  nextThread := 0

variable (store : Store) (thread : ThreadId) (id : VmId)

def allocateCid : BootId × Store := (store.nextBoot, { store with nextBoot := store.nextBoot + 1 })

def updateInfo (update : VmInfo → VmInfo) : Store := { store with vms := store.vms.modify id update }
def updateMachine (update : Machine → Machine) : Store :=
  { store with machines := store.machines.modify thread update }

def serialOutput : List U8 :=
  match store.machines.lookup thread with
  | some machine => machine.serial
  | none => []

def threadState : ThreadState :=
  match store.machines.lookup thread with
  | some machine => machine.state
  | none => .panicked

def kill : Store := store.updateMachine thread ({ · with killFlag := true })

/-- The port forwards of a machine are removed with their handle. -/
def dropForwards (live : VmLiveState) : Store :=
  if live.portForwardHandle then store.updateMachine live.thread ({ · with forwards := false })
  else store

/-- An entry that is dropped detaches its thread. -/
def dropLive : Option VmLiveState → Store
  | none => store
  | some live => store.dropForwards live

def removeLive : Option VmLiveState × Store :=
  (store.liveVms.lookup id, { store with liveVms := store.liveVms.erase id })

def removeTempDir : Store := { store with tempDirs := store.tempDirs.erase id }

end Store

variable (vms : KeyedMap VmId VmInfo)

def nameExists (name : Text) : Bool := vms.entries.any fun entry => entry.2.name = some name
def autoNameMaxAttempts : Nat := 32

def chooseUniqueVmName (requested : Option Text) (generated : List Text) : Option Text :=
  match requested with
  | some name => if name.isEmpty then none else if nameExists vms name then none else some name
  | none => (generated.take autoNameMaxAttempts).find? fun name => !nameExists vms name

/-- The id that an input stands for: an id, a name, or the start of an id. -/
def resolveId (input : Text) : Option VmId :=
  if (vms.lookup input).isSome then some input
  else
    match vms.entries.filter fun entry => entry.2.name = some input with
    | [entry] => some entry.1
    | _ :: _ :: _ => none
    | [] =>
      match vms.keys.filter fun id => input.isPrefixOf id with
      | [id] => some id
      | _ => none

section
variable {vms : KeyedMap VmId VmInfo} {id : VmId}

theorem resolveId_self (there : vms.lookup id ≠ none) : resolveId vms id = some id := by
  unfold resolveId
  rw [if_pos (Option.isSome_iff_ne_none.mpr there)]

theorem resolveId_found {input : Text} (found : resolveId vms input = some id) :
    (vms.lookup id).isSome = true ∧ (id = input ∨ vms.lookup input = none) := by
  unfold resolveId at found
  split at found
  next there =>
    cases found
    exact ⟨there, .inl rfl⟩
  next missing =>
    have absent : vms.lookup input = none := by simpa using missing
    split at found
    next entry one =>
      cases found
      have member : entry ∈ vms.entries := mem_of_mem_filter (one ▸ mem_singleton_self entry)
      refine ⟨?_, .inr absent⟩
      rw [(mem_entries_iff vms entry.1 entry.2).mp member]
      rfl
    · cases found
    · split at found
      next one =>
        cases found
        have member : id ∈ vms.keys := mem_of_mem_filter (one ▸ mem_singleton_self id)
        exact ⟨(mem_keys_iff vms id).mp member, .inr absent⟩
      · cases found

end
end Visor.Backend
