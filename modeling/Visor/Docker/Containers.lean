import Visor.Backend.Store
import Visor.Docker.Translate
import Visor.Library.Run

/-! The handlers of container requests. A handler gives way to others wherever it locks the map of
containers or calls the backend; what it does between two such points is one turn. The answers of
the backend and the order in which the map is iterated come with the turn. -/

namespace Visor.Docker
open Library Backend

structure PendingArchive where
  dest : Text
  data : List U8
deriving DecidableEq

structure DockerContainerRecord where
  backendId : Option Text
  config : VmConfig
  pendingArchives : List PendingArchive

/-- What uploads depend on besides the records: `archive_needs_resolv_override` and
`fallback_resolv_conf_archive`, which may fail. -/
structure ArchiveRules where
  needsResolvOverride : PendingArchive → Option Bool
  fallbackResolvConf : Option (List U8)

/-- Who made a machine: `container_start` for a container, `container_start` for an id without a
record, or another client of the backend. -/
inductive Origin where
  | container (id : Text)
  | recordless
  | elsewhere
deriving DecidableEq

/-- Where an upload was answered with success: the records or a guest. -/
inductive Target where
  | container (id : Text)
  | guest (vm : Text)
deriving DecidableEq

inductive Stage where
  | startResolve (id : Text)
  | startFetch (id logicalId : Text)
  | startProbe (logicalId : Text) (record : DockerContainerRecord) (vm : Text)
  | startDestroy (logicalId : Text) (record : DockerContainerRecord) (vm : Text)
  | startDiscover (logicalId : Text) (record : DockerContainerRecord)
  | startCreate (logicalId : Text) (record : DockerContainerRecord) (config : VmConfig)
  | startCopy (logicalId : Text) (record : DockerContainerRecord) (config : VmConfig) (vm : Text)
    (archives : List PendingArchive)
  | startRecordless
  | startRecordlessDestroy (vm : Text)
  | startRecordlessCreate
  | stopResolve (id : Text)
  | stopFetch (logicalId : Text)
  | stopRecordless
  | stopCall (vm : Text)
  | removeResolve (id : Text)
  | removeTake (logicalId : Text)
  | removeDestroy (vm : Text)
  | removeRecordless
  | removeRecordlessDestroy (vm : Text)
  | uploadResolve (id : Text) (archive : PendingArchive) (overrides : Bool)
  | uploadPend (id logicalId : Text) (archive : PendingArchive) (overrides : Bool)
  | uploadLocate (id : Text) (archive : PendingArchive) (overrides : Bool)
  | uploadFetch (logicalId : Text) (archive : PendingArchive) (overrides : Bool)
  | uploadProbe (vm : Text) (archive : PendingArchive) (overrides : Bool)
  | uploadRecordless (archive : PendingArchive) (overrides : Bool)
  | uploadCopy (vm : Text) (archive : PendingArchive) (overrides : Bool)
  | uploadFallback (vm : Text) (archive fallback : PendingArchive)

structure DockerState where
  containers : KeyedMap Text DockerContainerRecord
  vms : KeyedMap Text VmState
  tasks : KeyedMap Nat Stage
  /-- The history, which no handler reads: the machines with who made them, the ids given to
  containers, the containers removed, the uploads answered with success and the archives copied
  to guests. -/
  born : List (Text × Origin)
  known : List Text
  removed : List Text
  accepted : List (Target × PendingArchive)
  delivered : List (Text × PendingArchive)

structure Choice where
  fails : Bool
  vm : Text
  hosts : List HostEntry
  order : List Text

namespace DockerState
def new : DockerState where
  containers := ∅
  vms := ∅
  tasks := ∅
  born := []
  known := []
  removed := []
  accepted := []
  delivered := []

variable (rules : ArchiveRules) (state : DockerState) (task : Nat) (choice : Choice) (vm : Text)

def goto (stage : Stage) : DockerState := { state with tasks := state.tasks.insert task stage }
def finish : DockerState := { state with tasks := state.tasks.erase task }

def get : Option VmState :=
  if choice.fails then none else state.vms.lookup vm

def destroyVm : DockerState := { state with vms := state.vms.erase vm }
def setVm (vmState : VmState) : DockerState := { state with vms := state.vms.modify vm fun _ => vmState }

def bear (vmState : VmState) (origin : Origin) : DockerState :=
  { state with
    vms := state.vms.insert vm vmState
    born := (vm, origin) :: state.born }

def fresh : Bool := state.born.all (·.1 ≠ vm)
def deliver (archive : PendingArchive) : DockerState :=
  { state with delivered := (vm, archive) :: state.delivered }

def accept (target : Target) (archive : PendingArchive) : DockerState :=
  { state with accepted := (target, archive) :: state.accepted }

def setRecord (id : Text) (record : DockerContainerRecord) : DockerState :=
  { state with containers := state.containers.insert id record }

def dropRecord (id : Text) : DockerState :=
  { state with
    containers := state.containers.erase id
    removed := id :: state.removed }

/-- `resolve_managed_container_id`, with the order in which the map is iterated. -/
def resolveManagedContainerId (order : List Text) (id : Text) : Option Text :=
  if (state.containers.lookup id).isSome then some id
  else
    let named := (state.containers.iterate order).find? fun other =>
      (state.containers.lookup other).any fun record => record.config.name = some id
    match named with
    | some other => some other
    | none =>
      if id.isEmpty then none
      else
        match state.containers.keys.filter fun other => id.isPrefixOf other with
        | [other] => some other
        | _ => none

def containerCreate (id : Text) (request : ContainerCreateRequest) (name : Option Text) : DockerState :=
  match dockerCreateToVmConfig request name true with
  | .error _ => state
  | .ok config =>
    if id ∈ state.known then state
    else { state.setRecord id ⟨none, config, []⟩ with known := id :: state.known }

/-- `container_start` on a record, from the look at its machine on. -/
def startTurn : Stage → DockerState
  | .startProbe logicalId record vm =>
    match state.get choice vm with
    | none => state.goto task (.startDiscover logicalId record)
    | some .running => state.finish task
    | some _ => state.goto task (.startDestroy logicalId record vm)
  | .startDestroy logicalId record vm =>
    match state.get choice vm with
    | none => state.finish task
    | some _ => (state.destroyVm vm).goto task (.startDiscover logicalId record)
  | .startDiscover logicalId record =>
    let config := { record.config with
      extraHosts := record.config.extraHosts ++ choice.hosts
      detach := true }
    state.goto task (.startCreate logicalId record config)
  | .startCreate logicalId record config =>
    if choice.fails || !state.fresh choice.vm then state.finish task
    else (state.bear choice.vm .running (.container logicalId)).goto task
      (.startCopy logicalId record config choice.vm record.pendingArchives)
  | .startCopy logicalId record config vm (archive :: archives) =>
    match state.get choice vm with
    | none => state.finish task
    | some _ => (state.deliver vm archive).goto task (.startCopy logicalId record config vm archives)
  | .startCopy logicalId _ config vm [] => (state.setRecord logicalId ⟨some vm, config, []⟩).finish task
  | _ => state

def openTurn : Stage → DockerState
  | .startResolve id =>
    match state.resolveManagedContainerId choice.order id with
    | some logicalId => state.goto task (.startFetch id logicalId)
    | none => state.goto task .startRecordless
  | .startFetch _ logicalId =>
    match state.containers.lookup logicalId with
    | none => state.goto task .startRecordless
    | some record =>
      match record.backendId with
      | some vm => state.goto task (.startProbe logicalId record vm)
      | none => state.goto task (.startDiscover logicalId record)
  | .startRecordless =>
    match state.get choice choice.vm with
    | none | some .running => state.finish task
    | some _ => state.goto task (.startRecordlessDestroy choice.vm)
  | .startRecordlessDestroy vm =>
    match state.get choice vm with
    | none => state.finish task
    | some _ => (state.destroyVm vm).goto task .startRecordlessCreate
  | .startRecordlessCreate =>
    if choice.fails || !state.fresh choice.vm then state.finish task
    else (state.bear choice.vm .running .recordless).finish task
  | _ => state

def stopTurn : Stage → DockerState
  | .stopResolve id =>
    match state.resolveManagedContainerId choice.order id with
    | some logicalId => state.goto task (.stopFetch logicalId)
    | none => state.goto task .stopRecordless
  | .stopFetch logicalId =>
    match state.containers.lookup logicalId with
    | none => state.goto task .stopRecordless
    | some record =>
      match record.backendId with
      | none => state.finish task
      | some vm => state.goto task (.stopCall vm)
  | .stopRecordless =>
    match state.get choice choice.vm with
    | none => state.finish task
    | some _ => state.goto task (.stopCall choice.vm)
  | .stopCall vm =>
    match state.get choice vm with
    | none => state.finish task
    | some _ => (state.setVm vm .stopped).finish task
  | _ => state

def removeTurn : Stage → DockerState
  | .removeResolve id =>
    match state.resolveManagedContainerId choice.order id with
    | some logicalId => state.goto task (.removeTake logicalId)
    | none => state.goto task .removeRecordless
  | .removeTake logicalId =>
    match state.containers.lookup logicalId with
    | none => state.goto task .removeRecordless
    | some record =>
      match record.backendId with
      | none => (state.finish task).dropRecord logicalId
      | some vm => (state.goto task (.removeDestroy vm)).dropRecord logicalId
  | .removeDestroy vm | .removeRecordlessDestroy vm =>
    match state.get choice vm with
    | none => state.finish task
    | some _ => (state.destroyVm vm).finish task
  | .removeRecordless =>
    match state.get choice choice.vm with
    | none => state.finish task
    | some _ => state.goto task (.removeRecordlessDestroy choice.vm)
  | _ => state

/-- The record with the archive and, where it is asked for, the fallback; and whether the upload
succeeds. -/
def pendArchive (record : DockerContainerRecord) (archive : PendingArchive) (overrides : Bool) :
    DockerContainerRecord × Bool :=
  let first := { record with pendingArchives := record.pendingArchives ++ [archive] }
  if overrides then
    match rules.fallbackResolvConf with
    | none => (first, false)
    | some data => ({ first with pendingArchives := first.pendingArchives ++ [⟨archive.dest, data⟩] }, true)
  else (first, true)

def uploadTurn : Stage → DockerState
  | .uploadResolve id archive overrides =>
    match state.resolveManagedContainerId choice.order id with
    | some logicalId => state.goto task (.uploadPend id logicalId archive overrides)
    | none => state.goto task (.uploadLocate id archive overrides)
  | .uploadPend id logicalId archive overrides =>
    match state.containers.lookup logicalId with
    | none => state.finish task
    | some record =>
      if record.backendId.isSome then state.goto task (.uploadLocate id archive overrides)
      else
        let (record, succeeds) := pendArchive rules record archive overrides
        let pended := (state.setRecord logicalId record).finish task
        if succeeds then pended.accept (.container logicalId) archive else pended
  | .uploadLocate id archive overrides =>
    match state.resolveManagedContainerId choice.order id with
    | some logicalId => state.goto task (.uploadFetch logicalId archive overrides)
    | none => state.goto task (.uploadRecordless archive overrides)
  | .uploadFetch logicalId archive overrides =>
    match state.containers.lookup logicalId with
    | none => state.goto task (.uploadRecordless archive overrides)
    | some record =>
      match record.backendId with
      | none => state.finish task
      | some vm => state.goto task (.uploadProbe vm archive overrides)
  | .uploadProbe vm archive overrides =>
    match state.get choice vm with
    | none => state.finish task
    | some _ => state.goto task (.uploadCopy vm archive overrides)
  | .uploadRecordless archive overrides =>
    match state.get choice choice.vm with
    | none => state.finish task
    | some _ => state.goto task (.uploadCopy choice.vm archive overrides)
  | .uploadCopy vm archive overrides =>
    match state.get choice vm with
    | none => state.finish task
    | some _ =>
      if overrides then
        match rules.fallbackResolvConf with
        | none => (state.deliver vm archive).finish task
        | some data =>
          (state.deliver vm archive).goto task (.uploadFallback vm archive ⟨archive.dest, data⟩)
      else ((state.deliver vm archive).accept (.guest vm) archive).finish task
  | .uploadFallback vm archive fallback =>
    match state.get choice vm with
    | none => state.finish task
    | some _ => ((state.deliver vm fallback).accept (.guest vm) archive).finish task
  | _ => state

def turn : DockerState :=
  match state.tasks.lookup task with
  | none => state
  | some stage =>
    match stage with
    | .startProbe .. | .startDestroy .. | .startDiscover .. | .startCreate .. | .startCopy .. =>
      state.startTurn task choice stage
    | .startResolve .. | .startFetch .. | .startRecordless | .startRecordlessDestroy ..
    | .startRecordlessCreate => state.openTurn task choice stage
    | .stopResolve .. | .stopFetch .. | .stopRecordless | .stopCall .. => state.stopTurn task choice stage
    | .removeResolve .. | .removeTake .. | .removeDestroy .. | .removeRecordless
    | .removeRecordlessDestroy .. => state.removeTurn task choice stage
    | .uploadResolve .. | .uploadPend .. | .uploadLocate .. | .uploadFetch .. | .uploadProbe ..
    | .uploadRecordless .. | .uploadCopy .. | .uploadFallback .. => state.uploadTurn rules task choice stage

inductive Request where
  | start (id : Text)
  | stop (id : Text)
  | remove (id : Text)
  | upload (id : Text) (archive : PendingArchive)

/-- The first stage of a handler; an upload that cannot be read is answered at once. -/
def Request.stage : Request → Option Stage
  | .start id => some (.startResolve id)
  | .stop id => some (.stopResolve id)
  | .remove id => some (.removeResolve id)
  | .upload id archive => (rules.needsResolvOverride archive).map (.uploadResolve id archive)

inductive Event where
  | create (id : Text) (request : ContainerCreateRequest) (name : Option Text)
  | request (task : Nat) (request : Request)
  | turn (task : Nat) (choice : Choice)
  /-- Another client of the backend makes a machine, or destroys one. -/
  | appears (vm : Text) (vmState : VmState)
  | vanishes (vm : Text)
  | changes (vm : Text) (vmState : VmState)

def step (rules : ArchiveRules) (state : DockerState) : Event → DockerState
  | .create id request name => state.containerCreate id request name
  | .request task request =>
    if (state.tasks.lookup task).isSome then state
    else
      match request.stage rules with
      | none => state
      | some stage => state.goto task stage
  | .turn task choice => state.turn rules task choice
  | .appears vm vmState => if state.fresh vm then state.bear vm vmState .elsewhere else state
  | .vanishes vm => state.destroyVm vm
  | .changes vm vmState => state.setVm vm vmState

end DockerState
end Visor.Docker
