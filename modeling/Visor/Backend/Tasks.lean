import Visor.Library.Run
import Visor.Backend.Store

/-! A call is cut where it waits: for a lock, for a boot, for the guest's agent, for a completion
message or for a thread. Each piece runs with what it waited for and says where the call goes on. -/

namespace Visor.Backend
open Library KeyedMap

inductive Origin where
  | create
  | createFromSnapshot
  | start
deriving DecidableEq

/-- A `stop` with its timeout or a `kill`, and the id to forget afterwards if it is part of a
`destroy`. -/
structure Ending where
  timeoutSecs : Option U64
  destroys : Option VmId
deriving DecidableEq

/-- Where a call or a monitor goes on. A monitor knows the boot it was spawned for only in this
model. -/
inductive Task where
  | record (origin : Origin) (id : VmId) (config : VmConfig) (boot : BootId) (names : List Text)
  | resolveStart (input : Text)
  | readExisting (id : VmId)
  | readConfig (id : VmId) (existing : VmInfo)
  | clearLive (id : VmId) (config : VmConfig) (boot : BootId)
  | resetInfo (id : VmId) (config : VmConfig) (boot : BootId)
  | keepConfig (origin : Origin) (id : VmId) (config : VmConfig) (boot : BootId)
  | booting (origin : Origin) (id : VmId) (config : VmConfig) (boot : BootId)
  | install (origin : Origin) (id : VmId) (boot : BootId) (live : VmLiveState)
  | announce (origin : Origin) (id : VmId) (boot : BootId)
  | markFailed (id : VmId) (boot : BootId)
  | resolveDestroy (input : Text)
  | resolveEnd (ending : Ending) (input : Text)
  | checkState (ending : Ending) (id : VmId)
  | takeLive (ending : Ending) (id : VmId)
  | asking (ending : Ending) (id : VmId) (live : VmLiveState)
  | waiting (ending : Ending) (id : VmId) (live : VmLiveState)
  | capturing (ending : Ending) (id : VmId) (live : VmLiveState) (bytes : List U8)
  | joining (ending : Ending) (id : VmId) (live : VmLiveState)
  | markStopped (ending : Ending) (id : VmId)
  | forgetInfo (id : VmId)
  | forgetLive (id : VmId)
  | forgetConfig (id : VmId)
  | watch (own : BootId) (id : VmId)
  | awaiting (own : BootId) (id : VmId) (rx : ThreadId)
  | claim (own : BootId) (id : VmId)
  | conclude (own : BootId) (id : VmId) (live : VmLiveState) (bytes : List U8)
  | joiningOwn (own : BootId) (id : VmId) (live : VmLiveState)
  | ensureStopped (own : BootId) (id : VmId)
deriving DecidableEq

/-- A boot fails before its thread is started, with or without its temporary directory, or when
the port forwards are set up after that: then the handle is dropped, which kills and joins the
thread. -/
inductive BootOutcome where
  | failed (madeDir : Bool)
  | torn
  | booted
deriving DecidableEq

inductive ShutdownAnswer where
  | accepted
  | refused
  | timedOut
deriving DecidableEq

inductive WaitAnswer where
  | completed
  | dropped
  | timedOut
deriving DecidableEq

inductive JoinAnswer where
  | joined
  | failed
  | timedOut
deriving DecidableEq

/-- What a task has waited for. -/
inductive Answer where
  | locked
  | booted (outcome : BootOutcome)
  | shutdown (answer : ShutdownAnswer)
  | waited (answer : WaitAnswer)
  | joined (answer : JoinAnswer)
deriving DecidableEq

structure Outcome where
  store : Store
  next : Option Task
  spawned : Option Task

variable (store : Store) (thread : ThreadId) (id : VmId) (boot : BootId) (config : VmConfig)

def Store.goto (next : Task) : Option Outcome := some ⟨store, some next, none⟩
def Store.return : Option Outcome := some ⟨store, none, none⟩

/-- The answers that a machine can give: a message if it has exited, an error if its thread has
ended without one. -/
def Store.canWait : WaitAnswer → Bool
  | .completed => store.threadState thread = .exited
  | .dropped => store.threadState thread = .panicked
  | .timedOut => true

def Store.canJoin : JoinAnswer → Bool
  | .joined => store.threadState thread ≠ .running
  | .failed | .timedOut => true

def Store.observe : Store := store.updateMachine thread ({ · with observed := true })

def VmInfo.creating (config : VmConfig) (boot : BootId) (name : Text) : VmInfo where
  name := some name
  state := .creating
  memoryMib := config.memoryMib
  vcpus := config.vcpus
  ports := config.ports
  exitCode := none
  stdout := none
  stderr := none
  cid := some (cidOf boot)
  boot := boot

def VmInfo.restarting (boot : BootId) (vm : VmInfo) : VmInfo :=
  { vm with
    state := .creating
    memoryMib := config.memoryMib
    vcpus := config.vcpus
    name := config.name
    ports := config.ports
    exitCode := none
    stdout := none
    stderr := none
    cid := some (cidOf boot)
    boot := boot }

/-- The record of a machine that has exited by itself, with what its serial output says. -/
def VmInfo.exited (reader : SerialReader) (bytes : List U8) (vm : VmInfo) : VmInfo :=
  let stdout := reader.extractStdout bytes
  { vm with
    state := .stopped
    exitCode := some (reader.parseExitCode bytes)
    stdout := if stdout.isEmpty then vm.stdout else some stdout }

def Machine.booted : Machine :=
  { id := id, boot := boot, state := .running, killFlag := false, asked := false,
    observed := false, serial := [], forwards := config.needsForwards }

def Machine.torn : Machine :=
  { id := id, boot := boot, state := .exited, killFlag := true, asked := false,
    observed := true, serial := [], forwards := false }

def VmLiveState.booted (boot : BootId) (config : VmConfig) : VmLiveState :=
  { cid := cidOf boot, thread := thread, completionRx := true,
    portForwardHandle := config.needsForwards, boot := boot }

namespace Boot
variable (store : Store) (origin : Origin) (id : VmId) (config : VmConfig) (boot : BootId)

def record (names : List Text) : Option Outcome :=
  match chooseUniqueVmName store.vms config.name names with
  | none => store.return
  | some name =>
    { store with vms := store.vms.insert id (.creating config boot name) }.goto
      (.keepConfig origin id config boot)

def resolveStart (store : Store) (input : Text) : Option Outcome :=
  match resolveId store.vms input with
  | none => store.return
  | some id => store.goto (.readExisting id)

def readExisting : Option Outcome :=
  match store.vms.lookup id with
  | none => store.return
  | some existing =>
    if existing.state = .stopped ∨ existing.state = .failed then
      store.goto (.readConfig id existing)
    else store.return

def readConfig (store : Store) (id : VmId) (existing : VmInfo) : Option Outcome :=
  match store.vmConfigs.lookup id with
  | none => store.return
  | some config =>
    let config :=
      { config with
        detach := true
        name := if config.name.isNone then existing.name else config.name
        ports := if config.ports.isEmpty then existing.ports else config.ports }
    let (boot, store) := store.allocateCid
    store.goto (.clearLive id config boot)

def clearLive : Option Outcome :=
  let (live, store) := store.removeLive id
  (store.dropLive live).goto (.resetInfo id config boot)

def resetInfo : Option Outcome :=
  match store.vms.lookup id with
  | none => store.return
  | some _ => (store.updateInfo id (.restarting config boot)).goto (.keepConfig .start id config boot)

def keepConfig : Option Outcome :=
  { store with vmConfigs := store.vmConfigs.insert id config }.goto (.booting origin id config boot)

def spawnMachine (machine : Machine) : Store :=
  { store with
    machines := store.machines.insert store.nextThread machine
    nextThread := store.nextThread + 1
    tempDirs := store.tempDirs.insert id boot }

/-- A failed boot is recorded by `create` and `start`; `create_from_snapshot` just returns. -/
def fail : Option Outcome :=
  some ⟨store, if origin = .createFromSnapshot then none else some (.markFailed id boot), none⟩

/-- `boot_pipeline`, or its counterpart in `create_from_snapshot`. -/
def booting : BootOutcome → Option Outcome
  | .failed madeDir =>
    let store :=
      if madeDir then { store with tempDirs := store.tempDirs.insert id boot } else store
    fail store origin id boot
  | .torn =>
    if config.needsForwards then
      fail (spawnMachine store id boot (.torn id boot)) origin id boot
    else none
  | .booted =>
    (spawnMachine store id boot (.booted id boot config)).goto
      (.install origin id boot (.booted store.nextThread boot config))

def install (live : VmLiveState) : Option Outcome :=
  let replaced := store.liveVms.lookup id
  ({ store with liveVms := store.liveVms.insert id live }.dropLive replaced).goto (.announce origin id boot)

/-- `create` and `start` spawn a monitor; `create_from_snapshot` does not. -/
def monitor : Option Task :=
  if origin = .createFromSnapshot then none else some (.watch boot id)

/-- The record says that the machine runs. `start` fails if there is none. -/
def announce : Option Outcome :=
  match origin, store.vms.lookup id with
  | .start, none => store.return
  | .start, some _ =>
    some ⟨store.updateInfo id ({ · with state := .running, cid := some (cidOf boot) }), none,
      monitor origin id boot⟩
  | _, _ => some ⟨store.updateInfo id ({ · with state := .running }), none, monitor origin id boot⟩

def markFailed : Option Outcome := (store.updateInfo id ({ · with state := .failed })).return

end Boot

namespace Stop
variable (reader : SerialReader) (store : Store) (ending : Ending) (id : VmId) (live : VmLiveState)

/-- The call returns, unless it is part of a `destroy`, which goes on whatever the outcome. -/
def finish : Option Outcome := some ⟨store, ending.destroys.map .forgetInfo, none⟩

def resolveEnd (store : Store) (ending : Ending) (input : Text) : Option Outcome :=
  match resolveId store.vms input with
  | none => finish store ending
  | some id => store.goto (.checkState ending id)

def checkState : Option Outcome :=
  match store.vms.lookup id with
  | none => finish store ending
  | some vm =>
    if vm.state = .stopped ∨ vm.state = .failed then finish store ending
    else store.goto (.takeLive ending id)

/-- The serial output is read before the record is locked, if there is any. -/
def afterCapture (bytes : List U8) : Task :=
  if bytes.isEmpty then .joining ending id live else .capturing ending id live bytes

def capture : Option Outcome := store.goto (afterCapture ending id live (store.serialOutput live.thread))

def takeLive (store : Store) (ending : Ending) (id : VmId) : Option Outcome :=
  let (live, store) := store.removeLive id
  match live with
  | none => store.goto (.markStopped ending id)
  | some live =>
    match ending.timeoutSecs with
    | none => capture (store.kill live.thread) ending id live
    | some timeout =>
      if timeout = 0 then capture (store.kill live.thread) ending id live
      else store.goto (.asking ending id live)

def asking : ShutdownAnswer → Option Outcome
  | .accepted =>
    let store := store.updateMachine live.thread ({ · with asked := true })
    if live.completionRx then store.goto (.waiting ending id { live with completionRx := false })
    else capture store ending id live
  | .refused | .timedOut => capture (store.kill live.thread) ending id live

def waiting (answer : WaitAnswer) : Option Outcome :=
  if store.canWait live.thread answer then
    match answer with
    | .completed => capture (store.observe live.thread) ending id live
    | .dropped => capture store ending id live
    | .timedOut => capture (store.kill live.thread) ending id live
  else none

def capturing (bytes : List U8) : Option Outcome :=
  let stdout := reader.extractStdout bytes
  (store.updateInfo id fun vm =>
    { vm with
      stdout := if stdout.isEmpty then vm.stdout else some stdout
      exitCode := some (reader.parseExitCode bytes) }).goto (.joining ending id live)

def joining (answer : JoinAnswer) : Option Outcome :=
  if store.canJoin live.thread answer then
    let store := if answer = .joined then store.observe live.thread else store
    ((store.dropForwards live).removeTempDir id).goto (.markStopped ending id)
  else none

def markStopped : Option Outcome := finish (store.updateInfo id ({ · with state := .stopped })) ending

end Stop

namespace Destroy
def resolveDestroy (store : Store) (input : Text) : Option Outcome :=
  match resolveId store.vms input with
  | none => store.return
  | some id => store.goto (.resolveEnd ⟨some 10, some id⟩ id)

variable (store : Store) (id : VmId)

/-- The lock of the records is kept from here to the end. -/
def forgetInfo : Option Outcome :=
  match store.vms.lookup id with
  | none => store.return
  | some _ => { store with vms := store.vms.erase id }.goto (.forgetLive id)

def forgetLive : Option Outcome :=
  let (live, store) := store.removeLive id
  (store.dropLive live).goto (.forgetConfig id)

def forgetConfig : Option Outcome := { store with vmConfigs := store.vmConfigs.erase id }.return

end Destroy

namespace MonitorVmCompletion
variable (reader : SerialReader) (store : Store) (own : BootId) (id : VmId)

def watch : Option Outcome :=
  match store.liveVms.lookup id with
  | none => store.return
  | some live =>
    if live.completionRx then
      { store with
        liveVms := store.liveVms.insert id { live with completionRx := false } }.goto
        (.awaiting own id live.thread)
    else store.return

def awaiting (rx : ThreadId) : WaitAnswer → Option Outcome
  | .completed => if store.canWait rx .completed then (store.observe rx).goto (.claim own id) else none
  | .dropped => if store.canWait rx .dropped then store.goto (.claim own id) else none
  | .timedOut => none

def claim : Option Outcome :=
  let (live, store) := store.removeLive id
  match live with
  | some live => store.goto (.conclude own id live (store.serialOutput live.thread))
  | none => store.goto (.ensureStopped own id)

def conclude (live : VmLiveState) (bytes : List U8) : Option Outcome :=
  (store.updateInfo id (.exited reader bytes)).goto (.joiningOwn own id live)

/-- This join has no timeout. -/
def joiningOwn (live : VmLiveState) : JoinAnswer → Option Outcome
  | .joined =>
    if store.canJoin live.thread .joined then
      (((store.observe live.thread).dropForwards live).removeTempDir id).return
    else none
  | .failed => ((store.dropForwards live).removeTempDir id).return
  | .timedOut => none

def ensureStopped : Option Outcome :=
  (store.updateInfo id fun vm => if vm.state = .running then { vm with state := .stopped } else vm).return

end MonitorVmCompletion

namespace Answer
variable (answer : Answer)

/-- What the task goes on with if it has got its lock. The next definitions are the same for the
other things a task waits for. -/
def ifLocked (piece : Option Outcome) : Option Outcome :=
  match answer with
  | .locked => piece
  | _ => none

def ifBooted (piece : BootOutcome → Option Outcome) : Option Outcome :=
  match answer with
  | .booted outcome => piece outcome
  | _ => none

def ifShutdown (piece : ShutdownAnswer → Option Outcome) : Option Outcome :=
  match answer with
  | .shutdown answer => piece answer
  | _ => none

def ifWaited (piece : WaitAnswer → Option Outcome) : Option Outcome :=
  match answer with
  | .waited answer => piece answer
  | _ => none

def ifJoined (piece : JoinAnswer → Option Outcome) : Option Outcome :=
  match answer with
  | .joined answer => piece answer
  | _ => none

end Answer

/-- Run a task to its next await. Nothing happens if the answer is not one that it waits for. -/
def Task.advance (reader : SerialReader) (store : Store) (answer : Answer) : Task → Option Outcome
  | .record origin id config boot names => answer.ifLocked (Boot.record store origin id config boot names)
  | .resolveStart input => answer.ifLocked (Boot.resolveStart store input)
  | .readExisting id => answer.ifLocked (Boot.readExisting store id)
  | .readConfig id existing => answer.ifLocked (Boot.readConfig store id existing)
  | .clearLive id config boot => answer.ifLocked (Boot.clearLive store id config boot)
  | .resetInfo id config boot => answer.ifLocked (Boot.resetInfo store id config boot)
  | .keepConfig origin id config boot => answer.ifLocked (Boot.keepConfig store origin id config boot)
  | .booting origin id config boot => answer.ifBooted (Boot.booting store origin id config boot)
  | .install origin id boot live => answer.ifLocked (Boot.install store origin id boot live)
  | .announce origin id boot => answer.ifLocked (Boot.announce store origin id boot)
  | .markFailed id _ => answer.ifLocked (Boot.markFailed store id)
  | .resolveDestroy input => answer.ifLocked (Destroy.resolveDestroy store input)
  | .resolveEnd ending input => answer.ifLocked (Stop.resolveEnd store ending input)
  | .checkState ending id => answer.ifLocked (Stop.checkState store ending id)
  | .takeLive ending id => answer.ifLocked (Stop.takeLive store ending id)
  | .asking ending id live => answer.ifShutdown (Stop.asking store ending id live)
  | .waiting ending id live => answer.ifWaited (Stop.waiting store ending id live)
  | .capturing ending id live bytes => answer.ifLocked (Stop.capturing reader store ending id live bytes)
  | .joining ending id live => answer.ifJoined (Stop.joining store ending id live)
  | .markStopped ending id => answer.ifLocked (Stop.markStopped store ending id)
  | .forgetInfo id => answer.ifLocked (Destroy.forgetInfo store id)
  | .forgetLive id => answer.ifLocked (Destroy.forgetLive store id)
  | .forgetConfig id => answer.ifLocked (Destroy.forgetConfig store id)
  | .watch own id => answer.ifLocked (MonitorVmCompletion.watch store own id)
  | .awaiting own id rx => answer.ifWaited (MonitorVmCompletion.awaiting store own id rx)
  | .claim own id => answer.ifLocked (MonitorVmCompletion.claim store own id)
  | .conclude own id live bytes =>
    answer.ifLocked (MonitorVmCompletion.conclude reader store own id live bytes)
  | .joiningOwn _ id live => answer.ifJoined (MonitorVmCompletion.joiningOwn store id live)
  | .ensureStopped _ id => answer.ifLocked (MonitorVmCompletion.ensureStopped store id)

/-! Any number of calls and monitors take turns at their awaits, and between any two turns the guests
print, exit and panic. -/

inductive Request where
  | create (id : VmId) (config : VmConfig) (names : List Text)
  | createFromSnapshot (id : VmId) (config : VmConfig) (names : List Text)
  | start (input : Text)
  | stop (input : Text) (timeoutSecs : U64)
  | kill (input : Text)
  | destroy (input : Text)

inductive Event where
  | call (request : Request)
  | resume (task : Nat) (answer : Answer)
  | prints (thread : ThreadId) (bytes : List U8)
  | exits (thread : ThreadId)
  | panics (thread : ThreadId)

namespace Task
def holdsVms : Task → Bool
  | .forgetLive _ | .forgetConfig _ => true
  | _ => false

def needsVms : Task → Bool
  | .record .. | .resolveStart _ | .readExisting _ | .resetInfo .. | .announce .. | .markFailed ..
  | .resolveDestroy _ | .resolveEnd .. | .checkState .. | .capturing .. | .markStopped ..
  | .forgetInfo _ | .conclude .. | .ensureStopped .. => true
  | _ => false

def opens : Task → Bool
  | .record .. | .resolveStart _ | .resolveDestroy _ => true
  | .resolveEnd ending _ => ending.destroys.isNone
  | _ => false

/-- The id of a machine that a call is about to record. -/
def records : Task → Option VmId
  | .record _ id _ _ _ => some id
  | _ => none

end Task

structure System where
  store : Store
  tasks : KeyedMap Nat Task
  nextTask : Nat
  /-- The ids drawn so far. A new one is none of them. -/
  drawn : List VmId

namespace System
def empty : System where
  store := .empty
  tasks := ∅
  nextTask := 0
  drawn := []

variable (reader : SerialReader) (system : System) (number : Nat) (outcome : Outcome)

def vmsHeld : Bool := system.tasks.entries.any fun entry => entry.2.holdsVms

def spawn (task : Task) : System :=
  { system with
    tasks := system.tasks.insert system.nextTask task
    nextTask := system.nextTask + 1 }

/-- A new machine is recorded under a new id, and gets its context id at once. -/
def spawnBoot (origin : Origin) (id : VmId) (config : VmConfig) (names : List Text) : System :=
  if id ∈ system.drawn then system
  else
    let (boot, store) := system.store.allocateCid
    { system with store := store, drawn := id :: system.drawn }.spawn
      (.record origin id config boot names)

/-- `create` is the detached one here. -/
def call : Request → System
  | .create id config names => if config.detach then system.spawnBoot .create id config names else system
  | .createFromSnapshot id config names => system.spawnBoot .createFromSnapshot id config names
  | .start input => system.spawn (.resolveStart input)
  | .stop input timeoutSecs => system.spawn (.resolveEnd ⟨some timeoutSecs, none⟩ input)
  | .kill input => system.spawn (.resolveEnd ⟨none, none⟩ input)
  | .destroy input => system.spawn (.resolveDestroy input)

def replace : System :=
  { system with
    store := outcome.store
    tasks :=
      match outcome.next with
      | some next => system.tasks.insert number next
      | none => system.tasks.erase number }

def settle : System :=
  match outcome.spawned with
  | some task => (system.replace number outcome).spawn task
  | none => system.replace number outcome

def resume (answer : Answer) : System :=
  match system.tasks.lookup number with
  | none => system
  | some task =>
    if task.needsVms && system.vmsHeld then system
    else
      match task.advance reader system.store answer with
      | none => system
      | some outcome => system.settle number outcome

def whileRunning (thread : ThreadId) (update : Machine → Machine) : System :=
  { system with
    store := system.store.updateMachine thread fun machine => if machine.state = .running then
      update machine else machine }

def step : Event → System
  | .call request => system.call request
  | .resume task answer => system.resume reader task answer
  | .prints thread bytes =>
    system.whileRunning thread fun machine => { machine with serial := machine.serial ++ bytes }
  | .exits thread => system.whileRunning thread ({ · with state := .exited })
  | .panics thread => system.whileRunning thread ({ · with state := .panicked })

@[simp] theorem settle_store : (system.settle number outcome).store = outcome.store := by
  unfold settle
  split
  · rfl
  · rfl

theorem lookup_spawn {system : System} {task other : Task} {number : Nat}
    (found : (system.spawn task).tasks.lookup number = some other) :
    number = system.nextTask ∧ other = task ∨ system.tasks.lookup number = some other := by
  unfold spawn at found
  rw [lookup_insert_eq] at found
  split at found
  · cases found
    exact .inl ⟨‹_›, rfl⟩
  · exact .inr found

theorem lookup_spawn_of_ne {system : System} (task : Task)
    {number : Nat} (older : number ≠ system.nextTask) :
    (system.spawn task).tasks.lookup number = system.tasks.lookup number := by
  unfold spawn
  rw [lookup_insert_eq, if_neg older]

theorem lookup_replace_self : (system.replace number outcome).tasks.lookup number = outcome.next := by
  unfold replace
  cases goesOn : outcome.next with
  | none => rw [lookup_erase_eq, if_pos rfl]
  | some => rw [lookup_insert_eq, if_pos rfl]

theorem lookup_replace_other {number other : Nat} (apart : other ≠ number) :
    (system.replace number outcome).tasks.lookup other = system.tasks.lookup other := by
  unfold replace
  cases goesOn : outcome.next with
  | none => rw [lookup_erase_eq, if_neg apart]
  | some => rw [lookup_insert_eq, if_neg apart]

theorem lookup_replace {system : System} {number other : Nat} {outcome : Outcome} {task : Task}
    (found : (system.replace number outcome).tasks.lookup other = some task) :
    other ≠ number ∧ system.tasks.lookup other = some task ∨ other = number ∧ outcome.next = some task := by
  by_cases same : other = number
  · subst same
    rw [lookup_replace_self] at found
    exact .inr ⟨rfl, found⟩
  · rw [lookup_replace_other system outcome same] at found
    exact .inl ⟨same, found⟩

theorem resume_cases (answer : Answer) :
    system.resume reader number answer = system ∨ ∃ task outcome, system.tasks.lookup number =
    some task ∧ task.advance reader system.store answer = some outcome ∧
    (task.needsVms && system.vmsHeld) = false ∧ system.resume reader number answer =
    system.settle number outcome := by
  unfold resume
  cases found : system.tasks.lookup number with
  | none => exact .inl rfl
  | some task =>
    dsimp only
    split
    · exact .inl rfl
    next free =>
      cases ran : task.advance reader system.store answer with
      | none => exact .inl rfl
      | some outcome => exact .inr ⟨task, outcome, rfl, ran, by simpa using free, rfl⟩

theorem call_cases (request : Request) : system.call request = system ∨
    ∃ boot drawn task, task.opens = true ∧ system.drawn ⊆ drawn ∧
    (∀ id, task.records = some id → id ∉ system.drawn ∧ id ∈ drawn) ∧
    system.call request = System.spawn { system with
    store := { system.store with nextBoot := boot }
    drawn := drawn } task := by
  have booting : ∀ origin id config names, system.spawnBoot origin id config names = system ∨
    ∃ boot drawn task, task.opens = true ∧ system.drawn ⊆ drawn ∧
      (∀ id, task.records = some id → id ∉ system.drawn ∧ id ∈ drawn) ∧
      system.spawnBoot origin id config names =
      System.spawn { system with
        store := { system.store with nextBoot := boot }
        drawn := drawn } task := by
    intro origin id config names
    unfold spawnBoot
    split
    · exact .inl rfl
    next isNew =>
      refine .inr ⟨_, _, _, rfl, List.subset_cons_self id system.drawn, ?_, rfl⟩
      rintro _ ⟨⟩
      exact ⟨isNew, .head _⟩
  cases request with
  | create =>
    unfold call
    dsimp only
    split
    · exact booting _ _ _ _
    · exact .inl rfl
  | createFromSnapshot => exact booting _ _ _ _
  | start | stop | kill | destroy =>
    refine .inr ⟨system.store.nextBoot, system.drawn, _, rfl, List.Subset.refl _, ?_, rfl⟩
    rintro _ ⟨⟩

end System
end Visor.Backend
