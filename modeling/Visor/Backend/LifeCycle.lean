import Visor.Backend.Bystanders

/-! A detached machine is created, cold or from a snapshot, and its guest exits by itself. What is
recorded at the end differs: only the cold path marks a failed boot and spawns a monitor. -/

namespace Visor.Backend
open Library Store Backend.System KeyedMap Backend.Task AList
namespace Store
def Unbooted (store : Store) (id : VmId) : Prop :=
  ∀ thread machine, store.machines.lookup thread = some machine → machine.id ≠ id

def NoneRuns (store : Store) (id : VmId) : Prop :=
  ∀ thread machine, store.machines.lookup thread = some machine → machine.id = id →
    machine.state ≠ .running

/-- The live state is that of the only machine of the id. -/
structure RunsBy (store : Store) (id : VmId) (live : VmLiveState) (machine : Machine) : Prop where
  found : store.machines.lookup live.thread = some machine
  isId : machine.id = id
  forwards : machine.forwards = true → live.portForwardHandle = true
  only : ∀ thread other, store.machines.lookup thread = some other → other.id = id → thread = live.thread

variable {before after : Store} {id : VmId}

theorem Unbooted.kept (unbooted : before.Unbooted id)
    (keeps : KeepsMachines id before.machines after.machines) : after.Unbooted id := by
  intro thread machine found isId
  obtain ⟨old, there, outlives⟩ := keeps.only thread machine found isId
  exact unbooted thread old there (outlives.id ▸ isId)

theorem NoneRuns.kept (noneRuns : before.NoneRuns id)
    (keeps : KeepsMachines id before.machines after.machines) : after.NoneRuns id := by
  intro thread machine found isId
  obtain ⟨old, there, outlives⟩ := keeps.only thread machine found isId
  have ended := noneRuns thread old there (outlives.id ▸ isId)
  rw [(outlives.ended ended).1]
  exact ended

section
variable {live : VmLiveState} {machine : Machine}

theorem RunsBy.kept (runs : before.RunsBy id live machine)
    (keeps : KeepsMachines id before.machines after.machines) :
    ∃ new, after.RunsBy id live new ∧ machine.Outlives new := by
  obtain ⟨new, found, outlives⟩ := keeps.kept live.thread machine runs.found
  refine ⟨new,
    ⟨found, outlives.id.trans runs.isId, runs.forwards ∘ outlives.forwards,
    fun thread other there isId => ?_⟩, outlives⟩
  obtain ⟨old, thereOld, outlivesOld⟩ := keeps.only thread other there isId
  exact runs.only thread old thereOld (outlivesOld.id ▸ isId)

theorem RunsBy.noneRuns {store : Store} (runs : store.RunsBy id live machine)
    (ended : machine.state ≠ .running) : store.NoneRuns id := by
  intro thread other found isId
  have same := runs.only thread other found isId
  subst same
  rw [runs.found] at found
  cases found
  exact ended

end
end Store

structure VmInfo.Reports (reader : SerialReader) (serial : List U8) (info : VmInfo) : Prop where
  state : info.state = .stopped
  exitCode : info.exitCode = some (reader.parseExitCode serial)
  stdout : info.stdout =
    if (reader.extractStdout serial).isEmpty then none else some (reader.extractStdout serial)

section
variable (reader : SerialReader) (origin : Origin) (id : VmId) (config : VmConfig) (boot : BootId)
  (store : Store)

/-- The phases of the life of an id, each with the task that goes on with it, if any. -/
inductive Life : Option Task → Prop where
  | recording (names : List Text) (noInfo : (store.slot id).info = none)
    (noLive : (store.slot id).live = none) (unbooted : store.Unbooted id) :
      Life (some (.record origin id config boot names))
  | unrecorded (noInfo : (store.slot id).info = none) : Life none
  | keeping (info : VmInfo) (isInfo : (store.slot id).info = some info)
    (creating : info.state = .creating) (silent : info.stdout = none)
    (noLive : (store.slot id).live = none) (unbooted : store.Unbooted id) :
      Life (some (.keepConfig origin id config boot))
  | booting (info : VmInfo) (isInfo : (store.slot id).info = some info)
    (creating : info.state = .creating) (silent : info.stdout = none)
    (noLive : (store.slot id).live = none) (unbooted : store.Unbooted id) :
      Life (some (.booting origin id config boot))
  | abandoned (restores : origin = .createFromSnapshot) (info : VmInfo)
    (isInfo : (store.slot id).info = some info) (creating : info.state = .creating)
      (noneRuns : store.NoneRuns id) : Life none
  | failing (cold : origin ≠ .createFromSnapshot) (info : VmInfo)
    (isInfo : (store.slot id).info = some info) (noneRuns : store.NoneRuns id) :
      Life (some (.markFailed id boot))
  | failed (cold : origin ≠ .createFromSnapshot) (info : VmInfo)
    (isInfo : (store.slot id).info = some info) (isFailed : info.state = .failed)
      (noneRuns : store.NoneRuns id) : Life none
  | installing (info : VmInfo) (live : VmLiveState) (machine : Machine)
    (isInfo : (store.slot id).info = some info)
    (silent : info.stdout = none) (noLive : (store.slot id).live = none)
      (receiver : live.completionRx = true)
    (runs : store.RunsBy id live machine) : Life (some (.install origin id boot live))
  | announcing (info : VmInfo) (live : VmLiveState) (machine : Machine)
    (isInfo : (store.slot id).info = some info)
    (silent : info.stdout = none) (isLive : (store.slot id).live = some live)
      (receiver : live.completionRx = true)
    (runs : store.RunsBy id live machine) : Life (some (.announce origin id boot))
  | restored (restores : origin = .createFromSnapshot) (info : VmInfo) (live : VmLiveState)
    (machine : Machine) (isInfo : (store.slot id).info = some info)
    (running : info.state = .running) (isLive : (store.slot id).live = some live)
      (runs : store.RunsBy id live machine) : Life none
  | watching (cold : origin ≠ .createFromSnapshot) (info : VmInfo) (live : VmLiveState)
    (machine : Machine) (isInfo : (store.slot id).info = some info)
      (running : info.state = .running) (silent : info.stdout = none)
    (isLive : (store.slot id).live = some live) (receiver : live.completionRx = true)
    (runs : store.RunsBy id live machine) : Life (some (.watch boot id))
  | awaiting (cold : origin ≠ .createFromSnapshot) (info : VmInfo) (live : VmLiveState)
    (machine : Machine) (isInfo : (store.slot id).info = some info)
      (running : info.state = .running) (silent : info.stdout = none)
    (isLive : (store.slot id).live = some live) (runs : store.RunsBy id live machine) :
      Life (some (.awaiting boot id live.thread))
  | claiming (cold : origin ≠ .createFromSnapshot) (info : VmInfo) (live : VmLiveState) (machine : Machine)
    (isInfo : (store.slot id).info = some info) (silent : info.stdout = none)
      (isLive : (store.slot id).live = some live)
    (runs : store.RunsBy id live machine) (ended : machine.state ≠ .running) : Life (some (.claim boot id))
  | concluding (cold : origin ≠ .createFromSnapshot) (info : VmInfo) (live : VmLiveState)
    (machine : Machine) (isInfo : (store.slot id).info = some info) (silent : info.stdout = none)
    (noLive : (store.slot id).live = none) (runs : store.RunsBy id live machine)
    (ended : machine.state ≠ .running) (bytes : List U8) (isSerial : bytes = machine.serial) :
      Life (some (.conclude boot id live bytes))
  | joining (cold : origin ≠ .createFromSnapshot) (info : VmInfo) (live : VmLiveState) (machine : Machine)
    (isInfo : (store.slot id).info = some info) (reports : info.Reports reader machine.serial)
      (noLive : (store.slot id).live = none)
    (runs : store.RunsBy id live machine) (ended : machine.state ≠ .running) :
      Life (some (.joiningOwn boot id live))
  | finished (cold : origin ≠ .createFromSnapshot) (info : VmInfo) (live : VmLiveState) (machine : Machine)
    (isInfo : (store.slot id).info = some info) (reports : info.Reports reader machine.serial)
      (noLive : (store.slot id).live = none)
    (noDir : (store.slot id).dir = none) (runs : store.RunsBy id live machine)
      (ended : machine.state ≠ .running)
    (noForwards : machine.forwards = false) : Life none

end

variable {reader : SerialReader} {origin : Origin} {id : VmId} {config : VmConfig} {boot : BootId}
  {store : Store} {live : VmLiveState} {machine : Machine} {info : VmInfo} {system : System}

theorem Life.kept {before after : Store} {task : Option Task}
    (life : Life reader origin id config boot before task) (slot : after.slot id = before.slot id)
    (keeps : KeepsMachines id before.machines after.machines) :
    Life reader origin id config boot after task := by
  cases life with
  | recording names noInfo noLive unbooted =>
    exact .recording names (slot ▸ noInfo) (slot ▸ noLive) (unbooted.kept keeps)
  | unrecorded noInfo => exact .unrecorded (slot ▸ noInfo)
  | keeping info isInfo creating silent noLive unbooted =>
    exact .keeping info (slot ▸ isInfo) creating silent (slot ▸ noLive) (unbooted.kept keeps)
  | booting info isInfo creating silent noLive unbooted =>
    exact .booting info (slot ▸ isInfo) creating silent (slot ▸ noLive) (unbooted.kept keeps)
  | abandoned restores info isInfo creating noneRuns =>
    exact .abandoned restores info (slot ▸ isInfo) creating (noneRuns.kept keeps)
  | failing cold info isInfo noneRuns => exact .failing cold info (slot ▸ isInfo) (noneRuns.kept keeps)
  | failed cold info isInfo isFailed noneRuns =>
    exact .failed cold info (slot ▸ isInfo) isFailed (noneRuns.kept keeps)
  | installing info live machine isInfo silent noLive receiver runs =>
    obtain ⟨new, runsNew, _⟩ := runs.kept keeps
    exact .installing info live new (slot ▸ isInfo) silent (slot ▸ noLive) receiver runsNew
  | announcing info live machine isInfo silent isLive receiver runs =>
    obtain ⟨new, runsNew, _⟩ := runs.kept keeps
    exact .announcing info live new (slot ▸ isInfo) silent (slot ▸ isLive) receiver runsNew
  | restored restores info live machine isInfo running isLive runs =>
    obtain ⟨new, runsNew, _⟩ := runs.kept keeps
    exact .restored restores info live new (slot ▸ isInfo) running (slot ▸ isLive) runsNew
  | watching cold info live machine isInfo running silent isLive receiver runs =>
    obtain ⟨new, runsNew, _⟩ := runs.kept keeps
    exact .watching cold info live new (slot ▸ isInfo) running silent (slot ▸ isLive) receiver runsNew
  | awaiting cold info live machine isInfo running silent isLive runs =>
    obtain ⟨new, runsNew, _⟩ := runs.kept keeps
    exact .awaiting cold info live new (slot ▸ isInfo) running silent (slot ▸ isLive) runsNew
  | claiming cold info live machine isInfo silent isLive runs ended =>
    obtain ⟨new, runsNew, outlives⟩ := runs.kept keeps
    exact .claiming cold info live new (slot ▸ isInfo) silent (slot ▸ isLive) runsNew
      ((outlives.ended ended).1 ▸ ended)
  | concluding cold info live machine isInfo silent noLive runs ended bytes isSerial =>
    obtain ⟨new, runsNew, outlives⟩ := runs.kept keeps
    exact .concluding cold info live new (slot ▸ isInfo) silent (slot ▸ noLive) runsNew
      ((outlives.ended ended).1 ▸ ended) bytes (isSerial.trans (outlives.ended ended).2.symm)
  | joining cold info live machine isInfo reports noLive runs ended =>
    obtain ⟨new, runsNew, outlives⟩ := runs.kept keeps
    exact .joining cold info live new (slot ▸ isInfo) ((outlives.ended ended).2 ▸ reports)
      (slot ▸ noLive) runsNew ((outlives.ended ended).1 ▸ ended)
  | finished cold info live machine isInfo reports noLive noDir runs ended noForwards =>
    obtain ⟨new, runsNew, outlives⟩ := runs.kept keeps
    refine .finished cold info live new (slot ▸ isInfo) ((outlives.ended ended).2 ▸ reports)
      (slot ▸ noLive) (slot ▸ noDir) runsNew ((outlives.ended ended).1 ▸ ended) ?_
    by_contra still
    rw [outlives.forwards (by simpa using still)] at noForwards
    cases noForwards

/-- The task that goes on after a turn: the same one, or the monitor that it has spawned. -/
def Outcome.Continues (outcome : Outcome) (next : Option Task) : Prop :=
  outcome.next = next ∧ outcome.spawned = none ∨ outcome.next = none ∧ outcome.spawned = next

theorem lookup_dropForwards {new : Machine} (runs : store.RunsBy id live machine)
    (found : (store.dropForwards live).machines.lookup live.thread = some new) : new.forwards = false := by
  unfold dropForwards at found
  split at found
  · have modified : (store.machines.modify live.thread ({ · with forwards := false })).lookup
      live.thread = some new := found
    rw [lookup_modify, if_pos rfl] at modified
    obtain ⟨old, _, rfl⟩ := Option.map_eq_some_iff.mp modified
    rfl
  next noHandle =>
    rw [runs.found] at found
    cases found
    by_contra still
    exact noHandle (runs.forwards (by simpa using still))

theorem failed_life {after : Store} (isInfo : (after.slot id).info = some info)
    (creating : info.state = .creating) (noneRuns : after.NoneRuns id) :
    ∃ next, Life reader origin id config boot after next ∧
    Outcome.Continues
    ⟨after, if origin = .createFromSnapshot then none else some (.markFailed id boot), none⟩ next := by
  by_cases restores : origin = .createFromSnapshot
  · exact ⟨none, .abandoned restores info isInfo creating noneRuns, .inl ⟨if_pos restores, rfl⟩⟩
  · exact ⟨_, .failing restores info isInfo noneRuns, .inl ⟨if_neg restores, rfl⟩⟩

section
variable (unbooted : store.Unbooted id)
include unbooted

theorem noneRuns_of_unbooted : store.NoneRuns id :=
  fun thread machine found isId => absurd isId (unbooted thread machine found)

theorem torn_noneRuns : (Boot.spawnMachine store id boot (.torn id boot)).NoneRuns id := by
  intro thread machine found isId
  have inserted : (store.machines.insert store.nextThread (.torn id boot)).lookup thread =
    some machine := found
  rw [lookup_insert_eq] at inserted
  split at inserted
  · cases inserted
    nofun
  · exact absurd isId (unbooted thread machine inserted)

theorem booted_runsBy : (Boot.spawnMachine store id boot (.booted id boot config)).RunsBy id
    (.booted store.nextThread boot config) (.booted id boot config) where
  found := lookup_insert _
  isId := rfl
  forwards := fun was => was
  only thread other found isId := by
    have inserted :
      (store.machines.insert store.nextThread (.booted id boot config)).lookup thread = some other := found
    rw [lookup_insert_eq] at inserted
    split at inserted
    · assumption
    · exact absurd isId (unbooted thread other inserted)

end

theorem info_updated (isInfo : (store.slot id).info = some info) (update : VmInfo → VmInfo)
    : ((store.updateInfo id update).slot id).info = some (update info) := by
  rw [slot_updateInfo, if_pos rfl, isInfo]
  rfl

theorem ended_of_threadState (runs : store.RunsBy id live machine)
    (ended : store.threadState live.thread ≠ .running) : machine.state ≠ .running := by
  unfold threadState at ended
  rw [runs.found] at ended
  exact ended

theorem letGo_over {between : Store} (cold : origin ≠ .createFromSnapshot)
    (isInfo : (store.slot id).info = some info) (reports : info.Reports reader machine.serial)
    (noLive : (store.slot id).live = none) (runs : store.RunsBy id live machine)
    (ended : machine.state ≠ .running) (slot : between.slot id = store.slot id)
    (observes : KeepsMachines id store.machines between.machines)
    (keeps : KeepsMachines id store.machines
      ((between.dropForwards live).removeTempDir id).machines) : Life reader origin id config boot
    ((between.dropForwards live).removeTempDir id) none := by
  have released : ((between.dropForwards live).removeTempDir id).slot id =
    { store.slot id with dir := none } := by
    rw [slot_removeTempDir, if_pos rfl, slot_dropForwards, slot]
  obtain ⟨middle, runsMiddle, _⟩ := runs.kept observes
  obtain ⟨new, runsNew, outlives⟩ := runs.kept keeps
  exact .finished cold info live new (released ▸ isInfo) ((outlives.ended ended).2 ▸ reports)
    (released ▸ noLive) (released ▸ rfl) runsNew ((outlives.ended ended).1 ▸ ended)
    (lookup_dropForwards runsMiddle runsNew.found)

section
variable {task : Task} (life : Life reader origin id config boot store (some task))
include life

theorem Life.turn {outcome : Outcome} (fresh : store.machines.lookup store.nextThread = none)
    (turned : Turned reader store task outcome) :
    ∃ next, Life reader origin id config boot outcome.store next ∧ outcome.Continues next := by
  have keeps : task.startsMachine ≠ some id →
    KeepsMachines id store.machines outcome.store.machines := turned.keepsMachines fresh
  cases life with
  | recording names noInfo noLive unbooted =>
    cases turned with
    | returned => exact ⟨none, .unrecorded noInfo, .inl ⟨rfl, rfl⟩⟩
    | recorded _ _ _ _ _ name =>
      have isInfo : (store.vms.insert id (.creating config boot name)).lookup id =
        some (.creating config boot name) := lookup_insert _
      exact ⟨_, .keeping _ isInfo rfl rfl noLive unbooted, .inl ⟨rfl, rfl⟩⟩
  | keeping info isInfo creating silent noLive unbooted =>
    cases turned with
    | returned mayReturn => cases mayReturn
    | configKept => exact ⟨_, .booting info isInfo creating silent noLive unbooted, .inl ⟨rfl, rfl⟩⟩
  | booting info isInfo creating silent noLive unbooted =>
    cases turned with
    | returned mayReturn => cases mayReturn
    | bootFailed | bootLeftDir => exact failed_life isInfo creating (noneRuns_of_unbooted unbooted)
    | tornDown => exact failed_life isInfo creating (torn_noneRuns unbooted)
    | booted =>
      exact ⟨_, .installing info _ _ isInfo silent noLive rfl (booted_runsBy unbooted), .inl ⟨rfl, rfl⟩⟩
  | failing cold info isInfo noneRuns =>
    have same := keeps nofun
    cases turned with
    | returned mayReturn => cases mayReturn
    | markedFailed =>
      exact ⟨none, .failed cold _ (info_updated isInfo _) rfl (noneRuns.kept same), .inl ⟨rfl, rfl⟩⟩
  | installing info live machine isInfo silent noLive receiver runs =>
    obtain ⟨new, runsNew, _⟩ := runs.kept (keeps nofun)
    cases turned with
    | returned mayReturn => cases mayReturn
    | installed =>
      refine ⟨_, .announcing info live new ?_ silent ?_ receiver runsNew, .inl ⟨rfl, rfl⟩⟩
      · rw [slot_dropLive, slot_insert_live, if_pos rfl]
        exact isInfo
      · rw [slot_dropLive, slot_insert_live, if_pos rfl]
  | announcing info live machine isInfo silent isLive receiver runs =>
    obtain ⟨new, runsNew, _⟩ := runs.kept (keeps nofun)
    cases turned with
    | returned mayReturn => cases mayReturn
    | lost _ _ missing =>
      have isNone : (store.slot id).info = none := missing
      rw [isInfo] at isNone
      cases isNone
    | announced _ _ _ update running sameBoot sameStdout =>
      have isUpdated := info_updated isInfo update
      by_cases restores : origin = .createFromSnapshot
      · exact ⟨none, .restored restores _ live new isUpdated (running info) isLive runsNew,
          .inl ⟨rfl, if_pos restores⟩⟩
      · exact ⟨_, .watching restores _ live new isUpdated (running info)
          ((sameStdout info).trans silent) isLive receiver runsNew, .inr ⟨rfl, if_neg restores⟩⟩
  | watching cold info live machine isInfo running silent isLive receiver runs =>
    cases turned with
    | returned mayReturn => cases mayReturn
    | unwatched _ _ nothing =>
      rw [nothing live isLive] at receiver
      cases receiver
    | watched _ _ same found =>
      have isSame : some same = some live := found.symm.trans isLive
      cases isSame
      refine ⟨_, .awaiting cold info { live with completionRx := false } machine isInfo running
        silent ?_ ⟨runs.found, runs.isId, runs.forwards, runs.only⟩, .inl ⟨rfl, rfl⟩⟩
      rw [slot_insert_live, if_pos rfl]
  | awaiting cold info live machine isInfo running silent isLive runs =>
    obtain ⟨new, runsNew, outlives⟩ := runs.kept (keeps nofun)
    cases turned with
    | returned mayReturn => cases mayReturn
    | woke _ _ _ exited =>
      have ended := ended_of_threadState runs (exited ▸ nofun)
      exact ⟨_,
        .claiming cold info live new isInfo silent isLive runsNew
        ((outlives.ended ended).1 ▸ ended), .inl ⟨rfl, rfl⟩⟩
    | wokeWithout _ _ _ panicked =>
      have ended := ended_of_threadState runs (panicked ▸ nofun)
      exact ⟨_, .claiming cold info live machine isInfo silent isLive runs ended, .inl ⟨rfl, rfl⟩⟩
  | claiming cold info live machine isInfo silent isLive runs ended =>
    cases turned with
    | returned mayReturn => cases mayReturn
    | claimed _ _ same found =>
      have isSame : some same = some live := found.symm.trans isLive
      cases isSame
      have isSerial : store.serialOutput live.thread = machine.serial := by
        unfold serialOutput
        rw [runs.found]
      have concludes : Life reader origin id config boot (store.removeLive id).2
        (some (.conclude boot id live (store.serialOutput live.thread))) := by
        refine .concluding cold info live machine ?_ silent ?_ ?_ ended _ isSerial
        · exact isInfo
        · exact slot_removed store id
        · exact ⟨runs.found, runs.isId, runs.forwards, runs.only⟩
      exact ⟨_, concludes, .inl ⟨rfl, rfl⟩⟩
    | claimedNothing _ _ missing =>
      have isNone : (store.slot id).live = none := missing
      rw [isLive] at isNone
      cases isNone
  | concluding cold info live machine isInfo silent noLive runs ended bytes isSerial =>
    cases turned with
    | returned mayReturn => cases mayReturn
    | concluded =>
      subst isSerial
      refine ⟨_, .joining cold _ live machine (info_updated isInfo _) ⟨rfl, rfl, ?_⟩ noLive
        ⟨runs.found, runs.isId, runs.forwards, runs.only⟩ ended, .inl ⟨rfl, rfl⟩⟩
      show (if _ then info.stdout else _) = _
      rw [silent]
  | joining cold info live machine isInfo reports noLive runs ended =>
    have same := keeps nofun
    cases turned with
    | returned mayReturn => cases mayReturn
    | joinedOwn =>
      exact ⟨none,
        letGo_over cold isInfo reports noLive runs ended rfl
        (keepsMachines_observe store live.thread) same, .inl ⟨rfl, rfl⟩⟩
    | joinFailed =>
      exact ⟨none, letGo_over cold isInfo reports noLive runs ended rfl (.refl _) same, .inl ⟨rfl, rfl⟩⟩

theorem Life.about : id ∈ task.about := by cases life <;> exact .head _

end

/-- No `start`, `stop`, `kill` or `destroy` gets to the id. -/
def Spares (id : VmId) (system : System) : Event → Prop
  | .resume number _ => ∀ task ∈ system.tasks.lookup number, task.startsOn ≠ some id ∧ id ∉ task.meets
  | _ => True

instance (id : VmId) (system : System) (event : Event) : Decidable (Spares id system event) := by
  rcases event with _ | _ <;> (unfold Spares; infer_instance)

/-- The id is in one of its phases, and no other task is about it. -/
structure Lives (reader : SerialReader) (origin : Origin) (id : VmId) (config : VmConfig)
    (boot : BootId) (number : Nat) (task : Option Task) (system : System) : Prop where
  ledger : Ledger system
  isDrawn : id ∈ system.drawn
  life : Life reader origin id config boot system.store task
  goesOn : ∀ current, task = some current → system.tasks.lookup number = some current
  alone : ∀ other rest, system.tasks.lookup other = some rest → id ∈ rest.about → other = number ∧
    task = some rest

namespace Lives
variable {number : Nat} {task : Option Task} {system : System}
section
variable (lives : Lives reader origin id config boot number task system)
include lives

theorem spawn {other : Task} (ledger : Ledger (system.spawn other)) (notAbout : id ∉ other.about) :
    Lives reader origin id config boot number task (system.spawn other) where
  ledger := ledger
  isDrawn := lives.isDrawn
  life := lives.life
  goesOn current isTask := by
    have found := lives.goesOn current isTask
    rw [lookup_spawn_of_ne _ (Nat.ne_of_lt (lives.ledger.tasks number current found)), found]
  alone key rest found about := by
    rcases lookup_spawn found with ⟨_, rfl⟩ | there
    · exact absurd about notAbout
    · exact lives.alone key rest there about

theorem call (request : Request) :
    Lives reader origin id config boot number task (system.call request) := by
  have ledger := lives.ledger.call request
  rcases call_cases system request with same | ⟨next, drawn, first, opens, grows, isNew, spawned⟩
  · rw [same]
    exact lives
  · rw [spawned] at ledger ⊢
    have drawing : Lives reader origin id config boot number task { system with
      store := { system.store with nextBoot := next }
      drawn := drawn } :=
      ⟨{ lives.ledger with }, grows lives.isDrawn, lives.life.kept rfl (.refl _), lives.goesOn, lives.alone⟩
    refine drawing.spawn ledger fun about => ?_
    rw [(of_opens opens).1] at about
    exact (isNew id (Option.mem_toList.mp about)).1 lives.isDrawn

theorem settle_other {other : Nat} {answer : Answer} {rest : Task} {outcome : Outcome}
    (found : system.tasks.lookup other = some rest) (notAbout : id ∉ rest.about)
    (spares : Spares id system (.resume other answer))
    (turned : Turned reader system.store rest outcome) :
    Lives reader origin id config boot number task (system.settle other outcome) := by
  obtain ⟨notStarts, notMeets⟩ := spares rest found
  have slot : outcome.store.slot id = system.store.slot id :=
    turned.leaves fun touches => notAbout (mem_about_of_touches touches)
  have keeps : KeepsMachines id system.store.machines outcome.store.machines :=
    turned.keepsMachines lives.ledger.nextThread_free fun starts =>
      notAbout (mem_about_of_startsMachine starts)
  have replaced : Lives reader origin id config boot number task (system.replace other outcome) := by
    refine ⟨lives.ledger.replace found turned.moves, lives.isDrawn, lives.life.kept slot keeps,
      fun current isTask => ?_, fun key next there about => ?_⟩
    · subst isTask
      have there := lives.goesOn current rfl
      have apart : number ≠ other := by
        rintro rfl
        rw [found] at there
        cases there
        exact notAbout lives.life.about
      rw [lookup_replace_other system outcome apart, there]
    · rcases lookup_replace there with ⟨_, before⟩ | ⟨_, isNext⟩
      · exact lives.alone key next before about
      · rcases (turned.continues next isNext).about id about with same | same | ⟨same, _⟩
        · exact absurd same notAbout
        · exact absurd same notMeets
        · exact absurd same notStarts
  have ledger := lives.ledger.settle found turned
  unfold settle at ledger ⊢
  split
  next monitor isSpawned =>
    rw [isSpawned] at ledger
    obtain ⟨_, key, _, rfl, rfl, _⟩ := turned.spawns monitor isSpawned
    exact replaced.spawn ledger notAbout
  · exact replaced

end

theorem settle_own {current : Task} {outcome : Outcome}
    (lives : Lives reader origin id config boot number (some current) system)
    (turned : Turned reader system.store current outcome) :
    ∃ later next, Lives reader origin id config boot later next (system.settle number outcome) := by
  have found := lives.goesOn current rfl
  have ledger := lives.ledger.settle found turned
  obtain ⟨next, life, continues⟩ := lives.life.turn lives.ledger.nextThread_free turned
  have others : ∀ key rest, key ≠ number → system.tasks.lookup key = some rest → id ∉ rest.about :=
    fun key rest apart there about => apart (lives.alone key rest there about).1
  have same : outcome.next = next → outcome.spawned = none →
    Lives reader origin id config boot number next (system.settle number outcome) := by
    intro isNext noSpawn
    unfold settle at ledger ⊢
    rw [noSpawn] at ledger ⊢
    refine ⟨ledger, lives.isDrawn, life, fun task isTask => ?_, fun key rest there about => ?_⟩
    · rw [lookup_replace_self, isNext, isTask]
    · rcases lookup_replace there with ⟨apart, before⟩ | ⟨isNumber, goesOn⟩
      · exact absurd about (others key rest apart before)
      · exact ⟨isNumber, isNext.symm.trans goesOn⟩
  rcases continues with ⟨isNext, noSpawn⟩ | ⟨noNext, isSpawned⟩
  · exact ⟨number, next, same isNext noSpawn⟩
  · cases next with
    | none => exact ⟨number, none, same noNext isSpawned⟩
    | some monitor =>
      refine ⟨system.nextTask, some monitor, ?_⟩
      unfold settle at ledger ⊢
      rw [isSpawned] at ledger ⊢
      refine ⟨ledger, lives.isDrawn, life, ?_, fun key rest there about => ?_⟩
      · rintro _ ⟨⟩
        exact lookup_insert _
      · rcases lookup_spawn there with ⟨isNumber, isMonitor⟩ | before
        · exact ⟨isNumber, congrArg some isMonitor.symm⟩
        · rcases lookup_replace before with ⟨apart, earlier⟩ | ⟨_, goesOn⟩
          · exact absurd about (others key rest apart earlier)
          · rw [noNext] at goesOn
            cases goesOn

theorem step (lives : Lives reader origin id config boot number task system)
    {event : Event} (spares : Spares id system event) :
    ∃ later next, Lives reader origin id config boot later next (system.step reader event) := by
  have ofMachine : event.ofMachine = true →
    Lives reader origin id config boot number task (system.step reader event) := by
    intro isMachine
    obtain ⟨store, result, tends, entries, slots, machines⟩ := system.step_machine reader isMachine
    rw [result]
    exact ⟨lives.ledger.store_tends tends entries, lives.isDrawn,
      lives.life.kept (slots id) (machines id), lives.goesOn, lives.alone⟩
  cases event with
  | call request => exact ⟨number, task, lives.call request⟩
  | resume other answer =>
    show ∃ later next, Lives reader origin id config boot later next (system.resume reader other answer)
    rcases resume_cases reader system other answer with same | ⟨rest, outcome, found, ran, _, result⟩
    · rw [same]
      exact ⟨number, task, lives⟩
    · rw [result]
      by_cases about : id ∈ rest.about
      · obtain ⟨rfl, rfl⟩ := lives.alone other rest found about
        exact lives.settle_own (turned ran)
      · exact ⟨number, task, lives.settle_other found about spares (turned ran)⟩
  | prints | exits | panics => exact ⟨number, task, ofMachine rfl⟩

end Lives

def Origin.request (origin : Origin) (id : VmId) (config : VmConfig) (names : List Text) : Request :=
  match origin with
  | .createFromSnapshot => .createFromSnapshot id config names
  | _ => .create id config names

theorem lives_call (reader : SerialReader) (fresh : Fresh system) (isNew : id ∉ system.drawn)
    (names : List Text) (detached : origin ≠ .createFromSnapshot → config.detach = true)
    (notStart : origin ≠ .start) :
    Lives reader origin id config system.store.nextBoot system.nextTask
    (some (.record origin id config system.store.nextBoot names))
    (system.call (origin.request id config names)) := by
  have unknown := fresh.unknown id isNew
  have called : system.call (origin.request id config names) =
    spawn { system with
      store := { system.store with nextBoot := system.store.nextBoot + 1 }
      drawn := id :: system.drawn }
      (.record origin id config system.store.nextBoot names) := by
    cases origin with
    | create =>
      show (if config.detach then system.spawnBoot .create id config names else system) = _
      rw [if_pos (detached nofun)]
      unfold spawnBoot
      rw [if_neg isNew]
      rfl
    | createFromSnapshot =>
      show system.spawnBoot .createFromSnapshot id config names = _
      unfold spawnBoot
      rw [if_neg isNew]
      rfl
    | start => exact absurd rfl notStart
  have ledger := fresh.toLedger.call (origin.request id config names)
  rw [called] at ledger ⊢
  refine ⟨ledger, .head _, .recording names unknown.info unknown.live unknown.machines, ?_,
    fun key rest there about => ?_⟩
  · rintro _ ⟨⟩
    exact lookup_insert _
  · rcases lookup_spawn there with ⟨isNumber, isTask⟩ | before
    · exact ⟨isNumber, congrArg some isTask.symm⟩
    · exact absurd about (unknown.tasks key rest before).1

/-- What the record of a machine says at the end: that its boot has failed, that it runs, or how it
has ended. Then nothing of it is left. -/
def LifeCycle (reader : SerialReader) (store : Store) (id : VmId) : Prop :=
  ∀ info, store.vms.lookup id = some info →
    info.state = .failed ∧ store.NoneRuns id ∨
    info.state = .running ∧ (∃ live machine, store.liveVms.lookup id = some live ∧
      store.RunsBy id live machine ∧ machine.state = .running) ∨
    ∃ live machine, store.RunsBy id live machine ∧ info.Reports reader machine.serial ∧
      machine.state ≠ .running ∧ machine.forwards = false ∧ store.liveVms.lookup id = none ∧
      store.tempDirs.lookup id = none

/-- A machine of the id is running. -/
def Store.SomeRuns (store : Store) (id : VmId) : Prop :=
  ∃ thread machine, store.machines.lookup thread = some machine ∧ machine.id = id ∧
    machine.state = .running

/-- Nothing is going on with the id but that its monitor waits for a machine that runs. -/
def AtRest (id : VmId) (system : System) : Prop :=
  ∀ number task, system.tasks.lookup number = some task → id ∈ task.about →
    ∃ own rx, task = .awaiting own id rx ∧ system.store.threadState rx = .running

private theorem Lives.cycle_iff {number : Nat} {task : Option Task}
    (lives : Lives reader origin id config boot number task system) (rest : AtRest id system) :
    LifeCycle reader system.store id ↔ origin ≠ .createFromSnapshot ∨ system.store.vms.lookup id =
    none ∨ system.store.SomeRuns id := by
  have resting : ∀ current, task = some current → ∃ own rx, current = .awaiting own id rx ∧
    system.store.threadState rx = .running := by
    rintro current rfl
    exact rest number current (lives.goesOn current rfl) lives.life.about
  have none_of_noneRuns : system.store.NoneRuns id → ¬ system.store.SomeRuns id := by
    rintro noneRuns ⟨thread, machine, found, isId, running⟩
    exact noneRuns thread machine found isId running
  have life := lives.life
  cases life with
  | unrecorded noInfo =>
    have missing : system.store.vms.lookup id = none := noInfo
    refine iff_of_true (fun info found => ?_) (.inr (.inl missing))
    rw [missing] at found
    cases found
  | abandoned restores info isInfo creating noneRuns =>
    have found : system.store.vms.lookup id = some info := isInfo
    refine iff_of_false (fun cycle => ?_) ?_
    · rcases cycle info found with ⟨isFailed, _⟩ | ⟨running, _⟩ | ⟨_, _, _, reports, _⟩
      · rw [creating] at isFailed
        cases isFailed
      · rw [creating] at running
        cases running
      · have stopped := reports.state
        rw [creating] at stopped
        cases stopped
    · rintro (cold | missing | runs)
      · exact cold restores
      · rw [found] at missing
        cases missing
      · exact none_of_noneRuns noneRuns runs
  | failed cold info isInfo isFailed noneRuns =>
    refine iff_of_true (fun other found => ?_) (.inl cold)
    have same : some info = some other := isInfo.symm.trans found
    cases same
    exact .inl ⟨isFailed, noneRuns⟩
  | restored restores info live machine isInfo running isLive runs =>
    have found : system.store.vms.lookup id = some info := isInfo
    by_cases runsStill : machine.state = .running
    · refine iff_of_true (fun other there => ?_)
        (.inr (.inr ⟨live.thread, machine, runs.found, runs.isId, runsStill⟩))
      rw [found] at there
      cases there
      exact .inr (.inl ⟨running, live, machine, isLive, runs, runsStill⟩)
    · have noneRuns := runs.noneRuns runsStill
      refine iff_of_false (fun cycle => ?_) ?_
      · rcases cycle info found with ⟨isFailed, _⟩ | ⟨_, _, other, _, runsOther, still⟩ |
          ⟨_, _, _, reports, _⟩
        · rw [running] at isFailed
          cases isFailed
        · exact noneRuns _ other runsOther.found runsOther.isId still
        · have stopped := reports.state
          rw [running] at stopped
          cases stopped
      · rintro (cold | missing | someRuns)
        · exact cold restores
        · rw [found] at missing
          cases missing
        · exact none_of_noneRuns noneRuns someRuns
  | awaiting cold info live machine isInfo running silent isLive runs =>
    obtain ⟨_, _, same, runsStill⟩ := resting _ rfl
    cases same
    refine iff_of_true (fun other found => ?_) (.inl cold)
    have isSame : some info = some other := isInfo.symm.trans found
    cases isSame
    unfold threadState at runsStill
    rw [runs.found] at runsStill
    exact .inr (.inl ⟨running, live, machine, isLive, runs, runsStill⟩)
  | finished cold info live machine isInfo reports noLive noDir runs ended noForwards =>
    refine iff_of_true (fun other found => ?_) (.inl cold)
    have same : some info = some other := isInfo.symm.trans found
    cases same
    exact .inr (.inr ⟨live, machine, runs, reports, ended, noForwards, noLive, noDir⟩)
  | _ =>
    obtain ⟨_, _, impossible, _⟩ := resting _ rfl
    cases impossible

/-- A machine is created, cold or from a snapshot, in a backend with any other machines and calls,
and nobody starts, stops or destroys it. When nothing is going on with it, its record says what has
become of it if it was booted cold, was not recorded at all, or still runs, and only then. -/
theorem lifeCycle_iff (reader : SerialReader) {before after : List Event} {origin : Origin}
    {id : VmId} {config : VmConfig} {names : List Text}
    (isNew : id ∉ (run (step reader) .empty before).drawn) (notStart : origin ≠ .start)
    (detached : origin ≠ .createFromSnapshot → config.detach = true)
    (spares : Along (step reader) (Spares id)
      (run (step reader) .empty (before ++ [.call (origin.request id config names)])) after)
    (rest : AtRest id
      (run (step reader) .empty (before ++ .call (origin.request id config names) :: after))) :
    LifeCycle reader
    (run (step reader) .empty (before ++ .call (origin.request id config names) :: after)).store
    id ↔ origin ≠ .createFromSnapshot ∨
    (run (step reader) .empty
      (before ++ .call (origin.request id config names) :: after)).store.vms.lookup id = none ∨
    (run (step reader) .empty
      (before ++ .call (origin.request id config names) :: after)).store.SomeRuns id := by
  rw [run_append, run_cons] at rest ⊢
  rw [run_append, run_cons, run_nil] at spares
  have called := lives_call reader (fresh_run reader before) isNew names detached notStart
  obtain ⟨number, task, lives⟩ := invariant_run
    (fun system =>
      ∃ number task, Lives reader origin id config (run (step reader) .empty before).store.nextBoot
      number task system)
    (fun _ _ ⟨_, _, lives⟩ admitted => lives.step admitted) ⟨_, _, called⟩ spares
  exact lives.cycle_iff rest

def restoreA : List Event :=
  [.resume 0 .locked, .resume 0 .locked, .resume 0 (.booted .booted), .resume 0 .locked, .resume 0 .locked]

private theorem atRest_of_none (all : system.tasks.entries.all (fun _ => false) = true) :
    AtRest id system :=
  fun number task found => nomatch (all_entries_iff system.tasks _).mp all number task found

/-- As long as its guest runs, a restored machine is recorded as it should be. -/
theorem restored_lifeCycle :
    ['a'] ∉ (run (step plainReader) .empty []).drawn ∧
    Along (step plainReader) (Spares ['a'])
    (run (step plainReader) .empty
      ([] ++ [.call (Origin.createFromSnapshot.request ['a'] detached [['n']])])) restoreA ∧
    AtRest ['a']
    (run (step plainReader) .empty
      ([] ++ .call (Origin.createFromSnapshot.request ['a'] detached [['n']]) :: restoreA)) ∧
    LifeCycle plainReader
    (run (step plainReader) .empty
      ([] ++ .call (Origin.createFromSnapshot.request ['a'] detached [['n']]) :: restoreA)).store
    ['a'] := by
  have isNew : ['a'] ∉ (run (step plainReader) .empty []).drawn := by decide
  have spares : Along (step plainReader) (Spares ['a'])
    (run (step plainReader) .empty
      ([] ++ [.call (Origin.createFromSnapshot.request ['a'] detached [['n']])])) restoreA := by
      decide +kernel
  have rest : AtRest ['a'] (run (step plainReader) .empty
    ([] ++ .call (Origin.createFromSnapshot.request ['a'] detached [['n']]) :: restoreA)) :=
    atRest_of_none (by decide +kernel)
  have notStart : Origin.createFromSnapshot ≠ .start := nofun
  have isDetached : Origin.createFromSnapshot ≠ .createFromSnapshot → detached.detach = true := fun _ => rfl
  refine ⟨isNew, spares, rest, (lifeCycle_iff plainReader isNew notStart isDetached spares rest).mpr ?_⟩
  exact .inr (.inr ⟨0, .booted ['a'] 0 detached, by decide +kernel, rfl, rfl⟩)

theorem not_lifeCycle (found : store.vms.lookup id = some info) (notFailed : info.state ≠ .failed)
    (notStopped : info.state ≠ .stopped)
    (all : store.machines.entries.all (fun entry => entry.2.state ≠ .running) = true) :
    ¬ LifeCycle reader store id := by
  intro cycle
  rcases cycle info found with ⟨failed, _⟩ | ⟨_, live, machine, _, runs, running⟩ | ⟨_, _, _, reports, _⟩
  · exact notFailed failed
  · have ended := (all_entries_iff store.machines _).mp all live.thread machine runs.found
    exact of_decide_eq_true ended running
  · exact notStopped reports.state

/-- When the guest of a restored machine exits, it stays recorded as running; when the restore
fails, it stays recorded as being created. Nothing goes on that could change that. -/
theorem restored_not_lifeCycle :
    ((run (step plainReader) .empty
      (.call (.createFromSnapshot ['a'] detached [['n']]) :: restoreA ++
      [.exits 0])).tasks.entries = [] ∧
      ¬ LifeCycle plainReader
      (run (step plainReader) .empty
      (.call (.createFromSnapshot ['a'] detached [['n']]) :: restoreA ++ [.exits 0])).store ['a']) ∧
    (run (step plainReader) .empty
      [.call (.createFromSnapshot ['a'] detached [['n']]), .resume 0 .locked, .resume 0 .locked,
      .resume 0 (.booted (.failed true))]).tasks.entries = [] ∧
    ¬ LifeCycle plainReader
    (run (step plainReader) .empty
      [.call (.createFromSnapshot ['a'] detached [['n']]), .resume 0 .locked, .resume 0 .locked,
      .resume 0 (.booted (.failed true))]).store ['a'] := by
  refine ⟨⟨by decide +kernel, ?_⟩, by decide +kernel, ?_⟩
  · have found : (run (step plainReader) .empty
      (.call (.createFromSnapshot ['a'] detached [['n']]) :: restoreA ++
        [.exits 0])).store.vms.lookup ['a'] =
      some { VmInfo.creating detached 0 ['n'] with state := .running } := by decide +kernel
    exact not_lifeCycle found nofun nofun (by decide +kernel)
  · have found : (run (step plainReader) .empty
      [.call (.createFromSnapshot ['a'] detached [['n']]), .resume 0 .locked, .resume 0 .locked,
        .resume 0 (.booted (.failed true))]).store.vms.lookup ['a'] =
      some (VmInfo.creating detached 0 ['n']) := by decide +kernel
    exact not_lifeCycle found nofun nofun (by decide +kernel)

end Visor.Backend
