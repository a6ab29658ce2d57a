import Visor.Backend.Effects

/-! A monitor finds its machine by id only. It keeps to the boot it was spawned for as long as no
`start` boots the id again before the monitor has ended. -/

namespace Visor.Backend
open Library Store KeyedMap Backend.System Backend.Task Boot Stop Slot

structure Store.Untouched (own : BootId) (before after : Store) : Prop where
  info : ∀ id info, before.vms.lookup id = some info → info.boot ≠ own → after.vms.lookup id = some info
  live : ∀ id live, before.liveVms.lookup id = some live → live.boot ≠ own →
    after.liveVms.lookup id = some live
  machine : ∀ thread machine, before.machines.lookup thread = some machine → machine.boot ≠ own →
    after.machines.lookup thread = some machine
  dir : ∀ id boot, before.tempDirs.lookup id = some boot → boot ≠ own → after.tempDirs.lookup id = some boot

theorem Store.Untouched.refl (own : BootId) (store : Store) : store.Untouched own store :=
  ⟨fun _ _ found _ => found, fun _ _ found _ => found, fun _ _ found _ => found, fun _ _ found _ => found⟩

theorem Store.Untouched.trans {own : BootId} {first second third : Store}
    (before : first.Untouched own second) (after : second.Untouched own third) :
    first.Untouched own third where
  info id info found other := after.info id info (before.info id info found other) other
  live id live found other := after.live id live (before.live id live found other) other
  machine thread machine found other :=
    after.machine thread machine (before.machine thread machine found other) other
  dir id boot found other := after.dir id boot (before.dir id boot found other) other

/-- What is kept under an id is about one boot. -/
structure Slot.Of (slot : Slot) (boot : BootId) : Prop where
  info : ∀ info, slot.info = some info → info.boot = boot
  live : ∀ live, slot.live = some live → live.boot = boot
  dir : ∀ made, slot.dir = some made → made = boot

section
variable {before after : Slot}

theorem Slot.Of.shrinks {boot : BootId} (of : before.Of boot) (shrinks : before.Shrinks after) :
    after.Of boot where
  info new there := by
    obtain ⟨old, found, same⟩ := shrinks.info new there
    exact same.trans (of.info old found)
  live new there := by
    obtain ⟨old, found, same, _⟩ := shrinks.live new there
    exact same.trans (of.live old found)
  dir made there := of.dir made (shrinks.dir made there)

theorem Slot.Shrinks.live_none (shrinks : before.Shrinks after) (missing : before.live = none) :
    after.live = none := by
  cases there : after.live with
  | none => rfl
  | some live =>
    obtain ⟨old, found, _⟩ := shrinks.live live there
    rw [missing] at found
    cases found

theorem Slot.Shrinks.info_none (shrinks : before.Shrinks after) (missing : before.info = none) :
    after.info = none := by
  cases there : after.info with
  | none => rfl
  | some info =>
    obtain ⟨old, found, _⟩ := shrinks.info info there
    rw [missing] at found
    cases found

end

def Store.RunsAs (store : Store) (thread : ThreadId) (id : VmId) (boot : BootId) : Prop :=
  ∃ machine, store.machines.lookup thread = some machine ∧ machine.id = id ∧ machine.boot = boot

variable {before after : Store} {id : VmId} {store : Store} {task : Task}

theorem Store.RunsAs.aged {thread : ThreadId} {boot : BootId} (runs : before.RunsAs thread id boot)
    (ages : before.MachinesAge after) : after.RunsAs thread id boot := by
  obtain ⟨machine, found, sameId, sameBoot⟩ := runs
  obtain ⟨new, foundNew, aged⟩ := ages thread machine found
  exact ⟨new, foundNew, aged.id.trans sameId, aged.boot.trans sameBoot⟩

namespace Task
/-- The id that a task boots, from the decision to do so to its end, or that a monitor watches. -/
def bears : Task → Option VmId
  | .record _ id _ _ _ | .readConfig id _ | .clearLive id _ _ | .resetInfo id _ _
  | .keepConfig _ id _ _ | .booting _ id _ _ | .install _ id _ _ | .announce _ id _
  | .watch _ id | .awaiting _ id _ | .claim _ id | .conclude _ id _ _ | .joiningOwn _ id _
  | .ensureStopped _ id => some id
  | _ => none

def startsOn : Task → Option VmId
  | .readExisting id => some id
  | _ => none

def monitors : Task → Option BootId
  | .watch own _ | .awaiting own _ _ | .claim own _ | .conclude own _ _ _ | .joiningOwn own _ _
  | .ensureStopped own _ => some own
  | _ => none

/-- What is kept under the id of a task that boots it or watches it is about its boot. -/
def Faithful (store : Store) : Task → Prop
  | .record _ id _ _ _ => (store.slot id).live = none ∧ (store.slot id).info = none
  | .resetInfo id _ _ => (store.slot id).live = none
  | .keepConfig _ id _ boot | .booting _ id _ boot =>
    (store.slot id).live = none ∧ ∀ info, (store.slot id).info = some info → info.boot = boot
  | .install _ id boot live =>
    (store.slot id).live = none ∧ (store.slot id).Of boot ∧ live.boot = boot ∧
      store.RunsAs live.thread id boot
  | .announce _ id boot => (store.slot id).Of boot
  | .watch own id | .claim own id | .ensureStopped own id => (store.slot id).Of own
  | .awaiting own id rx => (store.slot id).Of own ∧ store.RunsAs rx id own
  | .conclude own id live _ | .joiningOwn own id live =>
    (store.slot id).Of own ∧ live.boot = own ∧ store.RunsAs live.thread id own
  | _ => True

theorem Faithful.kept {before after : Store} {task : Task} (faithful : task.Faithful before)
    (shrinks : ∀ id, task.bears = some id → (before.slot id).Shrinks (after.slot id))
    (ages : before.MachinesAge after) : task.Faithful after := by
  cases task with
  | record origin id => exact ⟨(shrinks id rfl).live_none faithful.1, (shrinks id rfl).info_none faithful.2⟩
  | resetInfo id => exact (shrinks id rfl).live_none faithful
  | keepConfig origin id | booting origin id =>
    refine ⟨(shrinks id rfl).live_none faithful.1, fun info there => ?_⟩
    obtain ⟨old, found, same⟩ := (shrinks id rfl).info info there
    exact same.trans (faithful.2 old found)
  | install origin id =>
    exact ⟨(shrinks id rfl).live_none faithful.1, faithful.2.1.shrinks (shrinks id rfl),
      faithful.2.2.1, faithful.2.2.2.aged ages⟩
  | announce origin id | watch own id | claim own id | ensureStopped own id =>
    exact Of.shrinks faithful (shrinks id rfl)
  | awaiting own id => exact ⟨faithful.1.shrinks (shrinks id rfl), faithful.2.aged ages⟩
  | conclude own id | joiningOwn own id =>
    exact ⟨faithful.1.shrinks (shrinks id rfl), faithful.2.1, faithful.2.2.aged ages⟩
  | _ => trivial

end Task

/-- Every entry of a running machine is about the machine on its thread. -/
def Store.Known (store : Store) : Prop :=
  ∀ id live, (store.slot id).live = some live → store.RunsAs live.thread id live.boot

def Store.Numbered (store : Store) : Prop :=
  ∀ thread machine, store.machines.lookup thread = some machine → thread < store.nextThread

theorem Store.Known.tends (known : before.Known) (tends : before.Tends after) : after.Known := by
  intro id live there
  obtain ⟨old, found, sameBoot, sameThread⟩ := (tends.slots id).live live there
  rw [sameBoot, sameThread]
  exact (known id old found).aged tends.machines

theorem Store.Known.runs {live : VmLiveState} {boot : BootId} (known : before.Known)
    (of : (before.slot id).Of boot) (found : (before.slot id).live = some live) :
    before.RunsAs live.thread id boot := of.live live found ▸ known id live found

theorem Store.Numbered.tends (numbered : before.Numbered) (tends : before.Tends after) :
    after.Numbered := by
  intro thread machine found
  rw [tends.nextThread]
  cases old : before.machines.lookup thread with
  | none =>
    rw [tends.noMachine thread old] at found
    cases found
  | some machine => exact numbered thread machine old

section
variable (numbered : store.Numbered) (id : VmId) (boot : BootId) (machine : Machine)
include numbered

theorem Store.Numbered.spawned : (spawnMachine store id boot machine).Numbered := by
  intro thread other found
  have inserted : (store.machines.insert store.nextThread machine).lookup thread = some other := found
  rw [lookup_insert_eq] at inserted
  split at inserted
  next same =>
    exact same ▸ Nat.lt_succ_self _
  · exact Nat.lt_succ_of_lt (numbered thread other inserted)

theorem Store.MachinesAge.spawned : store.MachinesAge (spawnMachine store id boot machine) := by
  intro thread old found
  refine ⟨old, ?_, .refl old⟩
  have older := numbered thread old found
  show (store.machines.insert store.nextThread machine).lookup thread = some old
  rw [lookup_insert_eq, if_neg (Nat.ne_of_lt older), found]

end

structure Turn (store : Store) (task : Task) (outcome : Outcome) : Prop where
  slots : ∀ id, task.bears ≠ some id → (store.slot id).Shrinks (outcome.store.slot id)
  machines : store.MachinesAge outcome.store
  numbered : outcome.store.Numbered
  known : outcome.store.Known

theorem Turn.of_tends {outcome : Outcome} (numbered : store.Numbered) (known : store.Known)
    (tends : store.Tends outcome.store) : Turn store task outcome :=
  ⟨fun id _ => tends.slots id, tends.machines, numbered.tends tends, known.tends tends⟩

theorem Turn.of_elsewhere {outcome : Outcome} (known : store.Known) (bears : task.bears = some id)
    (elsewhere : ∀ other, other ≠ id → outcome.store.slot other = store.slot other)
    (machines : store.MachinesAge outcome.store) (numbered : outcome.store.Numbered)
    (own : ∀ live, (outcome.store.slot id).live = some live →
      outcome.store.RunsAs live.thread id live.boot) : Turn store task outcome where
  slots other isOther := by
    have apart : other ≠ id := by
      rintro rfl
      exact isOther bears
    rw [elsewhere other apart]
    exact .refl _
  machines := machines
  numbered := numbered
  known other live there := by
    by_cases same : other = id
    · subst same
      exact own live there
    · rw [elsewhere other same] at there
      exact (known other live there).aged machines

section Turns
variable {reader : SerialReader} {store : Store} {task : Task} {outcome : Outcome} {origin : Origin}
  {config : VmConfig} {boot : BootId}
variable {id : VmId}

private theorem own_turn {slot : Slot} (bears : task.bears = some id) (numbered : outcome.store.Numbered)
    (known : store.Known)
    (ages : store.MachinesAge outcome.store)
    (slots : ∀ other, outcome.store.slot other = if other = id then slot else store.slot other)
    (same : slot.live = (store.slot id).live) : Turn store task outcome := by
  refine .of_elsewhere known bears (fun other apart => ?_) ages numbered fun live there =>
    (known id live ?_).aged ages
  · rw [slots, if_neg apart]
  · rw [slots, if_pos rfl, same] at there
    exact there

theorem Turned.turn (turned : Turned reader store task outcome) (numbered : store.Numbered)
    (known : store.Known) (faithful : task.Faithful store) : Turn store task outcome := by
  have tends := turned.tends
  cases turned with
  | returned | bootFailed => exact .of_tends numbered known (.refl store)
  | recorded =>
    exact own_turn rfl numbered known (.refl store) (fun other => slot_insert_info store _ other _) rfl
  | wasReset =>
    exact own_turn rfl numbered known (.refl store) (fun other => slot_updateInfo store _ other _) rfl
  | bootLeftDir =>
    exact own_turn rfl numbered known (.refl store) (fun other => slot_insert_dir store _ other _) rfl
  | tornDown | booted =>
    exact own_turn rfl (numbered.spawned _ _ _) known (.spawned numbered _ _ _)
      (fun other => slot_spawnMachine store _ other _ _) rfl
  | installed origin id boot live =>
    obtain ⟨missing, _, isBoot, runs⟩ := faithful
    have isNone : store.liveVms.lookup id = none := missing
    rw [isNone]
    refine .of_elsewhere known rfl (fun other apart => ?_) (.refl store) numbered fun new there => ?_
    · show slot { store with liveVms := store.liveVms.insert id live } other = _
      rw [slot_insert_live, if_neg apart]
    · change (slot { store with liveVms := store.liveVms.insert id live } id).live = some new at there
      rw [slot_insert_live, if_pos rfl] at there
      cases there
      exact isBoot ▸ runs
  | _ => exact .of_tends numbered known (tends rfl)

theorem Task.faithful_of_bears (nothing : task.bears = none) (store : Store) : task.Faithful store := by
  cases task with
  | record | resetInfo | keepConfig | booting | install | announce | watch | awaiting | claim
  | conclude | joiningOwn | ensureStopped => cases nothing
  | _ => trivial

/-- A task that goes on bears no id that it did not bear before, but for a `start` that has
decided to boot; a monitor takes over the id. What they rely on is so. -/
structure Onward (store : Store) (task : Task) (outcome : Outcome) : Prop where
  next : ∀ next, outcome.next = some next → next.Faithful outcome.store ∧
    ∀ id, next.bears = some id → task.bears = some id ∨
      task = .readExisting id ∧ (store.slot id).info ≠ none
  spawned : ∀ monitor, outcome.spawned = some monitor → monitor.Faithful outcome.store ∧
    outcome.next = none ∧ monitor.bears = task.bears

variable {after : Store}

theorem onward_free {next : Option Task} (nothing : ∀ task, next = some task → task.bears = none) :
    Onward store task ⟨after, next, none⟩ where
  next task goesOn := by
    refine ⟨faithful_of_bears (nothing task goesOn) _, fun id bears => ?_⟩
    rw [nothing task goesOn] at bears
    cases bears
  spawned monitor spawned := nomatch (spawned : none = some monitor)

theorem onward_same {next : Task} (faithful : next.Faithful after) (same : next.bears = task.bears)
    : Onward store task ⟨after, some next, none⟩ where
  next := by
    rintro _ ⟨⟩
    exact ⟨faithful, fun _ bears => .inl (same ▸ bears)⟩
  spawned monitor spawned := nomatch (spawned : none = some monitor)

theorem onward_end (store after : Store) (task : Task) : Onward store task ⟨after, none, none⟩ :=
  onward_free fun next goesOn => nomatch (goesOn : none = some next)

private theorem bears_afterCapture (ending : Ending) (id : VmId) (live : VmLiveState) (bytes : List U8) :
    (afterCapture ending id live bytes).bears = none := by
  unfold afterCapture
  split
  · rfl
  · rfl

theorem onward_capture {ending : Ending} {live : VmLiveState} {bytes : List U8} :
    Onward store task ⟨after, some (afterCapture ending id live bytes), none⟩ := by
  refine onward_free ?_
  rintro _ ⟨⟩
  exact bears_afterCapture ending id live bytes

theorem onward_finish {ending : Ending} :
    Onward store task ⟨after, ending.destroys.map .forgetInfo, none⟩ := by
  refine onward_free fun next goesOn => ?_
  obtain ⟨id, _, rfl⟩ := Option.map_eq_some_iff.mp goesOn
  rfl

theorem onward_fail :
    Onward store task
    ⟨after, if origin = .createFromSnapshot then none else some (.markFailed id boot), none⟩ := by
  refine onward_free fun next goesOn => ?_
  split at goesOn
  · cases goesOn
  · cases goesOn
    rfl

theorem onward_step {next : Task} (nothing : next.bears = none) :
    Onward store task ⟨after, some next, none⟩ := by
  refine onward_free ?_
  rintro _ ⟨⟩
  exact nothing

theorem slot_removed (store : Store) (id : VmId) : ((store.removeLive id).2.slot id).live = none := by
  rw [slot_removeLive, if_pos rfl]

theorem Slot.Of.tends {before after : Store} (of : (before.slot id).Of boot)
    (tends : before.Tends after) : (after.slot id).Of boot := of.shrinks (tends.slots id)

theorem recorded_faithful {name : Text} (missing : (store.slot id).live = none) :
    Faithful { store with vms := store.vms.insert id (.creating config boot name) }
    (.keepConfig origin id config boot) := by
  have own := slot_insert_info store id id (.creating config boot name)
  rw [if_pos rfl] at own
  refine ⟨own ▸ missing, own ▸ ?_⟩
  rintro _ ⟨⟩
  rfl

theorem reset_faithful (missing : (store.slot id).live = none) :
    Faithful (store.updateInfo id (.restarting config boot)) (.keepConfig .start id config boot) := by
  have own := slot_updateInfo store id id (.restarting config boot)
  rw [if_pos rfl] at own
  refine ⟨own ▸ missing, own ▸ fun info there => ?_⟩
  obtain ⟨old, _, rfl⟩ := Option.map_eq_some_iff.mp there
  rfl

theorem booted_faithful (faithful : Faithful store (.booting origin id config boot)) :
    Faithful (spawnMachine store id boot (.booted id boot config))
    (.install origin id boot (.booted store.nextThread boot config)) := by
  obtain ⟨missing, isBoot⟩ := faithful
  have own : (spawnMachine store id boot (.booted id boot config)).slot id =
    { store.slot id with dir := some boot } := by rw [slot_spawnMachine, if_pos rfl]
  have runs : (spawnMachine store id boot (.booted id boot config)).RunsAs store.nextThread id boot := by
    refine ⟨.booted id boot config, ?_, rfl, rfl⟩
    show (store.machines.insert store.nextThread _).lookup store.nextThread = _
    rw [lookup_insert_eq, if_pos rfl]
  refine ⟨own ▸ missing, own ▸ ⟨isBoot, fun live there => ?_, ?_⟩, rfl, runs⟩
  · have found : (store.slot id).live = some live := there
    rw [missing] at found
    cases found
  · rintro _ ⟨⟩
    rfl

private theorem installed_faithful {live : VmLiveState}
    (faithful : Faithful store (.install origin id boot live)) :
    Faithful (({ store with liveVms := store.liveVms.insert id live } : Store).dropLive
    (store.liveVms.lookup id)) (.announce origin id boot) := by
  obtain ⟨_, of, isBoot, _⟩ := faithful
  have own := slot_insert_live store id id live
  rw [if_pos rfl] at own
  show Of _ boot
  rw [slot_dropLive, own]
  refine ⟨of.info, ?_, of.dir⟩
  rintro _ ⟨⟩
  exact isBoot

theorem Turned.onward (turned : Turned reader store task outcome) (known : store.Known)
    (faithful : task.Faithful store) : Onward store task outcome := by
  have tends := turned.tends
  have spawns := turned.spawns
  cases turned with
  | returned | lost | unwatched | markedFailed | forgotConfig | joinedOwn | joinFailed | ensured =>
    exact onward_end _ _ _
  | recorded => exact onward_same (recorded_faithful faithful.1) rfl
  | decided id existing found =>
    refine ⟨?_, fun monitor spawned => nomatch (spawned : none = some monitor)⟩
    rintro _ ⟨⟩
    refine ⟨trivial, ?_⟩
    rintro _ ⟨⟩
    refine .inr ⟨rfl, fun missing => ?_⟩
    have none : store.vms.lookup id = none := missing
    rw [found] at none
    cases none
  | configured => exact onward_same trivial rfl
  | cleared id =>
    refine onward_same ?_ rfl
    show ((((store.removeLive id).2).dropLive _).slot id).live = none
    rw [slot_dropLive]
    exact slot_removed store id
  | wasReset => exact onward_same (reset_faithful faithful) rfl
  | configKept origin id config boot =>
    have boots : Faithful { store with vmConfigs := store.vmConfigs.insert id config }
      (.booting origin id config boot) := faithful
    exact onward_same boots rfl
  | bootFailed | bootLeftDir | tornDown => exact onward_fail
  | booted => exact onward_same (booted_faithful faithful) rfl
  | installed => exact onward_same (installed_faithful faithful) rfl
  | announced origin id boot =>
    have kept : Of _ boot := Of.tends faithful (tends rfl)
    refine ⟨fun next goesOn => (nomatch (goesOn : none = some next)), fun monitor spawned => ?_⟩
    obtain ⟨_, _, _, isTask, rfl, _⟩ := spawns monitor spawned
    cases isTask
    exact ⟨kept, rfl, rfl⟩
  | watched own id live found =>
    have of : (store.slot id).Of own := faithful
    have runs := known.runs of found
    have awaits : Faithful
      { store with liveVms := store.liveVms.insert id { live with completionRx := false } }
      (.awaiting own id live.thread) := ⟨of.tends (tends rfl), runs⟩
    exact onward_same awaits rfl
  | woke => exact onward_same (Of.tends faithful.1 (tends rfl)) rfl
  | wokeWithout => exact onward_same faithful.1 rfl
  | claimed own id live found =>
    have of : (store.slot id).Of own := faithful
    have runs := known.runs of found
    have concludes :
      Faithful (store.removeLive id).2 (.conclude own id live (store.serialOutput live.thread)) :=
      ⟨of.tends (tends rfl), of.live live found, runs⟩
    exact onward_same concludes rfl
  | claimedNothing => exact onward_same (Of.tends faithful (tends rfl)) rfl
  | concluded own id live bytes =>
    have joins : Faithful (store.updateInfo id (.exited reader bytes))
      (.joiningOwn own id live) := ⟨Of.tends faithful.1 (tends rfl), faithful.2⟩
    exact onward_same joins rfl
  | notFound | endedBefore | markedStopped => exact onward_finish
  | tookToKill | acceptedUnwatched | refused | completed | channelDropped | waitTimedOut =>
    exact onward_capture
  | _ => exact onward_step rfl

end Turns

section Monitors
variable {store : Store} {own : BootId} {id : VmId}
section
variable (of : (store.slot id).Of own)
include of

theorem untouched_updateInfo (update : VmInfo → VmInfo) :
    store.Untouched own (store.updateInfo id update) := by
  refine { Untouched.refl own store with info := fun other info found notOwn => ?_ }
  have apart : other ≠ id := by
    rintro rfl
    exact notOwn (of.info info found)
  show (store.vms.modify id update).lookup other = some info
  rw [lookup_modify, if_neg apart, found]

theorem untouched_live {liveVms : KeyedMap VmId VmLiveState}
    (others : ∀ other, other ≠ id → liveVms.lookup other = store.liveVms.lookup other) :
    store.Untouched own { store with liveVms := liveVms } := by
  refine { Untouched.refl own store with live := fun other live found notOwn => ?_ }
  have apart : other ≠ id := by
    rintro rfl
    exact notOwn (of.live live found)
  exact (others other apart).trans found

theorem untouched_removeTempDir : store.Untouched own (store.removeTempDir id) := by
  refine { Untouched.refl own store with dir := fun other boot found notOwn => ?_ }
  have apart : other ≠ id := by
    rintro rfl
    exact notOwn (of.dir boot found)
  show (store.tempDirs.erase id).lookup other = some boot
  rw [lookup_erase_eq, if_neg apart, found]

end

theorem untouched_updateMachine {thread : ThreadId} (runs : store.RunsAs thread id own)
    (update : Machine → Machine) : store.Untouched own (store.updateMachine thread update) := by
  refine { Untouched.refl own store with machine := fun other machine found notOwn => ?_ }
  have apart : other ≠ thread := by
    rintro rfl
    obtain ⟨same, foundSame, _, isOwn⟩ := runs
    rw [found] at foundSame
    cases foundSame
    exact notOwn isOwn
  show (store.machines.modify thread update).lookup other = some machine
  rw [lookup_modify, if_neg apart, found]

private theorem untouched_letGo {live : VmLiveState} (of : (store.slot id).Of own)
    (runs : store.RunsAs live.thread id own) :
    store.Untouched own ((store.dropForwards live).removeTempDir id) := by
  have dropped : store.Untouched own (store.dropForwards live) := by
    unfold dropForwards
    split
    · exact untouched_updateMachine runs _
    · exact .refl own store
  exact dropped.trans (untouched_removeTempDir (of.tends (tends_dropForwards store live)))

theorem Turned.untouched {reader : SerialReader} {outcome : Outcome} {task : Task}
    (turned : Turned reader store task outcome) (isMonitor : task.monitors = some own)
    (faithful : task.Faithful store) : store.Untouched own outcome.store := by
  cases turned with
  | returned | unwatched | wokeWithout => exact .refl own store
  | watched =>
    cases isMonitor
    exact untouched_live faithful fun other apart => by rw [lookup_insert_eq, if_neg apart]
  | woke =>
    cases isMonitor
    exact untouched_updateMachine faithful.2 _
  | claimed | claimedNothing =>
    cases isMonitor
    exact untouched_live faithful fun other apart => by rw [lookup_erase_eq, if_neg apart]
  | concluded =>
    cases isMonitor
    exact untouched_updateInfo faithful.1 _
  | joinedOwn own id live =>
    cases isMonitor
    obtain ⟨of, _, runs⟩ := faithful
    have observed := tends_observe store live.thread
    exact (untouched_updateMachine runs _).trans
      (untouched_letGo (of.tends observed) (runs.aged observed.machines))
  | joinFailed =>
    cases isMonitor
    exact untouched_letGo faithful.1 faithful.2.2
  | ensured =>
    cases isMonitor
    exact untouched_updateInfo faithful _
  | _ => cases isMonitor

end Monitors

/-- A `start` decides to boot an id only if nothing boots it and no monitor of it is left. -/
def StartsAlone (system : System) : Event → Prop
  | .resume number _ =>
    ∀ id ∈ (system.tasks.lookup number).bind startsOn,
      ∀ entry ∈ system.tasks.entries, entry.2.bears ≠ some id
  | _ => True

instance (system : System) (event : Event) : Decidable (StartsAlone system event) :=
  by cases event <;> (unfold StartsAlone; infer_instance)

theorem StartsAlone.bears_ne {system : System} {number : Nat} {answer : Answer}
    (alone : StartsAlone system (.resume number answer))
    (found : system.tasks.lookup number = some (.readExisting id))
    {other : Nat} (there : system.tasks.lookup other = some task) : task.bears ≠ some id := by
  refine alone id ?_ ⟨other, task⟩ ((mem_entries_iff _ _ _).mpr there)
  rw [found]
  exact rfl

/-- A monitor leaves everything alone that belongs to other boots than its own. -/
def KeepsToOwn (reader : SerialReader) (system : System) (event : Event) : Prop :=
  ∀ number answer task own, event = .resume number answer →
    system.tasks.lookup number = some task → task.monitors = some own →
    system.store.Untouched own (system.step reader event).store

structure Current (system : System) : Prop where
  tasks : ∀ number task, system.tasks.lookup number = some task → number < system.nextTask
  numbered : system.store.Numbered
  known : system.store.Known
  drawn : ∀ id, id ∉ system.drawn → (system.store.slot id).info = none ∧
    (system.store.slot id).live = none ∧
    ∀ number task, system.tasks.lookup number = some task → task.bears ≠ some id
  sole : ∀ first second task other id, system.tasks.lookup first = some task →
    system.tasks.lookup second = some other → task.bears = some id → other.bears = some id → first = second
  faithful : ∀ number task, system.tasks.lookup number = some task → task.Faithful system.store

theorem current_empty : Current .empty where
  tasks _ _ found := nomatch found
  numbered _ _ found := nomatch found
  known _ _ found := nomatch found
  drawn _ _ := ⟨rfl, rfl, fun _ _ found => nomatch found⟩
  sole _ _ _ _ _ found := nomatch found
  faithful _ _ found := nomatch found

namespace Current
variable {system : System} {reader : SerialReader}
section
variable (current : Current system)
include current

theorem spawn {task : Task} (faithful : task.Faithful system.store)
    (isDrawn : ∀ id, task.bears = some id → id ∈ system.drawn)
    (alone : ∀ number other id, system.tasks.lookup number = some other → task.bears = some id →
      other.bears ≠ some id) : Current (system.spawn task) where
  tasks number other found := by
    rcases lookup_spawn found with ⟨rfl, _⟩ | there
    · exact Nat.lt_succ_self _
    · exact Nat.lt_succ_of_lt (current.tasks number other there)
  numbered := current.numbered
  known := current.known
  drawn id notDrawn := by
    obtain ⟨noInfo, noLive, noTask⟩ := current.drawn id notDrawn
    refine ⟨noInfo, noLive, fun number other found => ?_⟩
    rcases lookup_spawn found with ⟨_, rfl⟩ | there
    · exact fun bears => notDrawn (isDrawn id bears)
    · exact noTask number other there
  sole first second task other id found foundOther bears bearsOther := by
    rcases lookup_spawn found with ⟨isNew, rfl⟩ | there
    · rcases lookup_spawn foundOther with ⟨isNewOther, rfl⟩ | thereOther
      · exact isNew.trans isNewOther.symm
      · exact absurd bearsOther (alone second other id thereOther bears)
    · rcases lookup_spawn foundOther with ⟨_, rfl⟩ | thereOther
      · exact absurd bears (alone first task id there bearsOther)
      · exact current.sole first second task other id there thereOther bears bearsOther
  faithful number other found := by
    rcases lookup_spawn found with ⟨_, rfl⟩ | there
    · exact faithful
    · exact current.faithful number other there

theorem spawn_free {task : Task} (nothing : task.bears = none) : Current (system.spawn task) := by
  refine current.spawn (faithful_of_bears nothing _) (fun id bears => ?_) fun _ _ id _ bears => ?_
  · rw [nothing] at bears
    cases bears
  · rw [nothing] at bears
    cases bears

theorem draw (id : VmId) : Current { system with
    store := { system.store with nextBoot := system.store.nextBoot + 1 }
    drawn := id :: system.drawn } :=
  { current with
    drawn := fun other notDrawn => current.drawn other fun isDrawn => notDrawn (.tail _ isDrawn) }

theorem spawnBoot (origin : Origin) (id : VmId) (config : VmConfig) (names : List Text) :
    Current (system.spawnBoot origin id config names) := by
  unfold System.spawnBoot
  split
  · exact current
  next isNew =>
    obtain ⟨noInfo, noLive, noTask⟩ := current.drawn id isNew
    refine (current.draw id).spawn ⟨noLive, noInfo⟩ ?_ ?_
    · rintro _ ⟨⟩
      exact .head _
    · rintro number other _ found ⟨⟩
      exact noTask number other found

theorem call (request : Request) : Current (system.call request) := by
  cases request with
  | create id config names =>
    show Current (if config.detach then _ else _)
    split
    · exact current.spawnBoot .create id config names
    · exact current
  | createFromSnapshot id config names => exact current.spawnBoot _ id config names
  | start | stop | kill | destroy => exact current.spawn_free rfl

theorem store_tends {store : Store} (tends : system.store.Tends store) :
    Current { system with store := store } where
  tasks := current.tasks
  numbered := current.numbered.tends tends
  known := current.known.tends tends
  drawn id notDrawn := by
    obtain ⟨noInfo, noLive, noTask⟩ := current.drawn id notDrawn
    exact ⟨(tends.slots id).info_none noInfo, (tends.slots id).live_none noLive, noTask⟩
  sole := current.sole
  faithful number task found :=
    (current.faithful number task found).kept (fun id _ => tends.slots id) tends.machines

end

section
variable (current : Current system) {number : Nat} {answer : Answer} {task : Task}
  {outcome : Outcome} (found : system.tasks.lookup number = some task)
  (alone : StartsAlone system (.resume number answer))
  (ran : task.advance reader system.store answer = some outcome)
include current found alone ran

theorem replace : Current (system.replace number outcome) := by
  have faithful := current.faithful number task found
  have turn := (turned ran).turn current.numbered current.known faithful
  have onward := ((turned ran).onward current.known faithful).next
  -- Another task that bears an id is not the one whose turn it is, so its id is left alone.
  have others : ∀ other rest, other ≠ number → system.tasks.lookup other = some rest →
    ∀ id, rest.bears = some id → task.bears ≠ some id := by
    intro other rest isOther there id bears bearsToo
    exact isOther (current.sole other number rest task id there found bears bearsToo)
  have fresh : ∀ next id, outcome.next = some next → next.bears = some id →
    ∀ other rest, other ≠ number → system.tasks.lookup other = some rest →
    rest.bears ≠ some id := by
    intro next id goesOn bears other rest isOther there bearsToo
    rcases (onward next goesOn).2 id bears with same | starts
    · exact others other rest isOther there id bearsToo same
    · obtain ⟨rfl, _⟩ := starts
      exact alone.bears_ne found there bearsToo
  constructor
  · intro other rest there
    rcases lookup_replace there with ⟨_, before⟩ | ⟨rfl, _⟩
    · exact current.tasks other rest before
    · exact current.tasks other task found
  · exact turn.numbered
  · exact turn.known
  · intro id notDrawn
    obtain ⟨noInfo, noLive, noTask⟩ := current.drawn id notDrawn
    have shrinks := turn.slots id (noTask number task found)
    refine ⟨shrinks.info_none noInfo, shrinks.live_none noLive, fun other rest there bears => ?_⟩
    rcases lookup_replace there with ⟨_, before⟩ | ⟨_, goesOn⟩
    · exact noTask other rest before bears
    · rcases (onward rest goesOn).2 id bears with same | starts
      · exact noTask number task found same
      · exact starts.2 noInfo
  · intro first second rest other id there thereOther bears bearsOther
    rcases lookup_replace there with ⟨isOther, before⟩ | ⟨isFirst, goesOn⟩
    · rcases lookup_replace thereOther with ⟨_, beforeOther⟩ | ⟨_, goesOn⟩
      · exact current.sole first second rest other id before beforeOther bears bearsOther
      · exact absurd bears (fresh other id goesOn bearsOther first rest isOther before)
    · rcases lookup_replace thereOther with ⟨isOther, before⟩ | ⟨isSecond, _⟩
      · exact absurd bearsOther (fresh rest id goesOn bears second other isOther before)
      · exact isFirst.trans isSecond.symm
  · intro other rest there
    rcases lookup_replace there with ⟨isOther, before⟩ | ⟨_, goesOn⟩
    · exact (current.faithful other rest before).kept
        (fun id bears => turn.slots id (others other rest isOther before id bears)) turn.machines
    · exact (onward rest goesOn).1

theorem settle : Current (system.settle number outcome) := by
  have replaced := current.replace found alone ran
  have spawns := ((turned ran).onward current.known (current.faithful number task found)).spawned
  unfold System.settle
  split
  next monitor isSpawned =>
    obtain ⟨faithful, ends, same⟩ := spawns monitor isSpawned
    refine replaced.spawn faithful (fun id bears => ?_) fun other rest id there bears bearsToo => ?_
    · by_contra notDrawn
      exact (current.drawn id notDrawn).2.2 number task found (same ▸ bears)
    · rcases lookup_replace there with ⟨isOther, before⟩ | ⟨_, goesOn⟩
      · exact isOther (current.sole other number rest task id before found bearsToo (same ▸ bears))
      · rw [ends] at goesOn
        cases goesOn
  · exact replaced

end

theorem step (current : Current system) {event : Event} (alone : StartsAlone system event) :
    Current (system.step reader event) := by
  cases event with
  | call request => exact current.call request
  | resume number answer =>
    rcases resume_cases reader system number answer with same | ⟨task, outcome, found, ran, _, result⟩
    · show Current (system.resume reader number answer)
      rw [same]
      exact current
    · show Current (system.resume reader number answer)
      rw [result]
      exact current.settle found alone ran
  | prints thread bytes => exact current.store_tends (system.tends_prints thread bytes)
  | exits thread | panics thread => exact current.store_tends (system.tends_ends thread nofun)

theorem keepsToOwn (current : Current system) (event : Event) : KeepsToOwn reader system event := by
  rintro number answer task own rfl found isMonitor
  rcases resume_cases reader system number answer with same |
    ⟨turning, outcome, foundTurning, ran, _, result⟩
  · show system.store.Untouched own (system.resume reader number answer).store
    rw [same]
    exact .refl own system.store
  · rw [found] at foundTurning
    cases foundTurning
    show system.store.Untouched own (system.resume reader number answer).store
    rw [result, settle_store]
    exact (turned ran).untouched isMonitor (current.faithful number task found)

end Current

/-- In a run in which no `start` boots an id that is still being booted or watched, every monitor
keeps to the boot that it was spawned for. -/
theorem monitors_keep_to_own (reader : SerialReader)
    {events : List Event} (alone : Along (System.step reader) StartsAlone .empty events) :
    Along (System.step reader) (KeepsToOwn reader) .empty events :=
  along_of_invariant Current (fun _ _ current starts => current.step starts)
    (fun _ event current _ => current.keepsToOwn event) current_empty alone

def plainReader : SerialReader := ⟨fun _ => [], fun _ => 0⟩
def detached : VmConfig := { VmConfig.new [] with detach := true }

/-- A machine `a` is created, which is task 0, and its monitor, which is task 1, has taken the
completion channel. -/
def createA : List Event :=
  [.call (.create ['a'] detached [['n']]), .resume 0 .locked, .resume 0 .locked,
    .resume 0 (.booted .booted), .resume 0 .locked, .resume 0 .locked, .resume 1 .locked]

/-- Task 2 stops it. The agent accepts the shutdown, but the thread goes on. -/
def stopA : List Event :=
  [.call (.stop ['a'] 10), .resume 2 .locked, .resume 2 .locked, .resume 2 .locked,
    .resume 2 (.shutdown .accepted), .resume 2 (.joined .timedOut), .resume 2 .locked]

def startA : List Event :=
  [.call (.start ['a']), .resume 3 .locked, .resume 3 .locked, .resume 3 .locked,
    .resume 3 .locked, .resume 3 .locked, .resume 3 .locked, .resume 3 (.booted .booted),
      .resume 3 .locked, .resume 3 .locked]

def exitA : List Event := [.exits 0, .resume 1 (.waited .completed), .resume 1 .locked]

/-- If the monitor is done before the `start`, it keeps to its boot. -/
theorem monitor_done_before_start :
    Along (System.step plainReader) StartsAlone .empty
    (createA ++ stopA ++ exitA ++ [.resume 1 .locked] ++ startA) ∧
    Along (System.step plainReader) (KeepsToOwn plainReader) .empty
    (createA ++ stopA ++ exitA ++ [.resume 1 .locked] ++ startA) := by
  have alone : Along (System.step plainReader) StartsAlone .empty (createA ++ stopA ++ exitA ++
    [.resume 1 .locked] ++ startA) := by decide +kernel
  exact ⟨alone, monitors_keep_to_own plainReader alone⟩

/-- If it is not, the monitor of boot 0 removes the entry of boot 1. -/
theorem monitor_claims_successor :
    ¬ Along (System.step plainReader) (KeepsToOwn plainReader) .empty
    (createA ++ stopA ++ startA ++ exitA) := by
  intro along
  have last : KeepsToOwn plainReader (run (System.step plainReader) .empty
    (createA ++ stopA ++ startA ++ [.exits 0, .resume 1 (.waited .completed)]))
    (.resume 1 .locked) :=
    ((along_append (System.step plainReader) _ _
      (createA ++ stopA ++ startA ++ [.exits 0, .resume 1 (.waited .completed)])
      [.resume 1 .locked]).mp along).2.1
  have kept := (last 1 .locked (.claim 0 ['a']) 0 rfl (by decide +kernel) rfl).live ['a']
    ⟨4, 1, true, false, 1⟩ (by decide +kernel) (by decide)
  exact absurd kept (by decide +kernel)

end Visor.Backend
