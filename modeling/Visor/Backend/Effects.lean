import Visor.Backend.Turns

/-! Most pieces of the calls only take things away or update them in place. The four that add
something add it under the id that is booted. -/

namespace Visor.Backend
open Library KeyedMap Store

structure Slot where
  info : Option VmInfo
  live : Option VmLiveState
  dir : Option BootId

def Store.slot (store : Store) (id : VmId) : Slot :=
  ⟨store.vms.lookup id, store.liveVms.lookup id, store.tempDirs.lookup id⟩

/-- Nothing is added: what is still there was there before, for the same boot. -/
structure Slot.Shrinks (before after : Slot) : Prop where
  info : ∀ new, after.info = some new → ∃ old, before.info = some old ∧ new.boot = old.boot
  live : ∀ new, after.live = some new → ∃ old, before.live = some old ∧ new.boot = old.boot ∧
    new.thread = old.thread
  dir : ∀ boot, after.dir = some boot → before.dir = some boot

theorem Slot.Shrinks.refl (slot : Slot) : slot.Shrinks slot :=
  ⟨fun new there => ⟨new, there, rfl⟩, fun new there => ⟨new, there, rfl, rfl⟩, fun _ => id⟩

theorem Slot.Shrinks.trans {first second third : Slot} (before : first.Shrinks second)
    (after : second.Shrinks third) : first.Shrinks third where
  info new there := by
    obtain ⟨middle, found, sameBoot⟩ := after.info new there
    obtain ⟨old, foundOld, sameOld⟩ := before.info middle found
    exact ⟨old, foundOld, sameBoot.trans sameOld⟩
  live new there := by
    obtain ⟨middle, found, sameBoot, sameThread⟩ := after.live new there
    obtain ⟨old, foundOld, sameOld, sameOldThread⟩ := before.live middle found
    exact ⟨old, foundOld, sameBoot.trans sameOld, sameThread.trans sameOldThread⟩
  dir boot there := before.dir boot (after.dir boot there)

/-- A machine belongs to its boot for good, and what has been asked of it is not taken back. -/
structure Machine.Ages (before after : Machine) : Prop where
  id : after.id = before.id
  boot : after.boot = before.boot
  killFlag : before.killFlag = true → after.killFlag = true
  asked : before.asked = true → after.asked = true
  observed : before.observed = true → after.observed = true
  state : after.state = .running → before.state = .running

theorem Machine.Ages.refl (machine : Machine) : Machine.Ages machine machine :=
  ⟨rfl, rfl, fun was => was, fun was => was, fun was => was, fun was => was⟩

theorem Machine.Ages.trans {first second third : Machine} (before : first.Ages second)
    (after : second.Ages third) : first.Ages third where
  id := after.id.trans before.id
  boot := after.boot.trans before.boot
  killFlag := after.killFlag ∘ before.killFlag
  asked := after.asked ∘ before.asked
  observed := after.observed ∘ before.observed
  state := before.state ∘ after.state

namespace Store
variable {before after store : Store}

def MachinesAge (before after : Store) : Prop :=
  ∀ thread old, before.machines.lookup thread = some old →
    ∃ new, after.machines.lookup thread = some new ∧ old.Ages new

theorem MachinesAge.refl (store : Store) : store.MachinesAge store :=
  fun _ old found => ⟨old, found, .refl old⟩

theorem MachinesAge.trans {first second third : Store} (before : first.MachinesAge second)
    (after : second.MachinesAge third) : first.MachinesAge third := by
  intro thread old found
  obtain ⟨middle, foundMiddle, aged⟩ := before thread old found
  obtain ⟨new, foundNew, agedMore⟩ := after thread middle foundMiddle
  exact ⟨new, foundNew, aged.trans agedMore⟩

structure Tends (before after : Store) : Prop where
  slots : ∀ id, (before.slot id).Shrinks (after.slot id)
  machines : before.MachinesAge after
  noMachine : ∀ thread, before.machines.lookup thread = none → after.machines.lookup thread = none
  nextThread : after.nextThread = before.nextThread

theorem Tends.refl (store : Store) : store.Tends store :=
  ⟨fun _ => .refl _, .refl _, fun _ missing => missing, rfl⟩

theorem Tends.trans {first second third : Store} (before : first.Tends second)
    (after : second.Tends third) : first.Tends third where
  slots id := (before.slots id).trans (after.slots id)
  machines := before.machines.trans after.machines
  noMachine thread missing := after.noMachine thread (before.noMachine thread missing)
  nextThread := after.nextThread.trans before.nextThread

theorem tends_of_slots (slots : ∀ id, (before.slot id).Shrinks (after.slot id))
    (machines : after.machines = before.machines)
    (nextThread : after.nextThread = before.nextThread) : before.Tends after where
  slots := slots
  machines thread old found := ⟨old, by rw [machines, found], .refl old⟩
  noMachine thread missing := by rw [machines, missing]
  nextThread := nextThread

section
variable (store : Store) (id : VmId) (live : VmLiveState)

theorem tends_updateInfo {update : VmInfo → VmInfo}
    (sameBoot : ∀ info, (update info).boot = info.boot) : store.Tends (store.updateInfo id update) := by
  refine tends_of_slots (fun other => ?_) rfl rfl
  refine ⟨fun new there => ?_, fun new there => ⟨new, there, rfl, rfl⟩, fun _ there => there⟩
  have found : (store.vms.modify id update).lookup other = some new := there
  rw [lookup_modify] at found
  split at found
  next same =>
    obtain ⟨old, foundOld, rfl⟩ := Option.map_eq_some_iff.mp found
    exact ⟨old, same ▸ foundOld, sameBoot old⟩
  · exact ⟨new, found, rfl⟩

theorem tends_removeLive : store.Tends (store.removeLive id).2 := by
  refine tends_of_slots (fun other => ?_) rfl rfl
  refine ⟨fun new there => ⟨new, there, rfl⟩, fun new there => ?_, fun _ there => there⟩
  have found : (store.liveVms.erase id).lookup other = some new := there
  rw [lookup_erase_eq] at found
  split at found
  · cases found
  · exact ⟨new, found, rfl, rfl⟩

theorem tends_removeTempDir : store.Tends (store.removeTempDir id) := by
  refine tends_of_slots (fun other => ?_) rfl rfl
  refine ⟨fun new there => ⟨new, there, rfl⟩, fun new there => ⟨new, there, rfl, rfl⟩, fun boot there => ?_⟩
  have found : (store.tempDirs.erase id).lookup other = some boot := there
  rw [lookup_erase_eq] at found
  split at found
  · cases found
  · exact found

variable (thread : ThreadId)

theorem tends_updateMachine {update : Machine → Machine}
    (ages : ∀ machine : Machine, machine.Ages (update machine)) :
    store.Tends (store.updateMachine thread update) where
  slots _ := .refl _
  machines other old found := by
    show ∃ new, (store.machines.modify thread update).lookup other = some new ∧ _
    rw [lookup_modify]
    split
    next same =>
      subst same
      exact ⟨update old, by rw [found]; rfl, ages old⟩
    · exact ⟨old, found, .refl old⟩
  noMachine other missing := by
    show (store.machines.modify thread update).lookup other = none
    rw [lookup_modify]
    split
    next same =>
      subst same
      rw [missing]
      rfl
    · exact missing
  nextThread := rfl

theorem tends_kill : store.Tends (store.kill thread) :=
  tends_updateMachine store thread fun _ =>
    ⟨rfl, rfl, fun _ => rfl, fun was => was, fun was => was, fun was => was⟩

theorem tends_observe : store.Tends (store.observe thread) :=
  tends_updateMachine store thread fun _ =>
    ⟨rfl, rfl, fun was => was, fun was => was, fun _ => rfl, fun was => was⟩

theorem tends_dropForwards : store.Tends (store.dropForwards live) := by
  unfold dropForwards
  split
  · exact tends_updateMachine store _ fun _ =>
      ⟨rfl, rfl, fun was => was, fun was => was, fun was => was, fun was => was⟩
  · exact .refl store

theorem tends_dropLive (live : Option VmLiveState) : store.Tends (store.dropLive live) := by
  cases live with
  | none => exact .refl store
  | some live => exact tends_dropForwards store live

theorem tends_ask : store.Tends (store.updateMachine thread ({ · with asked := true })) :=
  tends_updateMachine store thread fun _ =>
    ⟨rfl, rfl, fun was => was, fun _ => rfl, fun was => was, fun was => was⟩

theorem tends_letGo : store.Tends ((store.dropForwards live).removeTempDir id) :=
  (tends_dropForwards store live).trans (tends_removeTempDir _ id)

theorem tends_forgetInfo : store.Tends { store with vms := store.vms.erase id } := by
  refine tends_of_slots
    (fun other =>
    ⟨fun new there => ?_, fun new there => ⟨new, there, rfl, rfl⟩, fun _ there => there⟩) rfl rfl
  have found : (store.vms.erase id).lookup other = some new := there
  rw [lookup_erase_eq] at found
  split at found
  · cases found
  · exact ⟨new, found, rfl⟩

theorem tends_takeReceiver {id : VmId} {live : VmLiveState}
    (found : store.liveVms.lookup id = some live) : store.Tends
    { store with liveVms := store.liveVms.insert id { live with completionRx := false } } := by
  refine tends_of_slots
    (fun other => ⟨fun new there => ⟨new, there, rfl⟩, fun new there => ?_, fun _ there => there⟩) rfl rfl
  have inserted : (store.liveVms.insert id { live with completionRx := false }).lookup other =
    some new := there
  rw [lookup_insert_eq] at inserted
  split at inserted
  next same =>
    cases inserted
    exact ⟨live, same ▸ found, rfl, rfl⟩
  · exact ⟨new, inserted, rfl, rfl⟩

end
end Store

def Task.adds : Task → Bool
  | .record .. | .resetInfo .. | .booting .. | .install .. => true
  | _ => false

theorem Turned.tends {reader : SerialReader} {store : Store} {task : Task} {outcome : Outcome}
    (turned : Turned reader store task outcome) (nothing : task.adds = false) :
    store.Tends outcome.store := by
  have same : store.Tends store := .refl store
  cases turned with
  | recorded | wasReset | bootFailed | bootLeftDir | tornDown | booted | installed => cases nothing
  | returned | lost | foundStart | decided | foundDestroy | notFound | foundEnd | endedBefore | checked
  | channelDropped | unwatched | wokeWithout => exact same
  | configured | configKept | forgotConfig => exact tends_of_slots (fun _ => .refl _) rfl rfl
  | cleared id | forgotLive id => exact (tends_removeLive store id).trans (tends_dropLive _ _)
  | announced origin id boot update running sameBoot
  | captured ending id live bytes update sameBoot => exact tends_updateInfo store id sameBoot
  | concluded own id | markedFailed id | markedStopped ending id =>
    exact tends_updateInfo store id fun _ => rfl
  | ensured own id =>
    refine tends_updateInfo store id fun vm => ?_
    split
    · rfl
    · rfl
  | tookNothing ending id | tookToAsk ending id | claimed own id | claimedNothing own id =>
    exact tends_removeLive store id
  | tookToKill ending id => exact (tends_removeLive store id).trans (tends_kill _ _)
  | accepted | acceptedUnwatched => exact tends_ask store _
  | refused | waitTimedOut => exact tends_kill store _
  | completed | woke => exact tends_observe store _
  | joined ending id live | joinedOwn own id live =>
    exact (tends_observe store _).trans (tends_letGo _ id live)
  | notJoined ending id live | joinFailed own id live => exact tends_letGo store id live
  | forgotInfo id => exact tends_forgetInfo store id
  | watched own id live found => exact tends_takeReceiver store found

variable (system : System) (thread : ThreadId)

theorem System.tends_prints (bytes : List U8) :
    system.store.Tends (system.whileRunning thread fun machine =>
    { machine with serial := machine.serial ++ bytes }).store := by
  refine tends_updateMachine system.store thread fun machine => ?_
  split
  · exact ⟨rfl, rfl, fun was => was, fun was => was, fun was => was, fun was => was⟩
  · exact .refl machine

theorem System.tends_ends {state : ThreadState} (ended : state ≠ .running) :
    system.store.Tends (system.whileRunning thread ({ · with state := state })).store := by
  refine tends_updateMachine system.store thread fun machine => ?_
  split
  · exact ⟨rfl, rfl, fun was => was, fun was => was, fun was => was, fun runs => absurd runs ended⟩
  · exact .refl machine

section
variable (store : Store) (id other : VmId) (boot : BootId)

theorem slot_insert_info (info : VmInfo) : slot { store with vms := store.vms.insert id info } other =
    if other = id then { store.slot id with info := some info } else store.slot other := by
  unfold slot
  rw [lookup_insert_eq]
  split
  next same =>
    rw [same]
  · rfl

theorem slot_insert_live (live : VmLiveState) :
    slot { store with liveVms := store.liveVms.insert id live } other =
    if other = id then { store.slot id with live := some live } else store.slot other := by
  unfold slot
  rw [lookup_insert_eq]
  split
  next same =>
    rw [same]
  · rfl

theorem slot_insert_dir : slot { store with tempDirs := store.tempDirs.insert id boot } other =
    if other = id then { store.slot id with dir := some boot } else store.slot other := by
  unfold slot
  rw [lookup_insert_eq]
  split
  next same =>
    rw [same]
  · rfl

theorem slot_spawnMachine (machine : Machine) : (Boot.spawnMachine store id boot machine).slot other =
    if other = id then { store.slot id with dir := some boot } else store.slot other :=
  slot_insert_dir store id other boot

@[simp] theorem slot_dropLive (live : Option VmLiveState) (id : VmId) :
    (store.dropLive live).slot id = store.slot id := by
  cases live with
  | none => rfl
  | some live =>
    show (store.dropForwards live).slot id = store.slot id
    unfold dropForwards
    split
    · rfl
    · rfl

theorem slot_updateInfo (update : VmInfo → VmInfo) : (store.updateInfo id update).slot other =
    if other = id then { store.slot id with info := (store.slot id).info.map update }
    else store.slot other := by
  unfold updateInfo slot
  rw [lookup_modify]
  split
  next same =>
    rw [same]
  · rfl

theorem slot_removeLive :
    (store.removeLive id).2.slot other = if other = id then { store.slot id with live := none } else
    store.slot other := by
  unfold removeLive slot
  rw [lookup_erase_eq]
  split
  next same =>
    rw [same]
  · rfl

theorem slot_removeTempDir : (store.removeTempDir id).slot other =
    if other = id then { store.slot id with dir := none } else store.slot other := by
  unfold removeTempDir slot
  rw [lookup_erase_eq]
  split
  next same =>
    rw [same]
  · rfl

end
end Visor.Backend
