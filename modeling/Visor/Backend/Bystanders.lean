import Visor.Backend.Duties
import Visor.Backend.Ledger

/-! What a task does is about few ids. The others keep their entries and their machines, but for
what the machines do themselves. -/

namespace Visor.Backend
open Library Store Option KeyedMap Backend.Task

/-- The machine stays what it is but for its flags, and what it has printed is fixed once its
thread has ended. -/
structure Machine.Outlives (old new : Machine) : Prop where
  id : new.id = old.id
  forwards : new.forwards = true → old.forwards = true
  ended : old.state ≠ .running → new.state = old.state ∧ new.serial = old.serial

theorem Machine.Outlives.refl (machine : Machine) : machine.Outlives machine :=
  ⟨rfl, fun was => was, fun _ => ⟨rfl, rfl⟩⟩

theorem Machine.Outlives.trans {first second third : Machine} (before : first.Outlives second)
    (after : second.Outlives third) : first.Outlives third where
  id := after.id.trans before.id
  forwards := before.forwards ∘ after.forwards
  ended notRunning := by
    obtain ⟨sameState, sameSerial⟩ := before.ended notRunning
    obtain ⟨thenState, thenSerial⟩ := after.ended (sameState ▸ notRunning)
    exact ⟨thenState.trans sameState, thenSerial.trans sameSerial⟩

structure KeepsMachines (id : VmId) (before after : KeyedMap ThreadId Machine) : Prop where
  kept : ∀ thread old, before.lookup thread = some old → ∃ new, after.lookup thread = some new ∧
    old.Outlives new
  only : ∀ thread new, after.lookup thread = some new → new.id = id →
    ∃ old, before.lookup thread = some old ∧ old.Outlives new

section Turns
variable {reader : SerialReader} {store : Store} {task : Task} {outcome : Outcome} {id : VmId}
  {update : Machine → Machine}

theorem KeepsMachines.refl (machines : KeyedMap ThreadId Machine) : KeepsMachines id machines machines :=
  ⟨fun _ old found => ⟨old, found, .refl old⟩, fun _ new found _ => ⟨new, found, .refl new⟩⟩

theorem KeepsMachines.trans {first second third : KeyedMap ThreadId Machine}
    (before : KeepsMachines id first second) (after : KeepsMachines id second third) :
    KeepsMachines id first third where
  kept thread old found := by
    obtain ⟨middle, there, outlives⟩ := before.kept thread old found
    obtain ⟨new, thereNew, outlivesNew⟩ := after.kept thread middle there
    exact ⟨new, thereNew, outlives.trans outlivesNew⟩
  only thread new found isId := by
    obtain ⟨middle, there, outlives⟩ := after.only thread new found isId
    obtain ⟨old, thereOld, outlivesOld⟩ := before.only thread middle there (outlives.id ▸ isId)
    exact ⟨old, thereOld, outlivesOld.trans outlives⟩

section
variable (store : Store) (thread : ThreadId)

theorem keepsMachines_updateMachine (outlives : ∀ machine : Machine, machine.Outlives (update machine)) :
    KeepsMachines id store.machines (store.updateMachine thread update).machines where
  kept other old found := by
    show ∃ new, (store.machines.modify thread update).lookup other = some new ∧ _
    rw [lookup_modify]
    split
    next same =>
      subst same
      exact ⟨update old, by rw [found]; rfl, outlives old⟩
    · exact ⟨old, found, .refl old⟩
  only other new found _ := by
    have modified : (store.machines.modify thread update).lookup other = some new := found
    rw [lookup_modify] at modified
    split at modified
    next same =>
      subst same
      obtain ⟨old, there, rfl⟩ := map_eq_some_iff.mp modified
      exact ⟨old, there, outlives old⟩
    · exact ⟨new, modified, .refl new⟩

theorem keepsMachines_flags (same : ∀ machine : Machine, (update machine).id = machine.id ∧
      (update machine).forwards = machine.forwards ∧ (update machine).state = machine.state ∧
      (update machine).serial = machine.serial) : KeepsMachines id store.machines
    (store.updateMachine thread update).machines :=
  keepsMachines_updateMachine store thread fun machine =>
    ⟨(same machine).1, fun was => (same machine).2.1 ▸ was, fun _ => (same machine).2.2⟩

theorem keepsMachines_observe : KeepsMachines id store.machines (store.observe thread).machines :=
  keepsMachines_flags store thread fun _ => ⟨rfl, rfl, rfl, rfl⟩

end

theorem keepsMachines_dropForwards (store : Store) (live : VmLiveState) :
    KeepsMachines id store.machines (store.dropForwards live).machines := by
  unfold Store.dropForwards
  split
  · exact keepsMachines_updateMachine store _ fun _ => ⟨rfl, nofun, fun _ => ⟨rfl, rfl⟩⟩
  · exact .refl _

theorem keepsMachines_dropLive (store : Store) (live : Option VmLiveState) :
    KeepsMachines id store.machines (store.dropLive live).machines := by
  cases live with
  | none => exact .refl _
  | some live => exact keepsMachines_dropForwards store live

theorem keepsMachines_spawnMachine {other : VmId} {boot : BootId} {machine : Machine}
    (fresh : store.machines.lookup store.nextThread = none) (isOther : machine.id ≠ id) :
    KeepsMachines id store.machines (Boot.spawnMachine store other boot machine).machines where
  kept thread old found := by
    refine ⟨old, ?_, .refl old⟩
    show (store.machines.insert store.nextThread machine).lookup thread = some old
    rw [lookup_insert_eq]
    split
    next same =>
      rw [same, fresh] at found
      cases found
    · exact found
  only thread new found isId := by
    have inserted : (store.machines.insert store.nextThread machine).lookup thread = some new := found
    rw [lookup_insert_eq] at inserted
    split at inserted
    · cases inserted
      exact absurd isId isOther
    · exact ⟨new, inserted, .refl new⟩

/-- The id that a task may add a machine to in its next turn. -/
def Task.startsMachine : Task → Option VmId
  | .booting _ id _ _ => some id
  | _ => none

theorem Task.mem_about_of_startsMachine (starts : task.startsMachine = some id) : id ∈ task.about := by
  cases task with
  | booting =>
    cases starts
    exact .head _
  | _ => cases starts

theorem Turned.keepsMachines (turned : Turned reader store task outcome)
    (fresh : store.machines.lookup store.nextThread = none) (apart : task.startsMachine ≠ some id) :
    KeepsMachines id store.machines outcome.store.machines := by
  have isOther : ∀ {other}, task.startsMachine = some other → other ≠ id :=
    fun starts same => apart (same ▸ starts)
  cases turned with
  | tornDown | booted => exact keepsMachines_spawnMachine fresh (isOther rfl)
  | cleared key | forgotLive key => exact keepsMachines_dropLive (store.removeLive key).2 _
  | installed origin key boot live =>
    exact keepsMachines_dropLive { store with liveVms := store.liveVms.insert key live } _
  | tookToKill | accepted | acceptedUnwatched | refused | waitTimedOut =>
    exact keepsMachines_flags store _ fun _ => ⟨rfl, rfl, rfl, rfl⟩
  | completed | woke => exact keepsMachines_observe store _
  | joined ending key live | joinedOwn own key live =>
    exact (keepsMachines_observe store live.thread).trans
      (keepsMachines_dropForwards (store.observe live.thread) live)
  | notJoined ending key live | joinFailed own key live => exact keepsMachines_dropForwards store live
  | _ => exact .refl _

end Turns

variable (system : System) (reader : SerialReader)

theorem System.keepsMachines_whileRunning (id : VmId) (thread : ThreadId)
    {update : Machine → Machine} (same : ∀ machine : Machine, (update machine).id = machine.id ∧
      (update machine).forwards = machine.forwards) : KeepsMachines id system.store.machines
    (system.whileRunning thread update).store.machines := by
  refine keepsMachines_updateMachine system.store thread fun machine => ?_
  split
  next running =>
    exact ⟨(same machine).1, fun was => (same machine).2 ▸ was, fun ended => absurd running ended⟩
  · exact .refl machine

def Event.ofMachine : Event → Bool
  | .prints .. | .exits _ | .panics _ => true
  | _ => false

theorem System.step_machine {event : Event} (isMachine : event.ofMachine = true) :
    ∃ store, system.step reader event = { system with store := store } ∧
    system.store.Tends store ∧ store.liveVms = system.store.liveVms ∧
    (∀ id, store.slot id = system.store.slot id) ∧
    ∀ id, KeepsMachines id system.store.machines store.machines := by
  cases event with
  | call | resume => cases isMachine
  | prints thread bytes =>
    exact ⟨_, rfl, system.tends_prints thread bytes, rfl, fun _ => rfl,
      fun id => system.keepsMachines_whileRunning id thread fun _ => ⟨rfl, rfl⟩⟩
  | exits thread | panics thread =>
    exact ⟨_, rfl, system.tends_ends thread nofun, rfl, fun _ => rfl,
      fun id => system.keepsMachines_whileRunning id thread fun _ => ⟨rfl, rfl⟩⟩

/-- Nothing in the backend is about the id. -/
structure Unknown (system : System) (id : VmId) : Prop where
  info : (system.store.slot id).info = none
  live : (system.store.slot id).live = none
  machines : ∀ thread machine, system.store.machines.lookup thread = some machine → machine.id ≠ id
  tasks : ∀ number task, system.tasks.lookup number = some task → id ∉ task.about ∧
    id ∉ task.meets ∧ task.startsOn ≠ some id

theorem Turned.startsOn_next {reader : SerialReader} {store : Store} {task next : Task}
    {outcome : Outcome} {id : VmId} (turned : Turned reader store task outcome)
    (goesOn : outcome.next = some next) (starts : next.startsOn = some id) :
    (store.slot id).info ≠ none := by
  cases next with
  | readExisting key =>
    cases starts
    cases turned with
    | foundStart input key found =>
      cases goesOn
      exact isSome_iff_ne_none.mp (resolveId_found found).1
    | bootFailed | bootLeftDir | tornDown =>
      split at goesOn
      · cases goesOn
      · cases goesOn
    | notFound | endedBefore | markedStopped =>
      obtain ⟨_, _, impossible⟩ := map_eq_some_iff.mp goesOn
      cases impossible
    | tookToKill | acceptedUnwatched | refused | completed | channelDropped | waitTimedOut =>
      have captures := Option.some.inj goesOn
      unfold Stop.afterCapture at captures
      split at captures
      · cases captures
      · cases captures
    | _ => cases goesOn
  | _ => cases starts

theorem Task.of_opens {task : Task} (opens : task.opens = true) :
    task.about = task.records.toList ∧ task.meets = [] ∧ task.startsOn = none := by
  cases task with
  | record | resolveStart | resolveDestroy => exact ⟨rfl, rfl, rfl⟩
  | resolveEnd ending =>
    refine ⟨rfl, ?_, rfl⟩
    show ending.destroys.toList = []
    rw [isNone_iff_eq_none.mp opens]
    rfl
  | _ => cases opens

/-- In every run, nothing is known of an id that was not drawn yet. -/
structure Fresh (system : System) : Prop extends Ledger system where
  unknown : ∀ id, id ∉ system.drawn → Unknown system id

namespace Fresh
variable {system : System} {reader : SerialReader}
section
variable (fresh : Fresh system)
include fresh

theorem call (request : Request) : Fresh (system.call request) := by
  have ledger := fresh.toLedger.call request
  rcases System.call_cases system request with same | ⟨boot, drawn, task, opens, grows, isNew, spawned⟩
  · rw [same]
    exact fresh
  · rw [spawned] at ledger ⊢
    refine ⟨ledger, fun id notDrawn => ?_⟩
    have unknown := fresh.unknown id fun isDrawn => notDrawn (grows isDrawn)
    refine ⟨unknown.info, unknown.live, unknown.machines, fun number other found => ?_⟩
    rcases System.lookup_spawn found with ⟨_, rfl⟩ | there
    · obtain ⟨about, meets, starts⟩ := of_opens opens
      rw [about, meets, starts]
      refine ⟨fun member => ?_, List.not_mem_nil, nofun⟩
      exact notDrawn (isNew id (mem_toList.mp member)).2
    · exact unknown.tasks number other there

theorem settle {number : Nat} {task : Task} {outcome : Outcome}
    (found : system.tasks.lookup number = some task)
    (turned : Turned reader system.store task outcome) : Fresh (system.settle number outcome) := by
  refine ⟨fresh.toLedger.settle found turned, fun id notDrawn => ?_⟩
  have isDrawn : id ∉ system.drawn := by
    unfold System.settle at notDrawn
    split at notDrawn
    · exact notDrawn
    · exact notDrawn
  have unknown := fresh.unknown id isDrawn
  obtain ⟨notAbout, notMeets, notStarts⟩ := unknown.tasks number task found
  have slot : outcome.store.slot id = system.store.slot id :=
    turned.leaves fun touches => notAbout (mem_about_of_touches touches)
  have machines : KeepsMachines id system.store.machines outcome.store.machines :=
    turned.keepsMachines fresh.nextThread_free fun starts => notAbout (mem_about_of_startsMachine starts)
  have next : ∀ next, outcome.next = some next → id ∉ next.about ∧ id ∉ next.meets ∧
    next.startsOn ≠ some id := by
    intro next goesOn
    have continues := turned.continues next goesOn
    refine ⟨fun about => ?_, fun meets => ?_, fun starts => ?_⟩
    · rcases continues.about id about with same | same | ⟨same, _⟩
      · exact notAbout same
      · exact notMeets same
      · exact notStarts same
    · exact (continues.meets id meets).elim notMeets fun there => there unknown.info
    · exact turned.startsOn_next goesOn starts unknown.info
  constructor
  · rw [System.settle_store, slot]
    exact unknown.info
  · rw [System.settle_store, slot]
    exact unknown.live
  · intro thread machine there isId
    rw [System.settle_store] at there
    obtain ⟨old, before, outlives⟩ := machines.only thread machine there isId
    exact unknown.machines thread old before (outlives.id ▸ isId)
  · intro other rest there
    have replaced : ∀ other rest, (system.replace number outcome).tasks.lookup other = some rest →
      id ∉ rest.about ∧ id ∉ rest.meets ∧ rest.startsOn ≠ some id := by
      intro other rest there
      rcases System.lookup_replace there with ⟨_, before⟩ | ⟨_, goesOn⟩
      · exact unknown.tasks other rest before
      · exact next rest goesOn
    unfold System.settle at there
    split at there
    next monitor isSpawned =>
      rcases System.lookup_spawn there with ⟨_, rfl⟩ | before
      · obtain ⟨origin, key, boot, rfl, rfl, _⟩ := turned.spawns rest isSpawned
        exact ⟨notAbout, List.not_mem_nil, nofun⟩
      · exact replaced other rest before
    · exact replaced other rest there

theorem machine {store : Store} (tends : system.store.Tends store)
    (entries : store.liveVms = system.store.liveVms) (slots : ∀ id, store.slot id = system.store.slot id)
    (machines : ∀ id, KeepsMachines id system.store.machines store.machines) :
    Fresh { system with store := store } where
  toLedger := fresh.toLedger.store_tends tends entries
  unknown id notDrawn := by
    have unknown := fresh.unknown id notDrawn
    refine ⟨(slots id).symm ▸ unknown.info, (slots id).symm ▸ unknown.live,
      fun thread machine there isId => ?_, unknown.tasks⟩
    obtain ⟨old, before, outlives⟩ := (machines id).only thread machine there isId
    exact unknown.machines thread old before (outlives.id ▸ isId)

theorem step (event : Event) : Fresh (system.step reader event) := by
  have ofMachine : event.ofMachine = true → Fresh (system.step reader event) := by
    intro isMachine
    obtain ⟨store, result, tends, entries, slots, machines⟩ := system.step_machine reader isMachine
    rw [result]
    exact fresh.machine tends entries slots machines
  cases event with
  | call request => exact fresh.call request
  | resume number answer =>
    rcases System.resume_cases reader system number answer with same |
      ⟨task, outcome, found, ran, _, result⟩
    · show Fresh (system.resume reader number answer)
      rw [same]
      exact fresh
    · show Fresh (system.resume reader number answer)
      rw [result]
      exact fresh.settle found (turned ran)
  | prints | exits | panics => exact ofMachine rfl

end
end Fresh

private theorem fresh_empty : Fresh .empty where
  toLedger := ledger_empty
  unknown _ _ := ⟨rfl, rfl, fun _ _ found => (nomatch found), fun _ _ found => (nomatch found)⟩

theorem fresh_run (events : List Event) : Fresh (run (System.step reader) .empty events) :=
  stable_run Fresh events (fun _ event fresh => fresh.step event) fresh_empty

theorem known_ids_drawn (events : List Event) (id : VmId) :
    let system := run (System.step reader) .empty events
    id ∈ system.drawn ∨ Unknown system id :=
  or_iff_not_imp_left.mpr ((fresh_run reader events).unknown id)

end Visor.Backend
