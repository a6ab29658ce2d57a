import Visor.Backend.Effects

/-! The handle of a thread is moved from the call that booted it to the entry of its id, and from
there to the call or the monitor that takes the entry. Whatever the interleaving, no two of them
hold the same thread. -/

namespace Visor.Backend
open Library Store Backend.System Option KeyedMap

def Task.carries : Task → Option ThreadId
  | .install _ _ _ live | .asking _ _ live | .waiting _ _ live | .capturing _ _ live _
  | .joining _ _ live | .conclude _ _ live _ | .joiningOwn _ _ live => some live.thread
  | _ => none

theorem Task.carries_of_opens {task : Task} (opens : task.opens = true) : task.carries = none := by
  cases task with
  | record | resolveStart | resolveDestroy | resolveEnd => rfl
  | _ => cases opens

/-- What a turn does with handles. -/
structure Moves (store : Store) (task : Task) (outcome : Outcome) : Prop where
  next : ∀ thread, outcome.next.bind Task.carries = some thread → task.carries = some thread ∨
    (∃ id live, store.liveVms.lookup id = some live ∧ live.thread = thread ∧
      outcome.store.liveVms.lookup id = none) ∨
    thread = store.nextThread ∧ (outcome.store.machines.lookup thread).isSome = true
  entries : ∀ id new, outcome.store.liveVms.lookup id = some new →
    (∃ old, store.liveVms.lookup id = some old ∧ old.thread = new.thread) ∨
    ∃ origin boot, task = .install origin id boot new ∧ outcome.next.bind Task.carries = none
  machines : ∀ thread, (store.machines.lookup thread).isSome = true →
    (outcome.store.machines.lookup thread).isSome = true
  numbered : ∀ thread, (outcome.store.machines.lookup thread).isSome = true →
    (store.machines.lookup thread).isSome = true ∨ thread < outcome.store.nextThread
  nextThread : store.nextThread ≤ outcome.store.nextThread

section Turns
variable {reader : SerialReader} {store : Store} {task : Task} {outcome : Outcome}

theorem carries_afterCapture (ending : Ending) (id : VmId) (live : VmLiveState)
    (bytes : List U8) : (Stop.afterCapture ending id live bytes).carries = some live.thread := by
  unfold Stop.afterCapture
  split
  · rfl
  · rfl

abbrev MayCarry (store : Store) (task : Task) (outcome : Outcome) : Prop :=
  ∀ thread, outcome.next.bind Task.carries = some thread →
    task.carries = some thread ∨
    (∃ id live, store.liveVms.lookup id = some live ∧ live.thread = thread ∧
      outcome.store.liveVms.lookup id = none) ∨
    thread = store.nextThread ∧ (outcome.store.machines.lookup thread).isSome = true

theorem isSome_machine_iff {before after : Store} (tends : before.Tends after) (thread : ThreadId) :
    (after.machines.lookup thread).isSome = true ↔ (before.machines.lookup thread).isSome = true := by
  constructor
  · intro there
    refine isSome_iff_ne_none.mpr fun missing => ?_
    exact isSome_iff_ne_none.mp there (tends.noMachine thread missing)
  · intro there
    obtain ⟨machine, found⟩ := isSome_iff_exists.mp there
    obtain ⟨new, foundNew, _⟩ := tends.machines thread machine found
    exact isSome_iff_exists.mpr ⟨new, foundNew⟩

theorem moves_of_tends (tends : store.Tends outcome.store) (next : MayCarry store task outcome) :
    Moves store task outcome where
  next := next
  entries id new found := by
    obtain ⟨old, there, _, onThread⟩ := (tends.slots id).live new found
    exact .inl ⟨old, there, onThread.symm⟩
  machines thread := (isSome_machine_iff tends thread).mpr
  numbered thread there := .inl ((isSome_machine_iff tends thread).mp there)
  nextThread := Nat.le_of_eq tends.nextThread.symm

theorem moves_of_eq (entries : outcome.store.liveVms = store.liveVms)
    (machines : outcome.store.machines = store.machines)
    (nextThread : outcome.store.nextThread = store.nextThread)
    (next : outcome.next.bind Task.carries = none) : Moves store task outcome where
  next thread goesOn := by
    rw [next] at goesOn
    cases goesOn
  entries id new found := .inl ⟨new, entries ▸ found, rfl⟩
  machines thread there := machines.symm ▸ there
  numbered thread there := .inl (machines ▸ there)
  nextThread := Nat.le_of_eq nextThread.symm

theorem moves_spawnMachine {id : VmId} {boot : BootId} {machine : Machine} {next : Option Task}
    (carried : ∀ thread, next.bind Task.carries = some thread → thread = store.nextThread) :
    Moves store task ⟨Boot.spawnMachine store id boot machine, next, none⟩ where
  next thread goesOn := by
    refine .inr (.inr ⟨carried thread goesOn, ?_⟩)
    show ((store.machines.insert store.nextThread machine).lookup thread).isSome = true
    rw [lookup_insert_eq, if_pos (carried thread goesOn)]
    rfl
  entries _ new found := .inl ⟨new, found, rfl⟩
  machines thread there := by
    show ((store.machines.insert store.nextThread machine).lookup thread).isSome = true
    rw [lookup_insert_eq]
    split
    · rfl
    · exact there
  numbered thread there := by
    have inserted : ((store.machines.insert store.nextThread machine).lookup thread).isSome = true := there
    rw [lookup_insert_eq] at inserted
    split at inserted
    next same =>
      exact .inr (same ▸ Nat.lt_succ_self _)
    · exact .inl inserted
  nextThread := Nat.le_succ _

theorem carries_fail (origin : Origin) (id : VmId) (boot : BootId) :
    (if origin = .createFromSnapshot then none else some (Task.markFailed id boot)).bind
    Task.carries = none := by
  split
  · rfl
  · rfl

theorem carries_finish (ending : Ending) :
    (ending.destroys.map Task.forgetInfo).bind Task.carries = none := by
  cases ending.destroys with
  | none | some => rfl

theorem mayCarry_none (nothing : outcome.next.bind Task.carries = none) : MayCarry store task outcome := by
  intro thread goesOn
  rw [nothing] at goesOn
  cases goesOn

theorem mayCarry_same (same : outcome.next.bind Task.carries = task.carries) :
    MayCarry store task outcome := fun _ goesOn => .inl (same ▸ goesOn)

private theorem mayCarry_taken {id : VmId} {live : VmLiveState}
    (found : store.liveVms.lookup id = some live) (gone : outcome.store.liveVms.lookup id = none)
    (taken : outcome.next.bind Task.carries = some live.thread) : MayCarry store task outcome := by
  intro thread goesOn
  rw [taken] at goesOn
  cases goesOn
  exact .inr (.inl ⟨id, live, found, rfl, gone⟩)

theorem Turned.moves (turned : Turned reader store task outcome) : Moves store task outcome := by
  have tends := turned.tends
  have erased : ∀ id, (store.removeLive id).2.liveVms.lookup id = none := fun _ => AList.lookup_erase _ _
  cases turned with
  | returned | recorded | wasReset | lost | unwatched => exact moves_of_eq rfl rfl rfl rfl
  | bootFailed | bootLeftDir => exact moves_of_eq rfl rfl rfl (carries_fail ..)
  | tornDown =>
    refine moves_spawnMachine fun thread goesOn => ?_
    rw [carries_fail] at goesOn
    cases goesOn
  | booted =>
    refine moves_spawnMachine ?_
    rintro _ ⟨⟩
    rfl
  | installed origin id boot live =>
    have dropped := tends_dropLive ({ store with liveVms := store.liveVms.insert id live } : Store)
      (store.liveVms.lookup id)
    refine ⟨fun thread goesOn => (nomatch goesOn), fun other new found => ?_, fun thread =>
      (isSome_machine_iff dropped thread).mpr,
      fun thread there => .inl ((isSome_machine_iff dropped thread).mp there),
        Nat.le_of_eq dropped.nextThread.symm⟩
    have inserted : (Store.slot _ other).live = some new := found
    rw [slot_dropLive, slot_insert_live] at inserted
    split at inserted
    next same =>
      subst same
      cases inserted
      exact .inr ⟨origin, boot, rfl, rfl⟩
    · exact .inl ⟨new, inserted, rfl⟩
  | notFound | endedBefore | markedStopped =>
    exact moves_of_tends (tends rfl) (mayCarry_none (carries_finish _))
  | tookToKill ending id live bytes found =>
    exact moves_of_tends (tends rfl) (mayCarry_taken found (erased id) (carries_afterCapture ..))
  | tookToAsk ending id live found | claimed own id live found =>
    exact moves_of_tends (tends rfl) (mayCarry_taken found (erased id) rfl)
  | acceptedUnwatched | refused | completed | channelDropped | waitTimedOut =>
    exact moves_of_tends (tends rfl) (mayCarry_same (carries_afterCapture ..))
  | accepted | captured | concluded => exact moves_of_tends (tends rfl) (mayCarry_same rfl)
  | _ => exact moves_of_tends (tends rfl) (mayCarry_none rfl)

end Turns

/-- Handles are held once, and only of threads that were started. -/
structure Ledger (system : System) : Prop where
  tasks : ∀ number task, system.tasks.lookup number = some task → number < system.nextTask
  numbered : ∀ thread, (system.store.machines.lookup thread).isSome = true →
    thread < system.store.nextThread
  entries : ∀ id live, system.store.liveVms.lookup id = some live →
    (system.store.machines.lookup live.thread).isSome = true
  carried : ∀ number task thread, system.tasks.lookup number = some task →
    task.carries = some thread → (system.store.machines.lookup thread).isSome = true
  sole : ∀ first second live other, system.store.liveVms.lookup first = some live →
    system.store.liveVms.lookup second = some other → live.thread = other.thread → first = second
  apart : ∀ id live number task, system.store.liveVms.lookup id = some live →
    system.tasks.lookup number = some task → task.carries ≠ some live.thread
  once : ∀ first second task other thread, system.tasks.lookup first = some task →
    system.tasks.lookup second = some other → task.carries = some thread →
      other.carries = some thread → first = second

theorem ledger_empty : Ledger .empty where
  tasks _ _ found := nomatch found
  numbered _ there := nomatch there
  entries _ _ found := nomatch found
  carried _ _ _ found := nomatch found
  sole _ _ _ _ found := nomatch found
  apart _ _ _ _ found := nomatch found
  once _ _ _ _ _ found := nomatch found

namespace Ledger
variable {system : System} {reader : SerialReader}
section
variable (ledger : Ledger system)
include ledger

theorem nextThread_free : system.store.machines.lookup system.store.nextThread = none := by
  by_contra there
  exact Nat.lt_irrefl _ (ledger.numbered _ (isSome_iff_ne_none.mpr there))

theorem spawn {task : Task} (nothing : task.carries = none) : Ledger (system.spawn task) where
  tasks number other found := by
    rcases lookup_spawn found with ⟨rfl, _⟩ | there
    · exact Nat.lt_succ_self _
    · exact Nat.lt_succ_of_lt (ledger.tasks number other there)
  numbered := ledger.numbered
  entries := ledger.entries
  carried number other thread found carries := by
    rcases lookup_spawn found with ⟨_, rfl⟩ | there
    · rw [nothing] at carries
      cases carries
    · exact ledger.carried number other thread there carries
  sole := ledger.sole
  apart id live number other isLive found carries := by
    rcases lookup_spawn found with ⟨_, rfl⟩ | there
    · rw [nothing] at carries
      cases carries
    · exact ledger.apart id live number other isLive there carries
  once first second rest other thread found foundOther carries carriesToo := by
    rcases lookup_spawn found with ⟨_, rfl⟩ | there
    · rw [nothing] at carries
      cases carries
    · rcases lookup_spawn foundOther with ⟨_, rfl⟩ | thereOther
      · rw [nothing] at carriesToo
        cases carriesToo
      · exact ledger.once first second rest other thread there thereOther carries carriesToo

theorem call (request : Request) : Ledger (system.call request) := by
  rcases call_cases system request with same | ⟨boot, drawn, task, opens, _, _, spawned⟩
  · rw [same]
    exact ledger
  · rw [spawned]
    have drawing : Ledger { system with
      store := { system.store with nextBoot := boot }
      drawn := drawn } := { ledger with }
    exact drawing.spawn (Task.carries_of_opens opens)

theorem store_tends {store : Store} (tends : system.store.Tends store)
    (same : store.liveVms = system.store.liveVms) : Ledger { system with store := store } where
  tasks := ledger.tasks
  numbered thread there := by
    rw [tends.nextThread]
    exact ledger.numbered thread ((isSome_machine_iff tends thread).mp there)
  entries id live found := (isSome_machine_iff tends _).mpr (ledger.entries id live (same ▸ found))
  carried number task thread found carries :=
    (isSome_machine_iff tends _).mpr (ledger.carried number task thread found carries)
  sole first second live other found foundOther :=
    ledger.sole first second live other (same ▸ found) (same ▸ foundOther)
  apart id live number task found := ledger.apart id live number task (same ▸ found)
  once := ledger.once

section
variable {number : Nat} {task : Task} {outcome : Outcome} (found : system.tasks.lookup number = some task)
include found

theorem replace (moves : Moves system.store task outcome) : Ledger (system.replace number outcome) := by
  have fresh : ∀ {thread}, (system.store.machines.lookup thread).isSome = true →
    thread ≠ system.store.nextThread := fun there => Nat.ne_of_lt (ledger.numbered _ there)
  -- What the next task carries was neither in an entry that is left nor with another task.
  have nextApart : ∀ id live next, outcome.store.liveVms.lookup id = some live →
    outcome.next = some next → next.carries ≠ some live.thread := by
    intro id live next isLive isNext carries
    have goesOn : outcome.next.bind Task.carries = some live.thread := by
      rw [isNext]
      exact carries
    rcases moves.entries id live isLive with ⟨old, isOld, onThread⟩ | ⟨_, _, _, nothing⟩
    · rcases moves.next live.thread goesOn with same | ⟨other, entry, isEntry, sameThread, gone⟩ | new
      · exact ledger.apart id old number task isOld found (onThread ▸ same)
      · have isId := ledger.sole other id entry old isEntry isOld (sameThread.trans onThread.symm)
        rw [isId, isLive] at gone
        cases gone
      · exact fresh (onThread ▸ ledger.entries id old isOld) new.1
    · rw [nothing] at goesOn
      cases goesOn
  have nextOnce : ∀ other rest next thread, other ≠ number →
    system.tasks.lookup other = some rest → rest.carries = some thread →
    outcome.next = some next → next.carries ≠ some thread := by
    intro other rest next thread isOther there carriesToo isNext carries
    have goesOn : outcome.next.bind Task.carries = some thread := by
      rw [isNext]
      exact carries
    rcases moves.next thread goesOn with same | ⟨id, entry, isEntry, sameThread, _⟩ | new
    · exact isOther (ledger.once other number rest task thread there found carriesToo same)
    · exact ledger.apart id entry other rest isEntry there (sameThread.symm ▸ carriesToo)
    · exact fresh (ledger.carried other rest thread there carriesToo) new.1
  constructor
  · intro other rest there
    rcases lookup_replace there with ⟨_, before⟩ | ⟨rfl, _⟩
    · exact ledger.tasks other rest before
    · exact ledger.tasks other task found
  · intro thread there
    rcases moves.numbered thread there with before | within
    · exact Nat.lt_of_lt_of_le (ledger.numbered thread before) moves.nextThread
    · exact within
  · intro id live isLive
    rcases moves.entries id live isLive with ⟨old, isOld, onThread⟩ | ⟨origin, boot, rfl, _⟩
    · exact moves.machines _ (onThread ▸ ledger.entries id old isOld)
    · exact moves.machines _ (ledger.carried number _ _ found rfl)
  · intro other rest thread there carries
    rcases lookup_replace there with ⟨_, before⟩ | ⟨_, isNext⟩
    · exact moves.machines _ (ledger.carried other rest thread before carries)
    · have goesOn : outcome.next.bind Task.carries = some thread := by
        rw [isNext]
        exact carries
      rcases moves.next thread goesOn with same | ⟨id, entry, isEntry, sameThread, _⟩ | new
      · exact moves.machines _ (ledger.carried number task thread found same)
      · exact moves.machines _ (sameThread ▸ ledger.entries id entry isEntry)
      · exact new.2
  · intro first second live other isLive isOther sameThread
    rcases moves.entries first live isLive with ⟨old, isOld, onThread⟩ | ⟨origin, boot, rfl, _⟩
    · rcases moves.entries second other isOther with ⟨rest, isRest, onOther⟩ | ⟨_, _, rfl, _⟩
      · exact ledger.sole first second old rest isOld isRest
          (onThread.trans (sameThread.trans onOther.symm))
      · refine absurd ?_ (ledger.apart first old number _ isOld found)
        exact congrArg some (onThread.trans sameThread).symm
    · rcases moves.entries second other isOther with ⟨rest, isRest, onOther⟩ | ⟨_, _, same, _⟩
      · refine absurd ?_ (ledger.apart second rest number _ isRest found)
        exact congrArg some (sameThread.trans onOther.symm)
      · cases same
        rfl
  · intro id live other rest isLive there carries
    rcases lookup_replace there with ⟨isOther, before⟩ | ⟨_, isNext⟩
    · rcases moves.entries id live isLive with ⟨old, isOld, onThread⟩ | ⟨origin, boot, rfl, _⟩
      · exact ledger.apart id old other rest isOld before (onThread.symm ▸ carries)
      · exact isOther (ledger.once other number rest _ _ before found carries rfl)
    · exact nextApart id live rest isLive isNext carries
  · intro first second rest other thread there thereOther carries carriesToo
    rcases lookup_replace there with ⟨isFirst, before⟩ | ⟨isFirst, isNext⟩
    · rcases lookup_replace thereOther with ⟨_, beforeOther⟩ | ⟨_, isNext⟩
      · exact ledger.once first second rest other thread before beforeOther carries carriesToo
      · exact absurd carriesToo (nextOnce first rest other thread isFirst before carries isNext)
    · rcases lookup_replace thereOther with ⟨isSecond, beforeOther⟩ | ⟨isSecond, _⟩
      · exact absurd carries (nextOnce second other rest thread isSecond beforeOther carriesToo isNext)
      · exact isFirst.trans isSecond.symm

theorem settle (turned : Turned reader system.store task outcome) :
    Ledger (system.settle number outcome) := by
  have replaced := ledger.replace found turned.moves
  unfold System.settle
  split
  next monitor isSpawned =>
    obtain ⟨_, id, boot, _, rfl, _⟩ := turned.spawns monitor isSpawned
    exact replaced.spawn rfl
  · exact replaced

end

theorem step (event : Event) : Ledger (system.step reader event) := by
  cases event with
  | call request => exact ledger.call request
  | resume number answer =>
    rcases resume_cases reader system number answer with same | ⟨task, outcome, found, ran, _, result⟩
    · show Ledger (system.resume reader number answer)
      rw [same]
      exact ledger
    · show Ledger (system.resume reader number answer)
      rw [result]
      exact ledger.settle found (Task.turned ran)
  | prints thread bytes => exact ledger.store_tends (system.tends_prints thread bytes) rfl
  | exits thread | panics thread => exact ledger.store_tends (system.tends_ends thread nofun) rfl

end
end Ledger

theorem ledger_run (reader : SerialReader) (events : List Event) :
    Ledger (run (System.step reader) .empty events) :=
  stable_run Ledger events (fun _ event ledger => ledger.step event) ledger_empty

/-- The thread whose handle an entry or a task holds. -/
def System.holds (system : System) : VmId ⊕ Nat → Option ThreadId
  | .inl id => (system.store.liveVms.lookup id).map (·.thread)
  | .inr number => (system.tasks.lookup number).bind Task.carries

theorem handle_held_once (reader : SerialReader) (events : List Event) (thread : ThreadId) :
    Subsingleton {holder // (run (System.step reader) .empty events).holds holder = some thread} := by
  have ledger := ledger_run reader events
  refine ⟨fun ⟨holder, held⟩ ⟨other, also⟩ => Subtype.ext ?_⟩
  rcases holder with id | number <;> rcases other with rival | turn
  all_goals
    simp only [System.holds, map_eq_some_iff, bind_eq_some_iff] at held also
    obtain ⟨_, found, isThread⟩ := held
    obtain ⟨_, foundToo, isToo⟩ := also
  · exact congrArg Sum.inl (ledger.sole _ _ _ _ found foundToo (isThread.trans isToo.symm))
  · exact absurd (isToo.trans (congrArg some isThread.symm)) (ledger.apart _ _ _ _ found foundToo)
  · exact absurd (isThread.trans (congrArg some isToo.symm)) (ledger.apart _ _ _ _ foundToo found)
  · exact congrArg Sum.inr (ledger.once _ _ _ _ _ found foundToo isThread isToo)

end Visor.Backend
