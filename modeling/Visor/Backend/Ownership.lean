import Visor.Backend.Duties

/-! If no call is busy with an id while another one boots it, and a `start` waits for the monitors
of its id, then a machine that runs is owned by the entry of its id, and by no other, whenever no
call is in progress. -/

namespace Visor.Backend
open Library Store Backend.System List Backend.Task KeyedMap Option
variable (system : System)

/-- A `start` decides to boot an id only if no call is busy with it and no monitor of it is left,
and a call ends an id only if no other one boots it. -/
def Serial : Event → Prop
  | .resume number _ =>
    (∀ id ∈ (system.tasks.lookup number).bind startsOn, ∀ entry ∈ system.tasks.entries, id ∉
      entry.2.about) ∧
    ∀ task ∈ system.tasks.lookup number, ∀ id ∈ task.meets, ∀ entry ∈ system.tasks.entries,
      entry.2.boots ≠ some id
  | _ => True

instance (system : System) (event : Event) : Decidable (Serial system event) := by
  rcases event with _ | _ <;> (unfold Serial; infer_instance)

theorem Serial.startsAlone {system : System} {event : Event} (serial : Serial system event) :
    StartsAlone system event := by
  cases event with
  | resume =>
    exact fun id starts entry member bears => serial.1 id starts entry member (mem_about_of_bears bears)
  | _ => trivial

section Serial
variable {system : System} {number : Nat} {answer : Answer} {task : Task} {id : VmId}
section
variable (serial : Serial system (.resume number answer))
  (found : system.tasks.lookup number = some task) {other : Nat} {rest : Task}
include serial found

theorem Serial.not_about (starts : task.startsOn = some id)
    (there : system.tasks.lookup other = some rest) : id ∉ rest.about := by
  refine serial.1 id ?_ ⟨other, rest⟩ ((mem_entries_iff _ _ _).mpr there)
  rw [found]
  exact starts

theorem Serial.not_boots (meets : id ∈ task.meets) (there : system.tasks.lookup other = some rest) :
    rest.boots ≠ some id :=
  serial.2 task found id meets ⟨other, rest⟩ ((mem_entries_iff _ _ _).mpr there)

end
end Serial

namespace System
variable {Value : Type} {system : System} {owes : Task → Option Value} {value : Value}

def Has (system : System) (owes : Task → Option Value) (value : Value) : Prop :=
  ∃ number task, system.tasks.lookup number = some task ∧ owes task = some value

/-- What holds unless a task owes something still does after a turn, if the task whose turn it is
settles what it owes or passes it on. -/
theorem passes_on {before after : Prop} {number : Nat} {task : Task} {outcome : Outcome}
    (found : system.tasks.lookup number = some task) (holds : before ∨ system.Has owes value)
    (turn : before ∨ owes task = some value → after ∨ outcome.next.bind owes = some value) :
    after ∨ (system.replace number outcome).Has owes value := by
  have pass : before ∨ owes task = some value → after ∨ (system.replace number outcome).Has owes value := by
    intro either
    refine (turn either).imp_right fun goesOn => ?_
    obtain ⟨next, isNext, owesIt⟩ := bind_eq_some_iff.mp goesOn
    refine ⟨number, next, ?_, owesIt⟩
    rw [lookup_replace_self, isNext]
  rcases holds with settled | ⟨other, rest, there, owesIt⟩
  · exact pass (.inl settled)
  · by_cases same : other = number
    · subst same
      rw [found] at there
      cases there
      exact pass (.inr owesIt)
    · refine .inr ⟨other, rest, ?_, owesIt⟩
      rw [lookup_replace_other system outcome same, there]

theorem Has.spawn (has : system.Has owes value)
    (numbered : ∀ number task, system.tasks.lookup number = some task → number < system.nextTask)
    (task : Task) : (system.spawn task).Has owes value := by
  obtain ⟨number, rest, there, owesIt⟩ := has
  refine ⟨number, rest, ?_, owesIt⟩
  show (system.tasks.insert system.nextTask task).lookup number = some rest
  rw [lookup_insert_eq, if_neg (Nat.ne_of_lt (numbered number rest there)), there]

end System

/-- The invariant of a run in which boots do not overlap with other calls on the same id. -/
structure Orderly (system : System) : Prop extends Current system where
  isDrawn : ∀ number task id, system.tasks.lookup number = some task → id ∈ task.about ∨
    id ∈ task.meets → id ∈ system.drawn
  alone : ∀ first second task other id, system.tasks.lookup first = some task →
    system.tasks.lookup second = some other → task.boots = some id → id ∈ other.about → first = second
  attends : ∀ number task, system.tasks.lookup number = some task → task.Attends system.store
  lived : ∀ id, (system.store.slot id).Lived ∨ system.Has announces id
  ran : ∀ id, (system.store.slot id).Ran ∨ system.Has closes id
  owned : ∀ thread machine, system.store.machines.lookup thread = some machine → machine.Loose →
    system.store.Owns machine.id thread ∨ system.Has holds thread

theorem orderly_empty : Orderly .empty where
  toCurrent := current_empty
  isDrawn _ _ _ found := nomatch found
  alone _ _ _ _ _ found := nomatch found
  attends _ _ found := nomatch found
  lived _ := .inl fun there => absurd rfl there
  ran _ := .inl fun _ found => nomatch found
  owned _ _ found := nomatch found

namespace Orderly
variable {system : System} {reader : SerialReader}
section
variable (orderly : Orderly system)
include orderly
section
variable {task : Task} (current : Current (system.spawn task)) (attends : task.Attends system.store)
include current attends

theorem spawn (isDrawn : ∀ id, id ∈ task.about ∨ id ∈ task.meets → id ∈ system.drawn)
    (bootsAlone : ∀ number other id, system.tasks.lookup number = some other →
      task.boots = some id → id ∉ other.about)
    (aboutAlone : ∀ number other id, system.tasks.lookup number = some other → id ∈ task.about →
      other.boots ≠ some id) : Orderly (system.spawn task) where
  toCurrent := current
  isDrawn number other id found member := by
    rcases lookup_spawn found with ⟨_, rfl⟩ | there
    · exact isDrawn id member
    · exact orderly.isDrawn number other id there member
  alone first second rest other id found foundOther boots about := by
    rcases lookup_spawn found with ⟨isNew, rfl⟩ | there
    · rcases lookup_spawn foundOther with ⟨isNewOther, rfl⟩ | thereOther
      · exact isNew.trans isNewOther.symm
      · exact absurd about (bootsAlone second other id thereOther boots)
    · rcases lookup_spawn foundOther with ⟨_, rfl⟩ | thereOther
      · exact absurd boots (aboutAlone first rest id there about)
      · exact orderly.alone first second rest other id there thereOther boots about
  attends number other found := by
    rcases lookup_spawn found with ⟨_, rfl⟩ | there
    · exact attends
    · exact orderly.attends number other there
  lived id := (orderly.lived id).imp_right fun has => has.spawn orderly.tasks task
  ran id := (orderly.ran id).imp_right fun has => has.spawn orderly.tasks task
  owned thread machine found loose :=
    (orderly.owned thread machine found loose).imp_right fun has => has.spawn orderly.tasks task

theorem spawn_free (noBoot : task.boots = none) (noAbout : task.about = [])
    (noMeets : task.meets = []) : Orderly (system.spawn task) := by
  refine orderly.spawn current attends (fun id member => ?_) (fun _ _ id _ boots => ?_)
    fun _ _ id _ about => ?_
  · rw [noAbout, noMeets] at member
    simp at member
  · rw [noBoot] at boots
    cases boots
  · rw [noAbout] at about
    cases about

end

theorem spawnBoot (origin : Origin) (id : VmId) (config : VmConfig) (names : List Text) :
    Orderly (system.spawnBoot origin id config names) := by
  have current := orderly.toCurrent.spawnBoot origin id config names
  unfold System.spawnBoot at current ⊢
  split
  · exact orderly
  next isNew =>
    rw [if_neg isNew] at current
    have fresh : ∀ number other, system.tasks.lookup number = some other → id ∉ other.about :=
      fun number other found about => isNew (orderly.isDrawn number other id found (.inl about))
    have drawing : Orderly { system with
      store := { system.store with nextBoot := system.store.nextBoot + 1 }
      drawn := id :: system.drawn } :=
      { orderly with
        toCurrent := orderly.toCurrent.draw id
        isDrawn := fun number task other found member =>
          .tail _ (orderly.isDrawn number task other found member) }
    refine drawing.spawn current trivial ?_ ?_ ?_
    · rintro other (about | meets)
      · rw [mem_singleton.mp about]
        exact .head _
      · cases meets
    · rintro number other _ found ⟨⟩
      exact fresh number other found
    · rintro number other same found about boots
      rw [mem_singleton.mp about] at boots
      exact fresh number other found (mem_about_of_boots boots)

theorem call (request : Request) : Orderly (system.call request) := by
  have current := orderly.toCurrent.call request
  cases request with
  | create id config names =>
    show Orderly (if config.detach then _ else _)
    split
    · exact orderly.spawnBoot .create id config names
    · exact orderly
  | createFromSnapshot id config names => exact orderly.spawnBoot _ id config names
  | start | destroy => exact orderly.spawn_free current trivial rfl rfl rfl
  | stop | kill => exact orderly.spawn_free current nofun rfl rfl rfl

theorem store_tends {store : Store} (tends : system.store.Tends store)
    (slots : ∀ id, store.slot id = system.store.slot id) : Orderly { system with store := store } where
  toCurrent := orderly.toCurrent.store_tends tends
  isDrawn := orderly.isDrawn
  alone := orderly.alone
  attends number task found :=
    (orderly.attends number task found).kept orderly.known (fun id _ => slots id)
      (fun id _ => tends.slots id) tends.machines
  lived id := by
    rw [slots id]
    exact orderly.lived id
  ran id := by
    rw [slots id]
    exact orderly.ran id
  owned thread machine found loose := by
    cases there : system.store.machines.lookup thread with
    | none =>
      have missing := tends.noMachine thread there
      rw [missing] at found
      cases found
    | some old =>
      obtain ⟨new, foundNew, aged⟩ := tends.machines thread old there
      rw [found] at foundNew
      cases foundNew
      unfold Store.Owns
      rw [slots, aged.id]
      exact orderly.owned thread old there (loose.younger aged)

end

section
variable (orderly : Orderly system) {number : Nat} {answer : Answer} {task : Task}
  {outcome : Outcome} (found : system.tasks.lookup number = some task)
  (serial : Serial system (.resume number answer))
  (ran : task.advance reader system.store answer = some outcome)
include orderly found serial ran

theorem replace : Orderly (system.replace number outcome) := by
  have turned := turned ran
  have faithful := orderly.faithful number task found
  have attends := orderly.attends number task found
  have turn := turned.turn orderly.numbered orderly.known faithful
  have continues := turned.continues
  -- Nobody announces an id that this task is about to boot or to end.
  have calm : ∀ id, task.startsOn = some id ∨ id ∈ task.meets → (system.store.slot id).Lived := by
    intro id either
    refine (orderly.lived id).resolve_right ?_
    rintro ⟨other, rest, there, announces⟩
    have boots : rest.boots = some id := by
      cases rest with
      | announce => exact announces
      | _ => cases announces
    rcases either with starts | meets
    · exact serial.not_about found starts there (mem_about_of_boots boots)
    · exact serial.not_boots found meets there boots
  have isDrawn : ∀ id, (system.store.slot id).info ≠ none → id ∈ system.drawn := by
    intro id there
    by_contra notDrawn
    exact there (orderly.drawn id notDrawn).1
  constructor
  · exact orderly.toCurrent.replace found serial.startsAlone ran
  · intro other rest id there member
    rcases lookup_replace there with ⟨_, before⟩ | ⟨_, goesOn⟩
    · exact orderly.isDrawn other rest id before member
    · rcases member with about | meets
      · rcases (continues rest goesOn).about id about with same | same | ⟨_, info⟩
        · exact orderly.isDrawn number task id found (.inl same)
        · exact orderly.isDrawn number task id found (.inr same)
        · exact isDrawn id info
      · rcases (continues rest goesOn).meets id meets with same | info
        · exact orderly.isDrawn number task id found (.inr same)
        · exact isDrawn id info
  · intro first second rest other id there thereOther boots about
    rcases lookup_replace there with ⟨isFirst, before⟩ | ⟨isFirst, goesOn⟩
    · rcases lookup_replace thereOther with ⟨_, beforeOther⟩ | ⟨_, goesOn⟩
      · exact orderly.alone first second rest other id before beforeOther boots about
      · rcases (continues other goesOn).about id about with same | meets | ⟨starts, _⟩
        · exact absurd (orderly.alone first number rest task id before found boots same) isFirst
        · exact absurd boots (serial.not_boots found meets before)
        · exact absurd (mem_about_of_boots boots) (serial.not_about found starts before)
    · rcases lookup_replace thereOther with ⟨isOther, beforeOther⟩ | ⟨isSecond, _⟩
      · rcases (continues rest goesOn).boots id boots with same | starts
        · exact absurd (orderly.alone number second task other id found beforeOther same about).symm isOther
        · exact absurd about (serial.not_about found starts beforeOther)
      · exact isFirst.trans isSecond.symm
  · intro other rest there
    rcases lookup_replace there with ⟨isOther, before⟩ | ⟨_, goesOn⟩
    · refine (orderly.attends other rest before).kept orderly.known (fun id boots => ?_)
        (fun id about => ?_) turn.machines
      · refine turned.leaves fun touches => isOther ?_
        exact orderly.alone other number rest task id before found boots (mem_about_of_touches touches)
      · refine turned.shrinks turn fun boots => isOther ?_
        exact (orderly.alone number other task rest id found before boots about).symm
    · exact turned.attends attends faithful calm rest goesOn
  · exact fun id => System.passes_on found (orderly.lived id) (turned.lived attends faithful)
  · exact fun id => System.passes_on found (orderly.ran id) (turned.ran attends)
  · intro thread machine there loose
    rcases turned.loose turn there loose with ⟨old, before, wasLoose, sameId⟩ | goesOn
    · rw [← sameId]
      exact System.passes_on found (orderly.owned thread old before wasLoose)
        (turned.owned attends faithful before wasLoose there loose)
    · have nothing : True ∨ system.Has holds thread := .inl trivial
      exact System.passes_on found nothing fun _ => .inr goesOn

theorem settle : Orderly (system.settle number outcome) := by
  have replaced := orderly.replace found serial ran
  have current := orderly.toCurrent.settle found serial.startsAlone ran
  have spawns := (turned ran).spawns
  unfold System.settle at current ⊢
  split
  next monitor isSpawned =>
    rw [isSpawned] at current
    obtain ⟨origin, id, boot, isTask, rfl, ends⟩ := spawns monitor isSpawned
    have boots : task.boots = some id := isTask ▸ rfl
    have others : ∀ other rest, (system.replace number outcome).tasks.lookup other = some rest →
      rest.boots ≠ some id := by
      intro other rest there bootsToo
      rcases lookup_replace there with ⟨isOther, before⟩ | ⟨_, goesOn⟩
      · exact isOther
          (orderly.alone other number rest task id before found bootsToo (mem_about_of_boots boots))
      · rw [ends] at goesOn
        cases goesOn
    refine replaced.spawn current trivial (fun other member => ?_) ?_ fun other rest same there about => ?_
    · rcases member with about | meets
      · rw [mem_singleton.mp about]
        exact orderly.isDrawn number task id found (.inl (mem_about_of_boots boots))
      · cases meets
    · rintro _ _ _ _ ⟨⟩
    · rw [mem_singleton.mp about]
      exact others other rest there
  · exact replaced

end

theorem step (orderly : Orderly system) {event : Event} (serial : Serial system event) :
    Orderly (system.step reader event) := by
  cases event with
  | call request => exact orderly.call request
  | resume number answer =>
    rcases resume_cases reader system number answer with same | ⟨task, outcome, found, ran, _, result⟩
    · show Orderly (system.resume reader number answer)
      rw [same]
      exact orderly
    · show Orderly (system.resume reader number answer)
      rw [result]
      exact orderly.settle found serial ran
  | prints thread bytes => exact orderly.store_tends (system.tends_prints thread bytes) fun _ => rfl
  | exits thread | panics thread => exact orderly.store_tends (system.tends_ends thread nofun) fun _ => rfl

end Orderly

/-- No call is under way, only monitors. -/
def System.Idle : Prop := ∀ number task, system.tasks.lookup number = some task → task.monitors ≠ none

/-- No entry has been taken without its record being updated yet. -/
def System.Settled : Prop := ∀ number task, system.tasks.lookup number = some task → task.closes = none

/-- Every loose machine is owned by one entry, and that is recorded. -/
def Store.ThreadsOwned (store : Store) : Prop :=
  ∀ thread machine, store.machines.lookup thread = some machine → machine.Loose →
    ∃ id, store.Owns id thread ∧ store.vms.lookup id ≠ none ∧
      ∀ other, store.Owns other thread → other = id

/-- The entries are those of the machines that are recorded as running. -/
def Store.RunningOwned (store : Store) : Prop :=
  ∀ id, (∃ info, store.vms.lookup id = some info ∧ info.state = .running) ↔
    store.liveVms.lookup id ≠ none

namespace Orderly
variable {system : System}
section
variable (orderly : Orderly system) (idle : system.Idle)
include orderly idle

theorem lived_of_idle (id : VmId) : (system.store.slot id).Lived := by
  refine (orderly.lived id).resolve_right ?_
  rintro ⟨number, task, found, announces⟩
  cases task with
  | announce => exact idle number _ found rfl
  | _ => cases announces

theorem threadsOwned : system.store.ThreadsOwned := by
  intro thread machine found loose
  have owns : system.store.Owns machine.id thread := by
    refine (orderly.owned thread machine found loose).resolve_right ?_
    rintro ⟨number, task, there, holds⟩
    cases task with
    | install | asking => exact idle number _ there rfl
    | _ => cases holds
  refine ⟨machine.id, owns, fun missing => ?_, ?_⟩
  · obtain ⟨live, isLive, _⟩ := owns
    have none := (orderly.lived_of_idle idle machine.id).missing missing
    rw [isLive] at none
    cases none
  · rintro other ⟨live, isLive, onThread⟩
    have runs := orderly.known other live isLive
    rw [onThread] at runs
    exact (runs.id_eq found).symm

theorem runningOwned (settled : system.Settled) :
    system.store.RunningOwned := by
  intro id
  constructor
  · rintro ⟨info, found, running⟩
    have ran : (system.store.slot id).Ran := by
      refine (orderly.ran id).resolve_right ?_
      rintro ⟨number, task, there, closes⟩
      rw [settled number task there] at closes
      cases closes
    exact ran info found running
  · exact orderly.lived_of_idle idle id

end
end Orderly

/-- In a run in which no call is busy with an id while another one boots it, and no monitor of the
id is left then, every thread that runs and was not asked to stop is owned by one entry of a
recorded machine whenever no call is in progress. What is recorded as running is what has an
entry, unless a monitor has just taken the entry and is about to record that. -/
theorem threads_stay_owned (reader : SerialReader)
    {events : List Event} (serial : Along (System.step reader) Serial .empty events) :
    Throughout (System.step reader)
    (fun system => system.Idle → system.store.ThreadsOwned ∧
      (system.Settled → system.store.RunningOwned)) .empty events :=
  throughout_of_invariant Orderly (fun _ _ orderly admitted => orderly.step admitted)
    (fun _ orderly idle => ⟨orderly.threadsOwned idle, orderly.runningOwned idle⟩)
    orderly_empty serial

def killA : List Event :=
  [.call (.kill ['a']), .resume 2 .locked, .resume 2 .locked, .resume 2 .locked, .exits 0,
    .resume 2 (.joined .joined), .resume 2 .locked, .resume 1 (.waited .completed),
      .resume 1 .locked, .resume 1 .locked]

/-- One `create`, `kill` and `start` after the other. -/
theorem one_after_another_stays_owned :
    Along (System.step plainReader) Serial .empty (createA ++ killA ++ startA) ∧
    Throughout (System.step plainReader)
    (fun system => system.Idle → system.store.ThreadsOwned ∧
      (system.Settled → system.store.RunningOwned)) .empty (createA ++ killA ++ startA) := by
  have serial : Along (System.step plainReader) Serial .empty (createA ++ killA ++ startA) := by
    decide +kernel
  exact ⟨serial, threads_stay_owned plainReader serial⟩

def startATwice : List Event :=
  [.call (.start ['a']), .call (.start ['a']), .resume 3 .locked, .resume 4 .locked,
    .resume 3 .locked, .resume 4 .locked] ++
  [.resume 3 .locked, .resume 3 .locked, .resume 3 .locked, .resume 3 .locked,
    .resume 3 (.booted .booted)] ++
  [.resume 4 .locked, .resume 4 .locked, .resume 4 .locked, .resume 4 .locked,
    .resume 4 (.booted .booted)] ++
  [.resume 3 .locked, .resume 3 .locked, .resume 4 .locked, .resume 4 .locked]

def destroyWhileCreating : List Event :=
  [.call (.create ['b'] detached [['n']]), .resume 0 .locked, .resume 0 .locked,
    .call (.destroy ['b']), .resume 1 .locked, .resume 1 .locked, .resume 1 .locked,
    .resume 1 .locked, .resume 1 .locked, .resume 1 .locked, .resume 1 .locked, .resume 1 .locked,
    .resume 0 (.booted .booted), .resume 0 .locked, .resume 0 .locked]

theorem idle_of_all {system : System}
    (all : system.tasks.entries.all (fun entry => entry.2.monitors.isSome) = true) : system.Idle :=
  fun number task found => isSome_iff_ne_none.mp ((all_entries_iff system.tasks _).mp all number task found)

private theorem not_owned_of_all {store : Store} (thread : ThreadId) (machine : Machine)
    (found : store.machines.lookup thread = some machine) (loose : machine.Loose)
    (all : store.liveVms.entries.all
      (fun entry => entry.2.thread ≠ thread || (store.vms.lookup entry.1).isNone) =
      true) : ¬ store.ThreadsOwned := by
  intro owned
  obtain ⟨id, ⟨live, isLive, onThread⟩, recorded, _⟩ := owned thread machine found loose
  have either := (all_entries_iff store.liveVms _).mp all id live isLive
  rcases Bool.or_eq_true_iff.mp either with apart | missing
  · exact of_decide_eq_true apart onThread
  · exact recorded (isNone_iff_eq_none.mp missing)

/-- Of two machines started at the same time one is left without an owner; one that is destroyed
while it is created runs without a record. -/
theorem overlap_loses_threads :
    ¬ Throughout (System.step plainReader)
    (fun system => system.Idle → system.store.ThreadsOwned ∧
      (system.Settled → system.store.RunningOwned)) .empty (createA ++ killA ++ startATwice) ∧
    ¬ Throughout (System.step plainReader)
    (fun system => system.Idle → system.store.ThreadsOwned ∧
      (system.Settled → system.store.RunningOwned)) .empty destroyWhileCreating := by
  constructor
  · intro throughout
    have last := (throughout_iff_prefixes _ _ _ _).mp throughout _ (prefix_refl _)
    have owned := (last (idle_of_all (by decide +kernel))).1
    exact not_owned_of_all 1 (.booted ['a'] 1 { detached with name := some ['n'] })
      (by decide +kernel) ⟨rfl, rfl, rfl⟩ (by decide +kernel) owned
  · intro throughout
    have last := (throughout_iff_prefixes _ _ _ _).mp throughout _ (prefix_refl _)
    have owned := (last (idle_of_all (by decide +kernel))).1
    exact not_owned_of_all 0 (.booted ['b'] 0 detached) (by decide +kernel) ⟨rfl, rfl, rfl⟩
      (by decide +kernel) owned

end Visor.Backend
