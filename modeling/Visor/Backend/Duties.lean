import Visor.Backend.Incarnations

/-! A turn keeps what its task relies on, and passes on what it owes: an entry that is to be
recorded as running, a record that is to be updated, a thread that is to be installed or stopped. -/

namespace Visor.Backend
open Library Store Backend.Task List Option KeyedMap Stop AList
namespace Task
/-- The id whose entries a task may change in its next turn. -/
def touches : Task → Option VmId
  | .record _ id _ _ _ | .clearLive id _ _ | .resetInfo id _ _ | .booting _ id _ _
  | .install _ id _ _ | .announce _ id _ | .markFailed id _ | .takeLive _ id
  | .capturing _ id _ _ | .joining _ id _ | .markStopped _ id | .forgetInfo id | .forgetLive id
  | .watch _ id | .claim _ id | .conclude _ id _ _ | .joiningOwn _ id _ | .ensureStopped _ id => some id
  | _ => none

def boots : Task → Option VmId
  | .record _ id _ _ _ | .readConfig id _ | .clearLive id _ _ | .resetInfo id _ _
  | .keepConfig _ id _ _ | .booting _ id _ _ | .install _ id _ _ | .announce _ id _
  | .markFailed id _ => some id
  | _ => none

/-- The ids that a task boots, ends or watches. A `destroy` forgets the id that it was given, and
ends the one that this id stands for by then. -/
def about : Task → List VmId
  | .record _ id _ _ _ | .readConfig id _ | .clearLive id _ _ | .resetInfo id _ _
  | .keepConfig _ id _ _ | .booting _ id _ _ | .install _ id _ _ | .announce _ id _
  | .markFailed id _ | .forgetInfo id | .forgetLive id | .forgetConfig id
  | .watch _ id | .awaiting _ id _ | .claim _ id | .conclude _ id _ _ | .joiningOwn _ id _
  | .ensureStopped _ id => [id]
  | .checkState ending _ => ending.destroys.toList
  | .takeLive ending id | .asking ending id _ | .waiting ending id _ | .capturing ending id _ _
  | .joining ending id _ | .markStopped ending id => id :: ending.destroys.toList
  | _ => []

def meets : Task → List VmId
  | .checkState _ id => [id]
  | .resolveEnd ending _ => ending.destroys.toList
  | _ => []

/-- The id of an entry that is not recorded as running yet. -/
def announces : Task → Option VmId
  | .announce _ id _ => some id
  | _ => none

/-- The id that is recorded as running although its entry was taken. -/
def closes : Task → Option VmId
  | .asking _ id _ | .waiting _ id _ | .capturing _ id _ _ | .joining _ id _ | .markStopped _ id
  | .conclude _ id _ _ => some id
  | _ => none

/-- The thread that a call has to install or to stop. -/
def holds : Task → Option ThreadId
  | .install _ _ _ live | .asking _ _ live => some live.thread
  | _ => none

variable {task : Task} {id : VmId}

theorem mem_about_of_boots (boots : task.boots = some id) : id ∈ task.about := by
  cases task <;> cases boots <;> exact .head _

theorem mem_about_of_bears (bears : task.bears = some id) : id ∈ task.about := by
  cases task <;> cases bears <;> exact .head _

theorem mem_about_of_touches (touches : task.touches = some id) : id ∈ task.about := by
  cases task <;> cases touches <;> exact .head _

theorem boots_of_adds (adds : task.adds = true) : task.bears = task.boots := by
  cases task <;> first | rfl | cases adds

theorem idle_of_mayReturn (mayReturn : task.mayReturn = true) :
    task.announces = none ∧ task.closes = none ∧ task.holds = none := by
  cases task <;> first | exact ⟨rfl, rfl, rfl⟩ | cases mayReturn

end Task

section Turns
variable {reader : SerialReader} {store : Store} {task : Task} {outcome : Outcome} {id : VmId}
  {other : VmId} {thread : ThreadId} {boot : BootId} {ending : Ending} {slot : Slot}
  {machine : Machine} {before after : Store} {live : VmLiveState}

theorem leaves_updateInfo (update : VmInfo → VmInfo) (away : other ≠ id) :
    (store.updateInfo id update).slot other = store.slot other := by
  rw [slot_updateInfo, if_neg away]

theorem leaves_removeLive (away : other ≠ id) : (store.removeLive id).2.slot other = store.slot other := by
  rw [slot_removeLive, if_neg away]

@[simp] theorem slot_dropForwards (store : Store) (live : VmLiveState) (id : VmId) :
    (store.dropForwards live).slot id = store.slot id := slot_dropLive store (some live) id

theorem leaves_letGo (live : VmLiveState) (away : other ≠ id) :
    ((store.dropForwards live).removeTempDir id).slot other = store.slot other := by
  rw [slot_removeTempDir, if_neg away, slot_dropForwards]

private theorem leaves_spawnMachine (boot : BootId) (machine : Machine) (away : other ≠ id) :
    (Boot.spawnMachine store id boot machine).slot other = store.slot other := by
  rw [slot_spawnMachine, if_neg away]

theorem Turned.leaves (turned : Turned reader store task outcome)
    (apart : task.touches ≠ some other) : outcome.store.slot other = store.slot other := by
  have away : ∀ {own}, task.touches = some own → other ≠ own := fun touches same => apart (same ▸ touches)
  cases turned with
  | recorded => rw [slot_insert_info, if_neg (away rfl)]
  | installed => rw [slot_dropLive, slot_insert_live, if_neg (away rfl)]
  | watched => rw [slot_insert_live, if_neg (away rfl)]
  | bootLeftDir => rw [slot_insert_dir, if_neg (away rfl)]
  | tornDown | booted => exact leaves_spawnMachine _ _ (away rfl)
  | cleared | forgotLive =>
    rw [slot_dropLive]
    exact leaves_removeLive (away rfl)
  | tookNothing | tookToAsk | claimed | claimedNothing => exact leaves_removeLive (away rfl)
  | tookToKill =>
    show (store.removeLive _).2.slot other = store.slot other
    exact leaves_removeLive (away rfl)
  | forgotInfo =>
    unfold slot
    rw [lookup_erase_eq, if_neg (away rfl)]
  | wasReset | announced | markedFailed | captured | markedStopped | concluded | ensured =>
    exact leaves_updateInfo _ (away rfl)
  | joined | notJoined | joinedOwn | joinFailed => exact leaves_letGo _ (away rfl)
  | _ => rfl

theorem Turned.shrinks (turned : Turned reader store task outcome) (turn : Turn store task outcome)
    (apart : task.boots ≠ some id) : (store.slot id).Shrinks (outcome.store.slot id) := by
  cases adds : task.adds with
  | false => exact (turned.tends adds).slots id
  | true => exact turn.slots id (boots_of_adds adds ▸ apart)

def Slot.Pending (slot : Slot) : Prop :=
  slot.live = none ∧ ∃ info, slot.info = some info ∧ info.state ≠ .running

def Slot.Lived (slot : Slot) : Prop :=
  slot.live ≠ none → ∃ info, slot.info = some info ∧ info.state = .running

def Slot.Ran (slot : Slot) : Prop :=
  ∀ info, slot.info = some info → info.state = .running → slot.live ≠ none

def Ending.Closed (ending : Ending) (id : VmId) (store : Store) : Prop :=
  (store.slot id).live = none ∧ ∀ other ∈ ending.destroys, (store.slot other).live = none

def Task.Attends (store : Store) : Task → Prop
  | .readConfig id _ | .clearLive id _ _ | .resetInfo id _ _ | .keepConfig _ id _ _
  | .booting _ id _ _ | .install _ id _ _ | .markFailed id _ => (store.slot id).Pending
  | .announce _ id _ => (store.slot id).live ≠ none ∧ (store.slot id).info ≠ none
  | .resolveEnd ending input => ∀ id ∈ ending.destroys, id = input
  | .checkState ending id | .takeLive ending id =>
    ∀ other ∈ ending.destroys, other = id ∨ (store.slot other).live = none
  | .asking ending id _ | .waiting ending id _ | .capturing ending id _ _ | .joining ending id _
  | .markStopped ending id => ending.Closed id store
  | .forgetInfo id | .forgetLive id | .conclude _ id _ _ | .ensureStopped _ id =>
    (store.slot id).live = none
  | .awaiting _ id rx => ∀ live, (store.slot id).live = some live → live.thread = rx
  | .claim _ id => ∀ live, (store.slot id).live = some live →
    store.threadState live.thread ≠ .running
  | _ => True

theorem Store.MachinesAge.notRunning (ages : before.MachinesAge after)
    (runs : before.RunsAs thread id boot) (ended : before.threadState thread ≠ .running) :
    after.threadState thread ≠ .running := by
  obtain ⟨machine, found, _⟩ := runs
  obtain ⟨new, foundNew, aged⟩ := ages thread machine found
  unfold threadState at ended ⊢
  rw [found] at ended
  rw [foundNew]
  exact fun runs => ended (aged.state runs)

theorem Ending.Closed.shrinks (closed : ending.Closed id before)
    (shrinks : ∀ other ∈ id :: ending.destroys.toList, (before.slot other).Shrinks
      (after.slot other)) : ending.Closed id after :=
  ⟨(shrinks id (.head _)).live_none closed.1, fun other member =>
    (shrinks other (.tail _ (mem_toList.mpr member))).live_none (closed.2 other member)⟩

theorem Task.Attends.kept (attends : task.Attends before) (known : before.Known)
    (same : ∀ id, task.boots = some id → after.slot id = before.slot id)
    (shrinks : ∀ id ∈ task.about, (before.slot id).Shrinks (after.slot id))
    (ages : before.MachinesAge after) : task.Attends after := by
  have pending : ∀ {id}, task.boots = some id → (before.slot id).Pending →
    (after.slot id).Pending := fun boots was => (same _ boots).symm ▸ was
  cases task with
  | readConfig | clearLive | resetInfo | keepConfig | booting | install | markFailed =>
    exact pending rfl attends
  | announce origin id =>
    show (after.slot id).live ≠ none ∧ (after.slot id).info ≠ none
    rw [same id rfl]
    exact attends
  | resolveEnd => exact attends
  | checkState =>
    exact fun other member =>
      (attends other member).imp_right (shrinks other (mem_toList.mpr member)).live_none
  | takeLive =>
    exact fun other member =>
      (attends other member).imp_right (shrinks other (.tail _ (mem_toList.mpr member))).live_none
  | asking ending id live | waiting ending id live | joining ending id live
  | capturing | markStopped => exact Ending.Closed.shrinks attends shrinks
  | forgetInfo id | forgetLive id | conclude own id | ensureStopped own id =>
    exact (shrinks id (.head _)).live_none attends
  | awaiting own id =>
    intro live there
    obtain ⟨old, found, _, sameThread⟩ := (shrinks id (.head _)).live live there
    exact sameThread.trans (attends old found)
  | claim own id =>
    intro live there
    obtain ⟨old, found, _, sameThread⟩ := (shrinks id (.head _)).live live there
    rw [sameThread]
    exact ages.notRunning (known id old found) (attends old found)
  | _ => trivial

theorem Slot.Lived.missing (lived : slot.Lived) (noInfo : slot.info = none) : slot.live = none := by
  by_contra there
  obtain ⟨info, found, _⟩ := lived there
  rw [noInfo] at found
  cases found

theorem Slot.Lived.ended (lived : slot.Lived)
    (ended : ∀ info, slot.info = some info → info.state = .stopped ∨ info.state = .failed) :
    slot.live = none := by
  by_contra there
  obtain ⟨info, found, running⟩ := lived there
  rcases ended info found with stopped | failed
  · rw [running] at stopped
    cases stopped
  · rw [running] at failed
    cases failed

theorem attends_afterCapture (bytes : List U8) (closed : ending.Closed id store) :
    (afterCapture ending id live bytes).Attends store := by
  unfold afterCapture
  split
  · exact closed
  · exact closed

theorem closed_removeLive (attends : ∀ other ∈ ending.destroys, other = id ∨
      (store.slot other).live = none) : ending.Closed id (store.removeLive id).2 := by
  refine ⟨slot_removed store id, fun other member => ?_⟩
  rcases attends other member with rfl | missing
  · exact slot_removed store other
  · exact ((tends_removeLive store id).slots other).live_none missing

theorem pending_of_eq {before after : Slot} (pending : before.Pending)
    (live : after.live = before.live) (info : after.info = before.info) : after.Pending := by
  unfold Slot.Pending
  rw [live, info]
  exact pending

theorem threadState_observe (store : Store) (thread other : ThreadId) :
    (store.observe thread).threadState other = store.threadState other := by
  unfold observe updateMachine threadState
  rw [lookup_modify]
  by_cases same : other = thread
  · subst same
    rw [if_pos rfl]
    cases store.machines.lookup other with
    | none | some => rfl
  · rw [if_neg same]

private theorem closed_letGo (closed : ending.Closed id store) :
    ending.Closed id ((store.dropForwards live).removeTempDir id) :=
  closed.shrinks fun other _ => (tends_letGo store id live).slots other

theorem Turned.attends (turned : Turned reader store task outcome) (attends : task.Attends store)
    (faithful : task.Faithful store)
    (calm : ∀ id, task.startsOn = some id ∨ id ∈ task.meets → (store.slot id).Lived) :
    ∀ next, outcome.next = some next → next.Attends outcome.store := by
  have failing : ∀ {origin : Origin} {id : VmId} {boot : BootId} {after : Store}, (after.slot id).Pending →
    ∀ next, (if origin = .createFromSnapshot then none else some (markFailed id boot)) = some next →
      next.Attends after := by
    intro origin id boot after pending next goesOn
    split at goesOn
    · cases goesOn
    · cases goesOn
      exact pending
  have finishing :
    ∀ {ending : Ending} {after : Store}, (∀ id ∈ ending.destroys, (after.slot id).live = none) →
    ∀ next, ending.destroys.map forgetInfo = some next → next.Attends after := by
    intro ending after closed next goesOn
    obtain ⟨id, destroys, rfl⟩ := map_eq_some_iff.mp goesOn
    exact closed id destroys
  cases turned with
  | recorded origin id config boot names name =>
    rintro _ ⟨⟩
    have recorded : (store.vms.insert id (.creating config boot name)).lookup id =
      some (.creating config boot name) := lookup_insert _
    exact ⟨faithful.1, _, recorded, nofun⟩
  | decided id existing found ended =>
    rintro _ ⟨⟩
    have live := (calm id (.inl rfl)).ended fun info there => by
      have same : some existing = some info := found.symm.trans there
      cases same
      exact ended
    refine ⟨live, existing, found, fun running => ?_⟩
    rw [running] at ended
    rcases ended with stopped | failed
    · cases stopped
    · cases failed
  | configured | configKept | checked | accepted | captured | forgotInfo =>
    rintro _ ⟨⟩
    exact attends
  | cleared id =>
    rintro _ ⟨⟩
    have pending : ((store.removeLive id).2.slot id).Pending := ⟨slot_removed store id, attends.2⟩
    show Slot.Pending (slot _ id)
    rw [slot_dropLive]
    exact pending
  | wasReset id config boot vm found =>
    rintro _ ⟨⟩
    have updated : (store.vms.modify id (.restarting config boot)).lookup id =
      some (.restarting config boot vm) := by
      rw [lookup_modify, if_pos rfl, found]
      rfl
    exact ⟨attends.1, _, updated, nofun⟩
  | bootFailed => exact failing attends
  | bootLeftDir | tornDown => exact failing (pending_of_eq attends rfl rfl)
  | booted =>
    rintro _ ⟨⟩
    exact pending_of_eq attends rfl rfl
  | installed origin id boot live =>
    rintro _ ⟨⟩
    obtain ⟨_, info, found, _⟩ := attends
    have own := slot_insert_live store id id live
    rw [if_pos rfl] at own
    show Slot.live (slot _ id) ≠ none ∧ Slot.info (slot _ id) ≠ none
    rw [slot_dropLive, own]
    exact ⟨nofun, found.symm ▸ nofun⟩
  | foundDestroy =>
    rintro _ ⟨⟩
    rintro _ ⟨⟩
    rfl
  | notFound ending input missing =>
    refine finishing fun id destroys => (calm id (.inr (mem_toList.mpr destroys))).missing ?_
    obtain rfl := attends id destroys
    by_contra there
    rw [resolveId_self there] at missing
    cases missing
  | foundEnd ending input id found =>
    rintro _ ⟨⟩
    intro other destroys
    obtain rfl := attends other destroys
    rcases (resolveId_found found).2 with same | noInfo
    · exact .inl same.symm
    · exact .inr ((calm other (.inr (mem_toList.mpr destroys))).missing noInfo)
  | endedBefore ending id ended =>
    refine finishing fun other destroys => ?_
    rcases attends other destroys with rfl | missing
    · exact (calm other (.inr (.head _))).ended ended
    · exact missing
  | tookNothing | tookToAsk =>
    rintro _ ⟨⟩
    exact closed_removeLive attends
  | tookToKill ending id live bytes =>
    rintro _ ⟨⟩
    exact attends_afterCapture bytes (closed_removeLive attends)
  | acceptedUnwatched ending id live bytes | refused ending id live bytes
  | completed ending id live bytes | channelDropped ending id live bytes
  | waitTimedOut ending id live bytes =>
    rintro _ ⟨⟩
    exact attends_afterCapture bytes attends
  | joined | notJoined =>
    rintro _ ⟨⟩
    exact closed_letGo attends
  | markedStopped => exact finishing attends.2
  | watched own id live =>
    rintro _ ⟨⟩
    intro new there
    have own := slot_insert_live store id id { live with completionRx := false }
    rw [if_pos rfl] at own
    rw [own] at there
    cases there
    rfl
  | woke own id rx exited =>
    rintro _ ⟨⟩
    intro live there running
    have same : live.thread = rx := attends live there
    subst same
    rw [threadState_observe, exited] at running
    cases running
  | wokeWithout own id rx panicked =>
    rintro _ ⟨⟩
    intro live there running
    have same : live.thread = rx := attends live there
    subst same
    rw [panicked] at running
    cases running
  | claimed own id | claimedNothing own id =>
    rintro _ ⟨⟩
    exact slot_removed store id
  | returned | lost | announced | markedFailed | forgotConfig | unwatched | joinedOwn | joinFailed
  | ensured => rintro _ ⟨⟩
  | foundStart | forgotLive | concluded =>
    rintro _ ⟨⟩
    trivial

theorem info_updateInfo (store : Store) (id : VmId) (update : VmInfo → VmInfo) :
    ((store.updateInfo id update).slot id).info = (store.slot id).info.map update := by
  rw [slot_updateInfo, if_pos rfl]

theorem lived_of_missing (missing : slot.live = none) : slot.Lived := fun there => absurd missing there

theorem ran_of_pending (pending : slot.Pending) : slot.Ran := by
  intro info found running
  obtain ⟨_, old, there, notRunning⟩ := pending
  rw [there] at found
  cases found
  exact absurd running notRunning

theorem ran_updateInfo {update : VmInfo → VmInfo}
    (ended : ∀ vm, (update vm).state ≠ .running) : ((store.updateInfo id update).slot id).Ran := by
  intro info found running
  rw [info_updateInfo] at found
  obtain ⟨vm, _, rfl⟩ := map_eq_some_iff.mp found
  exact absurd running (ended vm)

theorem live_letGo (store : Store) (live : VmLiveState) (id : VmId) :
    ((((store.dropForwards live).removeTempDir id).slot id).live = (store.slot id).live) ∧
    ((((store.dropForwards live).removeTempDir id).slot id).info = (store.slot id).info) := by
  rw [slot_removeTempDir, if_pos rfl, slot_dropForwards]
  exact ⟨rfl, rfl⟩

theorem Slot.Lived.of_eq {before after : Slot} (lived : before.Lived)
    (same : after.live = before.live ∧ after.info = before.info) : after.Lived := by
  unfold Slot.Lived
  rw [same.1, same.2]
  exact lived

theorem Slot.Ran.of_eq {before after : Slot} (ran : before.Ran)
    (same : after.live = before.live ∧ after.info = before.info) : after.Ran := by
  unfold Slot.Ran
  rw [same.1, same.2]
  exact ran

theorem Turned.lived (turned : Turned reader store task outcome) (attends : task.Attends store)
    (faithful : task.Faithful store) (before : (store.slot id).Lived ∨ task.announces = some id) :
    (outcome.store.slot id).Lived ∨ outcome.next.bind announces = some id := by
  by_cases touches : task.touches = some id
  · have removed := slot_removed store id
    cases turned with
    | returned mayReturn =>
      refine before.imp_right fun announces => ?_
      rw [(idle_of_mayReturn mayReturn).1] at announces
      cases announces
    | lost id boot missing => exact absurd missing attends.2
    | recorded =>
      cases touches
      exact .inl (lived_of_missing faithful.1)
    | cleared | forgotLive =>
      cases touches
      refine .inl (lived_of_missing ?_)
      rw [slot_dropLive]
      exact removed
    | wasReset | bootFailed | bootLeftDir | tornDown | booted | markedFailed | captured
    | markedStopped =>
      cases touches
      exact .inl (lived_of_missing attends.1)
    | installed =>
      cases touches
      exact .inr rfl
    | announced origin id boot update running =>
      cases touches
      refine .inl fun _ => ?_
      obtain ⟨info, found⟩ := ne_none_iff_exists'.mp attends.2
      refine ⟨update info, ?_, running info⟩
      rw [info_updateInfo, found]
      rfl
    | tookNothing | tookToKill | tookToAsk | claimed | claimedNothing =>
      cases touches
      exact .inl (lived_of_missing removed)
    | joined | notJoined =>
      cases touches
      exact .inl (lived_of_missing ((live_letGo ..).1.trans attends.1))
    | forgotInfo | concluded | ensured =>
      cases touches
      exact .inl (lived_of_missing attends)
    | unwatched =>
      refine before.imp_right fun announces => ?_
      cases announces
    | watched own id live found =>
      cases touches
      rcases before with lived | announces
      · have there : (store.slot id).live = some live := found
        exact .inl fun _ => lived (there ▸ nofun)
      · cases announces
    | joinedOwn | joinFailed =>
      cases touches
      rcases before with lived | announces
      · exact .inl (lived.of_eq (live_letGo ..))
      · cases announces
    | _ => cases touches
  · rw [turned.leaves touches]
    refine before.imp_right fun announces => ?_
    cases task with
    | announce => exact absurd announces touches
    | _ => cases announces

private theorem closes_afterCapture (ending : Ending) (id : VmId) (live : VmLiveState)
    (bytes : List U8) : (afterCapture ending id live bytes).closes = some id := by
  unfold afterCapture
  split
  · rfl
  · rfl

theorem Turned.ran (turned : Turned reader store task outcome) (attends : task.Attends store)
    (before : (store.slot id).Ran ∨ task.closes = some id) :
    (outcome.store.slot id).Ran ∨ outcome.next.bind closes = some id := by
  by_cases touches : task.touches = some id
  · cases turned with
    | returned mayReturn =>
      refine before.imp_right fun closes => ?_
      rw [(idle_of_mayReturn mayReturn).2.1] at closes
      cases closes
    | lost id boot missing => exact absurd missing attends.2
    | recorded origin id config boot names name =>
      cases touches
      refine .inl fun info found running => ?_
      have recorded : (store.vms.insert id (.creating config boot name)).lookup id = some info := found
      rw [lookup_insert] at recorded
      cases recorded
      cases running
    | cleared =>
      cases touches
      refine .inl (ran_of_pending ?_)
      rw [slot_dropLive]
      exact ⟨slot_removed store id, attends.2⟩
    | wasReset | markedFailed | markedStopped | concluded =>
      cases touches
      exact .inl (ran_updateInfo nofun)
    | bootFailed =>
      cases touches
      exact .inl (ran_of_pending attends)
    | bootLeftDir | tornDown | booted =>
      cases touches
      exact .inl (ran_of_pending (pending_of_eq attends rfl rfl))
    | installed =>
      cases touches
      refine .inl fun _ _ _ => ?_
      rw [slot_dropLive, slot_insert_live, if_pos rfl]
      nofun
    | announced =>
      cases touches
      exact .inl fun _ _ _ => attends.1
    | tookToKill =>
      cases touches
      exact .inr (closes_afterCapture ..)
    | tookNothing | tookToAsk | captured | joined | notJoined | claimed =>
      cases touches
      exact .inr rfl
    | forgotInfo =>
      cases touches
      refine .inl fun info found _ => ?_
      have erased : (store.vms.erase id).lookup id = some info := found
      rw [lookup_erase] at erased
      cases erased
    | forgotLive =>
      cases touches
      rcases before with ran | closes
      · refine .inl fun info found running => absurd attends (ran info ?_ running)
        rw [slot_dropLive] at found
        exact found
      · cases closes
    | unwatched =>
      refine before.imp_right fun closes => ?_
      cases closes
    | watched =>
      cases touches
      refine .inl fun _ _ _ => ?_
      rw [slot_insert_live, if_pos rfl]
      nofun
    | claimedNothing own id missing =>
      cases touches
      rcases before with ran | closes
      · exact .inl fun info found running => absurd missing (ran info found running)
      · cases closes
    | ensured =>
      cases touches
      refine .inl (ran_updateInfo fun vm => ?_)
      split
      · nofun
      · assumption
    | joinedOwn | joinFailed =>
      cases touches
      rcases before with ran | closes
      · exact .inl (ran.of_eq (live_letGo ..))
      · cases closes
    | _ => cases touches
  · rw [turned.leaves touches]
    refine before.imp_right fun closes => ?_
    cases turned with
    | accepted => exact closes
    | acceptedUnwatched | refused | completed | channelDropped | waitTimedOut =>
      cases closes
      exact closes_afterCapture ..
    | captured | joined | notJoined | markedStopped | concluded => exact absurd closes touches
    | returned mayReturn =>
      rw [(idle_of_mayReturn mayReturn).2.1] at closes
      cases closes
    | _ => cases closes

/-- A machine that runs and was not asked to stop. -/
def Machine.Loose (machine : Machine) : Prop :=
  machine.state = .running ∧ machine.killFlag = false ∧ machine.asked = false

def Store.Owns (store : Store) (id : VmId) (thread : ThreadId) : Prop :=
  ∃ live, (store.slot id).live = some live ∧ live.thread = thread

theorem Machine.Loose.younger {old new : Machine} (loose : new.Loose) (aged : old.Ages new) :
    old.Loose := by
  obtain ⟨running, notKilled, notAsked⟩ := loose
  refine ⟨aged.state running, ?_, ?_⟩
  · by_contra killed
    rw [aged.killFlag (by simpa using killed)] at notKilled
    cases notKilled
  · by_contra asked
    rw [aged.asked (by simpa using asked)] at notAsked
    cases notAsked

theorem Turned.loose (turned : Turned reader store task outcome) (turn : Turn store task outcome)
    (found : outcome.store.machines.lookup thread = some machine) (loose : machine.Loose) :
    (∃ old, store.machines.lookup thread = some old ∧ old.Loose ∧ old.id = machine.id) ∨
    outcome.next.bind holds = some thread := by
  cases there : store.machines.lookup thread with
  | some old =>
    obtain ⟨new, foundNew, aged⟩ := turn.machines thread old there
    rw [found] at foundNew
    cases foundNew
    exact .inl ⟨old, rfl, loose.younger aged, aged.id.symm⟩
  | none =>
    have tends := turned.tends
    have unchanged : outcome.store.machines.lookup thread = none →
      outcome.next.bind holds = some thread := by
      intro missing
      rw [missing] at found
      cases found
    right
    cases turned with
    | returned | recorded | wasReset | bootFailed | bootLeftDir => exact unchanged there
    | installed => exact unchanged ((tends_dropLive _ _).noMachine thread there)
    | tornDown origin id config boot =>
      have inserted : (store.machines.insert store.nextThread (.torn id boot)).lookup thread =
        some machine := found
      rw [lookup_insert_eq] at inserted
      split at inserted
      · cases inserted
        cases loose.1
      · rw [there] at inserted
        cases inserted
    | booted origin id config boot =>
      have inserted :
        (store.machines.insert store.nextThread (.booted id boot config)).lookup thread =
        some machine := found
      rw [lookup_insert_eq] at inserted
      split at inserted
      next same =>
        rw [same]
        rfl
      · rw [there] at inserted
        cases inserted
    | _ => exact unchanged ((tends rfl).noMachine thread there)

theorem not_loose_updateMachine {update : Machine → Machine}
    (found : (store.updateMachine thread update).machines.lookup thread = some machine)
    (stopped : ∀ machine, ¬ (update machine).Loose) : ¬ machine.Loose := by
  have modified : (store.machines.modify thread update).lookup thread = some machine := found
  rw [lookup_modify, if_pos rfl] at modified
  obtain ⟨old, _, rfl⟩ := map_eq_some_iff.mp modified
  exact stopped old

theorem Store.RunsAs.id_eq (runs : store.RunsAs thread id boot)
    (found : store.machines.lookup thread = some machine) : machine.id = id := by
  obtain ⟨same, there, isId, _⟩ := runs
  rw [found] at there
  cases there
  exact isId

theorem Turned.owned (turned : Turned reader store task outcome) (attends : task.Attends store)
    (faithful : task.Faithful store)
    {old : Machine} (there : store.machines.lookup thread = some old) (wasLoose : old.Loose)
    (found : outcome.store.machines.lookup thread = some machine) (loose : machine.Loose)
    (before : store.Owns old.id thread ∨ task.holds = some thread) :
    outcome.store.Owns old.id thread ∨ outcome.next.bind holds = some thread := by
  -- The entry of the id is not there, so it does not own anything.
  have nobody : ∀ {Goal : Prop}, (store.slot old.id).live = none → task.holds = none → Goal := by
    intro Goal missing idle
    rcases before with ⟨live, isLive, _⟩ | holds
    · rw [missing] at isLive
      cases isLive
    · rw [idle] at holds
      cases holds
  have unmoved : (outcome.store.slot old.id).live = (store.slot old.id).live → task.holds = none →
    outcome.store.Owns old.id thread := by
    intro same idle
    rcases before with owns | holds
    · obtain ⟨live, isLive, onThread⟩ := owns
      exact ⟨live, same.trans isLive, onThread⟩
    · rw [idle] at holds
      cases holds
  have own : ∀ {live}, (store.slot old.id).live = some live → task.holds = none → live.thread = thread := by
    intro live isLive idle
    rcases before with ⟨entry, isEntry, onThread⟩ | holds
    · rw [isLive] at isEntry
      cases isEntry
      exact onThread
    · rw [idle] at holds
      cases holds
  have killed {store : Store} (found : (store.kill thread).machines.lookup thread = some machine) : False :=
    not_loose_updateMachine found (fun _ loose => nomatch loose.2.1) loose
  by_cases touches : task.touches = some old.id
  · cases turned with
    | returned mayReturn => exact .inl (unmoved rfl (idle_of_mayReturn mayReturn).2.2)
    | recorded | lost | wasReset | bootFailed | bootLeftDir | tornDown | booted | announced
    | markedFailed | captured | markedStopped | forgotInfo | unwatched | concluded | ensured =>
      exact .inl (unmoved rfl rfl)
    | joined | notJoined | joinedOwn | joinFailed =>
      cases touches
      exact .inl (unmoved (live_letGo ..).1 rfl)
    | cleared =>
      cases touches
      exact nobody attends.1 rfl
    | forgotLive =>
      cases touches
      exact nobody attends rfl
    | tookNothing ending id missing | claimedNothing own id missing =>
      cases touches
      exact nobody missing rfl
    | installed origin id boot live =>
      cases touches
      rcases before with ⟨entry, isEntry, _⟩ | holds
      · rw [attends.1] at isEntry
        cases isEntry
      · cases holds
        refine .inl ⟨live, ?_, rfl⟩
        rw [slot_dropLive, slot_insert_live, if_pos rfl]
    | tookToKill ending id live bytes isLive =>
      cases touches
      obtain rfl := own isLive rfl
      exact (killed found).elim
    | tookToAsk ending id live isLive =>
      cases touches
      exact .inr (congrArg some (own isLive rfl))
    | watched boot id live isLive =>
      cases touches
      have onThread := own isLive rfl
      refine .inl ⟨{ live with completionRx := false }, ?_, onThread⟩
      rw [slot_insert_live, if_pos rfl]
    | claimed =>
      cases touches
      rcases before with ⟨entry, isEntry, onThread⟩ | holds
      · have ended := attends entry isEntry
        unfold threadState at ended
        rw [onThread, there] at ended
        exact absurd wasLoose.1 ended
      · cases holds
    | _ => cases touches
  · rcases before with owns | holds
    · left
      unfold Owns
      rw [turned.leaves touches]
      exact owns
    · cases turned with
      | installed =>
        cases holds
        have isId := RunsAs.id_eq faithful.2.2.2 there
        exact absurd (congrArg some isId.symm) touches
      | accepted | acceptedUnwatched =>
        cases holds
        exact absurd loose (not_loose_updateMachine found fun _ loose => nomatch loose.2.2)
      | refused =>
        cases holds
        exact (killed found).elim
      | returned mayReturn =>
        rw [(idle_of_mayReturn mayReturn).2.2] at holds
        cases holds
      | _ => cases holds

theorem about_afterCapture (ending : Ending) (id : VmId) (live : VmLiveState) (bytes : List U8) :
    (afterCapture ending id live bytes).boots = none ∧ (afterCapture ending id live bytes).about =
    id :: ending.destroys.toList ∧ (afterCapture ending id live bytes).meets = [] := by
  unfold afterCapture
  split
  · exact ⟨rfl, rfl, rfl⟩
  · exact ⟨rfl, rfl, rfl⟩

/-- A task goes on with ids that it was about or met before, or that are recorded. It boots one
that it has not booted before only if it is a `start` that has decided to. -/
structure Continues (store : Store) (task next : Task) : Prop where
  boots : ∀ id, next.boots = some id → task.boots = some id ∨ task.startsOn = some id
  about : ∀ id ∈ next.about, id ∈ task.about ∨ id ∈ task.meets ∨
    task.startsOn = some id ∧ (store.slot id).info ≠ none
  meets : ∀ id ∈ next.meets, id ∈ task.meets ∨ (store.slot id).info ≠ none

theorem continues_of_subset {next : Task} (noBoot : next.boots = none) (noMeets : next.meets = [])
    (subset : ∀ id ∈ next.about, id ∈ task.about ∨ id ∈ task.meets) : Continues store task next where
  boots id boots := by
    rw [noBoot] at boots
    cases boots
  about id member := (subset id member).imp_right .inl
  meets id member := by
    rw [noMeets] at member
    cases member

theorem continues_boot {next : Task} (boots : task.boots = some id)
    (bootsToo : next.boots = some id) (about : next.about = [id]) (noMeets : next.meets = []) :
    Continues store task next where
  boots other bootsOther := .inl (boots.trans (bootsToo.symm.trans bootsOther))
  about other member := by
    rw [about, mem_singleton] at member
    exact .inl (member ▸ mem_about_of_boots boots)
  meets id member := by
    rw [noMeets] at member
    cases member

theorem continues_afterCapture (bytes : List U8) (about : task.about = id :: ending.destroys.toList) :
    Continues store task (afterCapture ending id live bytes) := by
  obtain ⟨noBoot, same, noMeets⟩ := about_afterCapture ending id live bytes
  refine continues_of_subset noBoot noMeets fun other member => .inl ?_
  rw [about]
  rw [same] at member
  exact member

theorem continues_finish (about : ∀ id ∈ ending.destroys, id ∈ task.about ∨ id ∈ task.meets)
    : ∀ next, ending.destroys.map forgetInfo = some next → Continues store task next := by
  intro next goesOn
  obtain ⟨id, destroys, rfl⟩ := map_eq_some_iff.mp goesOn
  refine continues_of_subset rfl rfl fun other member => ?_
  rw [mem_singleton.mp member]
  exact about id destroys

private theorem continues_fail {origin : Origin} (boots : task.boots = some id) :
    ∀ next, (if origin = .createFromSnapshot then none else some (markFailed id boot)) = some next →
    Continues store task next := by
  intro next goesOn
  split at goesOn
  · cases goesOn
  · cases goesOn
    exact continues_boot boots rfl rfl rfl

theorem Turned.continues (turned : Turned reader store task outcome) :
    ∀ next, outcome.next = some next → Continues store task next := by
  have present : ∀ {input id}, resolveId store.vms input = some id → (store.slot id).info ≠ none :=
    fun found => isSome_iff_ne_none.mp (resolveId_found found).1
  cases turned with
  | returned | lost | announced | markedFailed | forgotConfig | unwatched | joinedOwn | joinFailed
  | ensured => rintro _ ⟨⟩
  | bootFailed | bootLeftDir | tornDown => exact continues_fail rfl
  | recorded | configured | cleared | wasReset | configKept | booted | installed =>
    rintro _ ⟨⟩
    exact continues_boot rfl rfl rfl rfl
  | foundStart =>
    rintro _ ⟨⟩
    exact continues_of_subset rfl rfl fun _ member => nomatch member
  | foundDestroy input id found =>
    rintro _ ⟨⟩
    refine ⟨nofun, fun other member => (nomatch member), fun other member => .inr ?_⟩
    rw [mem_singleton.mp member]
    exact present found
  | decided id existing found =>
    rintro _ ⟨⟩
    refine ⟨?_, fun other member => ?_, nofun⟩
    · rintro _ ⟨⟩
      exact .inr rfl
    · rw [mem_singleton.mp member]
      refine .inr (.inr ⟨rfl, fun missing => ?_⟩)
      have none : store.vms.lookup id = none := missing
      rw [found] at none
      cases none
  | notFound => exact continues_finish fun id destroys => .inr (mem_toList.mpr destroys)
  | endedBefore => exact continues_finish fun other destroys => .inl (mem_toList.mpr destroys)
  | markedStopped => exact continues_finish fun other destroys => .inl (.tail _ (mem_toList.mpr destroys))
  | foundEnd ending input id found =>
    rintro _ ⟨⟩
    refine ⟨nofun, fun other member => .inr (.inl member), fun other member => .inr ?_⟩
    rw [mem_singleton.mp member]
    exact present found
  | checked =>
    rintro _ ⟨⟩
    refine continues_of_subset rfl rfl fun other member => ?_
    rcases mem_cons.mp member with rfl | destroys
    · exact .inr (.head _)
    · exact .inl destroys
  | tookToKill | acceptedUnwatched | refused | completed | channelDropped | waitTimedOut =>
    rintro _ ⟨⟩
    exact continues_afterCapture _ rfl
  | _ =>
    rintro _ ⟨⟩
    exact continues_of_subset rfl rfl fun other member => .inl member

end Turns
end Visor.Backend
