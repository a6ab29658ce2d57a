import Visor.Docker.Containers

/-! A start works on a copy of its container's record. The records and the machines agree as long as
nobody else touches the record in the meantime, and no call of the backend on a machine that exists
fails where the handler would forget the machine. -/

namespace Visor.Docker
open Library Backend Origin KeyedMap List Option False
namespace Stage
def starting : Stage → Option Text
  | .startProbe id _ _ | .startDestroy id _ _ | .startDiscover id _ | .startCreate id _ _
  | .startCopy id _ _ _ _ => some id
  | _ => none

def holds : Stage → Option Text
  | .startCopy _ _ _ vm _ => some vm
  | .removeDestroy vm => some vm
  | _ => none

end Stage

namespace DockerState
variable {rules : ArchiveRules} {state : DockerState}

def Held (state : DockerState) (vm : Text) : Prop :=
  ∃ task stage, state.tasks.lookup task = some stage ∧ stage.holds = some vm

def Starting (state : DockerState) (id : Text) : Prop :=
  state.tasks.entries.any (fun entry => entry.2.starting = some id) = true
deriving Decidable

theorem starting_iff (state : DockerState) (id : Text) : state.Starting id ↔
    ∃ task stage, state.tasks.lookup task = some stage ∧ stage.starting = some id := by
  simp only [Starting, any_entries_iff, decide_eq_true_eq]

def Refers (state : DockerState) (id vm : Text) : Prop :=
  ∃ record, state.containers.lookup id = some record ∧ record.backendId = some vm

/-- The upload reached a guest, or waits in the record of its container while there is one. -/
def Kept (state : DockerState) (archive : PendingArchive) : Target → Prop
  | .guest vm => (vm, archive) ∈ state.delivered
  | .container id =>
    id ∈ state.removed ∨
      (∃ record, state.containers.lookup id = some record ∧ archive ∈ record.pendingArchives) ∨
      ∃ vm, (vm, container id) ∈ state.born ∧ (vm, archive) ∈ state.delivered

/-- The machine of a container has its one record, a removed container has neither record nor machine,
and no container has two machines; a machine that a handler still holds is not counted. -/
structure Agree (state : DockerState) : Prop where
  referenced : ∀ vm origin, (vm, origin) ∈ state.born → origin ≠ .elsewhere →
    (state.vms.lookup vm).isSome = true → ¬ state.Held vm → ∃! id, state.Refers id vm
  removed : ∀ id ∈ state.removed, state.containers.lookup id = none ∧
    ∀ vm, (vm, container id) ∈ state.born → ¬ state.Held vm → state.vms.lookup vm = none
  single : ∀ id one other, (one, container id) ∈ state.born → (other, container id) ∈ state.born →
    (state.vms.lookup one).isSome = true →
    (state.vms.lookup other).isSome = true → ¬ state.Held one → ¬ state.Held other → one = other
  kept : ∀ target archive, (target, archive) ∈ state.accepted → state.Kept archive target

def Works (state : DockerState) (choice : Choice) (vm : Text) : Prop :=
  choice.fails = true → state.vms.lookup vm = none
deriving Decidable

/-- Nobody touches a record that a start has copied; no start is for a stopped machine without a
record; and the backend does not fail where a handler would forget a machine. -/
def Orderly (state : DockerState) : Event → Prop
  | .turn task choice =>
    match state.tasks.lookup task with
    | some (.startFetch _ id) | some (.removeTake id) | some (.uploadPend _ id _ _) => ¬ state.Starting id
    | some (.startProbe _ _ vm) | some (.startCopy _ _ _ vm _) | some (.removeDestroy vm) =>
      state.Works choice vm
    | some .startRecordless =>
      state.get choice choice.vm = none ∨ state.get choice choice.vm = some .running
    | _ => True
  | _ => True

instance (state : DockerState) (event : Event) : Decidable (state.Orderly event) := by
  unfold Orderly
  split
  · split <;> infer_instance
  · infer_instance

def Gone (state : DockerState) (record : DockerContainerRecord) : Prop :=
  ∀ vm, record.backendId = some vm → state.vms.lookup vm = none

def Fits (state : DockerState) : Stage → Prop
  | .startProbe id record vm | .startDestroy id record vm =>
    state.containers.lookup id = some record ∧ record.backendId = some vm
  | .startDiscover id record | .startCreate id record _ =>
    state.containers.lookup id = some record ∧ state.Gone record
  | .startCopy id record _ vm archives =>
    state.containers.lookup id = some record ∧ state.Gone record ∧ (vm, container id) ∈ state.born ∧
      ∃ done, record.pendingArchives = done ++ archives ∧ ∀ archive ∈ done, (vm, archive) ∈ state.delivered
  | .startRecordlessDestroy _ | .startRecordlessCreate => False
  | .uploadFallback vm archive _ => (vm, archive) ∈ state.delivered
  | _ => True

/-- The invariant. Inside a turn there can be loose machines, which no record and no request
has yet or any more. -/
structure Sound (loose : Text → Prop) (state : DockerState) : Prop where
  referred : ∀ id vm, state.Refers id vm → (vm, container id) ∈ state.born
  origin : ∀ vm one other, (vm, one) ∈ state.born → (vm, other) ∈ state.born → one = other
  recorded : ∀ vm, (vm, recordless) ∉ state.born
  known : ∀ id, (state.containers.lookup id).isSome = true → id ∈ state.known
  removed : ∀ id ∈ state.removed, id ∈ state.known ∧ state.containers.lookup id = none
  covered : ∀ vm id, (vm, container id) ∈ state.born → (state.vms.lookup vm).isSome = true →
    state.Refers id vm ∨ state.Held vm ∨ loose vm
  kept : ∀ target archive, (target, archive) ∈ state.accepted → state.Kept archive target
  fits : ∀ task stage, state.tasks.lookup task = some stage → state.Fits stage
  exclusive : ∀ one other stage rival id, state.tasks.lookup one = some stage →
    state.tasks.lookup other = some rival → stage.starting = some id →
      rival.starting = some id → one = other

abbrev Settled (state : DockerState) : Prop := Sound (fun _ => False) state

theorem settled_new : Settled new := by constructor <;> simp [new, Refers]

theorem Sound.agree (settled : Settled state) : Agree state := by
  have refers (vm id : Text) (born : (vm, container id) ∈ state.born)
    (alive : (state.vms.lookup vm).isSome = true) (free : ¬ state.Held vm) :
    state.Refers id vm := (settled.covered vm id born alive).resolve_right (by simpa using free)
  refine ⟨fun vm origin born made alive free => ?_, fun id gone => ?_,
    fun id one other bornOne bornOther aliveOne aliveOther freeOne freeOther => ?_, settled.kept⟩
  · cases origin with
    | elsewhere => exact absurd rfl made
    | recordless => exact absurd born (settled.recorded vm)
    | container id =>
      refine ⟨id, refers vm id born alive free, fun other refersToo => ?_⟩
      exact container.inj (settled.origin vm _ _ (settled.referred other vm refersToo) born)
  · have absent := (settled.removed id gone).2
    refine ⟨absent, fun vm born free => ?_⟩
    by_contra alive
    obtain ⟨record, found, _⟩ := refers vm id born (isSome_iff_ne_none.mpr alive) free
    exact absurd (found.symm.trans absent) (some_ne_none record)
  · obtain ⟨record, found, isOne⟩ := refers one id bornOne aliveOne freeOne
    obtain ⟨_, foundToo, isOther⟩ := refers other id bornOther aliveOther freeOther
    cases found.symm.trans foundToo
    exact some.inj (isOne.symm.trans isOther)

section
variable {loose : Text → Prop} {left : Text → Prop} {id : Text} {before after : Stage}
  {stage : Stage} {task : Nat} {old : DockerContainerRecord} {choice : Choice}

theorem Sound.mono (sound : Sound loose state) (taken : ∀ vm, loose vm → left vm) : Sound left state :=
  { sound with
    covered := fun vm id born alive =>
      (sound.covered vm id born alive).imp_right (Or.imp_right (taken vm)) }

theorem Fits.transfer {next : DockerState} (fits : state.Fits stage)
    (records : ∀ id, stage.starting = some id →
      next.containers.lookup id = state.containers.lookup id)
    (dead : ∀ id vm, state.Refers id vm → state.vms.lookup vm = none → next.vms.lookup vm = none)
    (born : state.born ⊆ next.born) (delivered : state.delivered ⊆ next.delivered) : next.Fits stage := by
  have gone (id : Text) (record : DockerContainerRecord)
    (found : state.containers.lookup id = some record) (gone : state.Gone record) :
    next.Gone record := fun vm isVm => dead id vm ⟨record, found, isVm⟩ (gone vm isVm)
  cases stage with
  | startProbe id | startDestroy id => exact ⟨(records id rfl).trans fits.1, fits.2⟩
  | startDiscover id record | startCreate id record =>
    exact ⟨(records id rfl).trans fits.1, gone id record fits.1 fits.2⟩
  | startCopy id record =>
    obtain ⟨found, isGone, isBorn, done, split, copied⟩ := fits
    exact ⟨(records id rfl).trans found, gone id record found isGone, born isBorn, done, split,
      fun archive mem => delivered (copied archive mem)⟩
  | startRecordlessDestroy | startRecordlessCreate => exact fits
  | uploadFallback => exact delivered fits
  | _ => trivial

theorem Fits.record (fits : state.Fits stage) (starting : stage.starting = some id) :
    ∃ record, state.containers.lookup id = some record := by
  cases stage <;> cases starting <;> exact ⟨_, fits.1⟩

theorem Sound.retask (sound : Sound loose state) (task : Nat) {tasks : KeyedMap Nat Stage}
    (others : ∀ other, other ≠ task → tasks.lookup other = state.tasks.lookup other)
    (fits : ∀ stage, tasks.lookup task = some stage → state.Fits stage)
    (starts : ∀ stage id, tasks.lookup task = some stage → stage.starting = some id →
    (∃ before, state.tasks.lookup task = some before ∧ before.starting = some id) ∨
    ¬ state.Starting id) (released : ∀ before vm, state.tasks.lookup task = some before →
    before.holds = some vm →
    (∃ stage, tasks.lookup task = some stage ∧ stage.holds = some vm) ∨
    state.vms.lookup vm = none ∨ left vm)
    (taken : ∀ vm, loose vm → (∃ stage, tasks.lookup task = some stage ∧ stage.holds = some vm) ∨
    left vm) : Sound left { state with tasks := tasks } where
  __ := sound
  covered vm id born alive := by
    rcases sound.covered vm id born alive with refers | ⟨other, stage, found, holds⟩ | isLoose
    · exact .inl refers
    · by_cases same : other = task
      · subst same
        rcases released stage vm found holds with ⟨next, foundNext, stillHolds⟩ | dead | isLeft
        · exact .inr (.inl ⟨other, next, foundNext, stillHolds⟩)
        · rw [dead] at alive
          cases alive
        · exact .inr (.inr isLeft)
      · exact .inr (.inl ⟨other, stage, (others other same).trans found, holds⟩)
    · rcases taken vm isLoose with ⟨next, foundNext, holds⟩ | isLeft
      · exact .inr (.inl ⟨task, next, foundNext, holds⟩)
      · exact .inr (.inr isLeft)
  fits other stage found := by
    by_cases same : other = task
    · subst same
      exact fits stage found
    · exact sound.fits other stage ((others other same).symm.trans found)
  exclusive one other stage rival id found foundToo starting startingToo := by
    -- a start that begins now is the only one of its container
    have before (task' : Nat) (stage' : Stage) (found' : tasks.lookup task' = some stage')
      (starting' : stage'.starting = some id) (other' : task' ≠ task) :
      state.tasks.lookup task' = some stage' ∧ state.Starting id := by
      have was := (others task' other').symm.trans found'
      exact ⟨was, (starting_iff state id).mpr ⟨task', stage', was, starting'⟩⟩
    by_cases isOne : one = task
    · by_cases isOther : other = task
      · rw [isOne, isOther]
      · obtain ⟨was, occupied⟩ := before other rival foundToo startingToo isOther
        subst isOne
        rcases starts stage id found starting with ⟨_, wasToo, startingBefore⟩ | free
        · exact sound.exclusive one other _ _ id wasToo was startingBefore startingToo
        · exact absurd occupied free
    · obtain ⟨was, occupied⟩ := before one stage found starting isOne
      by_cases isOther : other = task
      · subst isOther
        rcases starts rival id foundToo startingToo with ⟨_, wasToo, startingBefore⟩ | free
        · exact sound.exclusive one other _ _ id was wasToo starting startingBefore
        · exact absurd occupied free
      · exact sound.exclusive one other _ _ id was
          (before other rival foundToo startingToo isOther).1 starting startingToo

section
variable (sound : Sound loose state) (found : state.tasks.lookup task = some before)
include sound found

theorem Sound.goto (fits : state.Fits after)
    (starts : ∀ id, after.starting = some id → before.starting = some id ∨ ¬ state.Starting id)
    (released : ∀ vm, before.holds = some vm → after.holds = some vm ∨ state.vms.lookup vm = none ∨
      left vm) (taken : ∀ vm, loose vm → after.holds = some vm ∨ left vm) : Sound left
    (state.goto task after) := by
  have own : (state.tasks.insert task after).lookup task = some after := by simp
  refine sound.retask task (fun other differ => by simp [differ]) (fun stage isStage => ?_)
    (fun stage id isStage starting => ?_) (fun stage vm isStage holds => ?_) (fun vm isLoose => ?_)
  · cases own.symm.trans isStage
    exact fits
  · cases own.symm.trans isStage
    exact (starts id starting).imp_left fun startedBefore => ⟨before, found, startedBefore⟩
  · cases found.symm.trans isStage
    exact (released vm holds).imp_left fun still => ⟨after, own, still⟩
  · exact (taken vm isLoose).imp_left fun holds => ⟨after, own, holds⟩

theorem Sound.finish (released : ∀ vm, before.holds = some vm → state.vms.lookup vm = none ∨
      left vm) (taken : ∀ vm, loose vm → left vm) : Sound left (state.finish task) := by
  have own : (state.tasks.erase task).lookup task = none := by simp
  refine sound.retask task (fun other differ => by simp [differ]) (fun stage isStage => ?_)
    (fun stage id isStage => ?_) (fun stage vm isStage holds => ?_)
    (fun vm isLoose => .inr (taken vm isLoose))
  · cases own.symm.trans isStage
  · cases own.symm.trans isStage
  · cases found.symm.trans isStage
    exact .inr (released vm holds)

end

theorem Sound.destroyVm (sound : Sound loose state) (vm : Text) : Sound loose (state.destroyVm vm) :=
  { sound with
    covered := fun other id born alive => by
      simp only [DockerState.destroyVm, lookup_erase_eq] at alive
      split at alive
      · cases alive
      · exact sound.covered other id born alive
    fits := fun task stage found => by
      refine (sound.fits task stage found).transfer (fun _ _ => rfl) (fun id other _ dead => ?_)
        (List.Subset.refl _) (List.Subset.refl _)
      simp only [DockerState.destroyVm, lookup_erase_eq, dead, ite_self] }

private theorem lookup_setVm (state : DockerState) (vm other : Text) (vmState : VmState) :
    ((state.setVm vm vmState).vms.lookup other).isSome = (state.vms.lookup other).isSome := by
  simp only [setVm, lookup_modify]
  split
  next same =>
    rw [same, isSome_map]
  · rfl

theorem Sound.setVm (sound : Sound loose state) (vm : Text) (vmState : VmState) :
    Sound loose (state.setVm vm vmState) :=
  { sound with
    covered := fun other id born alive =>
      sound.covered other id born ((lookup_setVm state vm other vmState).symm.trans alive)
    fits := fun task stage found => by
      refine (sound.fits task stage found).transfer (fun _ _ => rfl) (fun id other _ dead => ?_)
        (List.Subset.refl _) (List.Subset.refl _)
      have same := lookup_setVm state vm other vmState
      rw [dead] at same
      exact not_isSome_iff_eq_none.mp (by rw [same]; decide) }

theorem Sound.bear (settled : Settled state) {vm : Text} {vmState : VmState} {origin : Origin}
    (unused : state.fresh vm = true) (made : origin ≠ .recordless) :
    Sound (fun other => other = vm ∧ origin ≠ .elsewhere) (state.bear vm vmState origin) := by
  have unborn (other : Origin) : (vm, other) ∉ state.born := by
    intro mem
    simpa using all_eq_true.mp unused _ mem
  refine ⟨fun id other refers => .tail _ (settled.referred id other refers),
    fun other one second mem memToo => ?_, fun other mem => ?_, settled.known, settled.removed,
    fun other id mem alive => ?_, fun target archive mem => ?_, fun task stage found => ?_,
      settled.exclusive⟩
  · rcases mem_cons.mp mem with same | old
    · cases same
      rcases mem_cons.mp memToo with same | oldToo
      · cases same
        rfl
      · exact absurd oldToo (unborn second)
    · rcases mem_cons.mp memToo with same | oldToo
      · cases same
        exact absurd old (unborn one)
      · exact settled.origin other one second old oldToo
  · rcases mem_cons.mp mem with same | old
    · cases same
      exact made rfl
    · exact settled.recorded other old
  · by_cases same : other = vm
    · rcases mem_cons.mp mem with isNew | old
      · cases isNew
        exact .inr (.inr ⟨rfl, nofun⟩)
      · exact absurd (same ▸ old) (unborn _)
    · simp only [DockerState.bear, lookup_insert_eq, same, if_false] at alive
      have old : (other, container id) ∈ state.born := by
        rcases mem_cons.mp mem with isNew | old
        · cases isNew
          exact absurd rfl same
        · exact old
      rcases settled.covered other id old alive with refers | held | no
      · exact .inl refers
      · exact .inr (.inl held)
      · exact no.elim
  · have before := settled.kept target archive mem
    cases target with
    | guest => exact before
    | container =>
      exact before.imp_right (Or.imp_right fun ⟨other, born, copied⟩ => ⟨other, .tail _ born, copied⟩)
  · refine (settled.fits task stage found).transfer (fun _ _ => rfl)
      (fun id other refers dead => ?_) (subset_cons_self _ _) (List.Subset.refl _)
    have differ : other ≠ vm := by
      rintro rfl
      exact unborn _ (settled.referred id other refers)
    simp only [DockerState.bear, lookup_insert_eq, differ, if_false, dead]

section
variable (sound : Sound loose state)
include sound

theorem Sound.deliver (vm : Text) (archive : PendingArchive) : Sound loose (state.deliver vm archive) :=
  { sound with
    kept := fun target upload mem => by
      have before := sound.kept target upload mem
      cases target with
      | guest other => exact .tail _ before
      | container id =>
        exact before.imp_right (Or.imp_right fun ⟨other, born, copied⟩ => ⟨other, born, .tail _ copied⟩)
    fits := fun task stage found =>
      (sound.fits task stage found).transfer (fun _ _ => rfl) (fun _ _ _ dead => dead)
        (List.Subset.refl _) (subset_cons_self _ _) }

theorem Sound.accept (target : Target) {archive : PendingArchive}
    (kept : state.Kept archive target) : Sound loose (state.accept target archive) :=
  { sound with
    kept := fun other upload mem => by
      rcases mem_cons.mp mem with same | old
      · cases same
        exact kept
      · exact sound.kept other upload old
    fits := fun task stage found =>
      (sound.fits task stage found).transfer (fun _ _ => rfl) (fun _ _ _ dead => dead)
        (List.Subset.refl _) (List.Subset.refl _) }

theorem Sound.recontain {id : Text} {containers : KeyedMap Text DockerContainerRecord}
    {known removed : List Text}
    (others : ∀ name, name ≠ id → containers.lookup name = state.containers.lookup name)
    (knows : state.known ⊆ known) (knowsNew : id ∈ known)
    (removes : ∀ name ∈ removed, name ∈ state.removed ∧ name ≠ id ∨
    name = id ∧ containers.lookup id = none) (stays : state.removed ⊆ removed)
    (free : ∀ task stage, state.tasks.lookup task = some stage → stage.starting ≠ some id)
    (referred : ∀ record vm, containers.lookup id = some record → record.backendId = some vm →
    (vm, container id) ∈ state.born)
    (covered : ∀ vm, state.Refers id vm → (state.vms.lookup vm).isSome = true →
    (∃ record, containers.lookup id = some record ∧ record.backendId = some vm) ∨ state.Held vm ∨
    left vm) (taken : ∀ vm, loose vm →
    (∃ record, containers.lookup id = some record ∧ record.backendId = some vm) ∨ left vm)
    (kept : ∀ archive old, state.containers.lookup id = some old → archive ∈ old.pendingArchives →
    id ∈ removed ∨
    (∃ record, containers.lookup id = some record ∧ archive ∈ record.pendingArchives) ∨
    ∃ vm, (vm, container id) ∈ state.born ∧ (vm, archive) ∈ state.delivered) :
    Sound left { state with containers := containers, known := known, removed := removed } := by
  refine ⟨fun name vm ⟨entry, entryFound, isVm⟩ => ?_, sound.origin, sound.recorded,
    fun name there => ?_, fun name gone => ?_, fun vm name born alive => ?_,
    fun target upload mem => ?_, fun task stage runs => ?_, sound.exclusive⟩
  · by_cases isId : name = id
    · subst isId
      exact referred entry vm entryFound isVm
    · exact sound.referred name vm ⟨entry, (others name isId).symm.trans entryFound, isVm⟩
  · by_cases isId : name = id
    · exact isId ▸ knowsNew
    · exact knows (sound.known name (others name isId ▸ there))
  · rcases removes name gone with ⟨before, isOther⟩ | ⟨rfl, absent⟩
    · obtain ⟨isKnown, absent⟩ := sound.removed name before
      exact ⟨knows isKnown, (others name isOther).trans absent⟩
    · exact ⟨knowsNew, absent⟩
  · rcases sound.covered vm name born alive with ⟨entry, entryFound, isVm⟩ | held | isLoose
    · by_cases isId : name = id
      · subst isId
        exact covered vm ⟨entry, entryFound, isVm⟩ alive
      · exact .inl ⟨entry, (others name isId).trans entryFound, isVm⟩
    · exact .inr (.inl held)
    · rcases taken vm isLoose with ⟨record, found, isVm⟩ | isLeft
      · have owner : name = id := container.inj (sound.origin vm _ _ born (referred record vm found isVm))
        exact .inl ⟨record, owner ▸ found, isVm⟩
      · exact .inr (.inr isLeft)
  · have before := sound.kept target upload mem
    cases target with
    | guest vm => exact before
    | container name =>
      rcases before with gone | ⟨entry, entryFound, pending⟩ | copied
      · exact .inl (stays gone)
      · by_cases isId : name = id
        · subst isId
          exact kept upload entry entryFound pending
        · exact .inr (.inl ⟨entry, (others name isId).trans entryFound, pending⟩)
      · exact .inr (.inr copied)
  · refine (sound.fits task stage runs).transfer (fun name starting => ?_) (fun _ _ _ dead => dead)
      (List.Subset.refl _) (List.Subset.refl _)
    refine others name ?_
    rintro rfl
    exact free task stage runs starting

end

theorem not_starting (free : ¬ state.Starting id) (task : Nat) (stage : Stage)
    (runs : state.tasks.lookup task = some stage) : stage.starting ≠ some id :=
  fun starting => free ((starting_iff state id).mpr ⟨task, stage, runs, starting⟩)

theorem Sound.setRecord (sound : Sound loose state) (record : DockerContainerRecord)
    (found : state.containers.lookup id = some old) (free : ¬ state.Starting id)
    (referred : ∀ vm, record.backendId = some vm → (vm, container id) ∈ state.born)
    (moved : ∀ vm, old.backendId = some vm → record.backendId = some vm ∨
      state.vms.lookup vm = none)
    (archives : ∀ archive ∈ old.pendingArchives, archive ∈ record.pendingArchives ∨
      ∃ vm, (vm, container id) ∈ state.born ∧ (vm, archive) ∈ state.delivered)
    (taken : ∀ vm, loose vm → record.backendId = some vm ∨ left vm) :
    Sound left (state.setRecord id record) := by
  have same : (state.containers.insert id record).lookup id = some record := by simp
  refine sound.recontain (fun name differ => by simp [differ]) (List.Subset.refl _)
    (sound.known id (by rw [found]; rfl)) (fun name gone => .inl ⟨gone, ?_⟩) (List.Subset.refl _)
    (not_starting free) (fun entry vm entryFound => ?_) (fun vm ⟨entry, entryFound, isVm⟩ alive => ?_)
    (fun vm isLoose => (taken vm isLoose).imp_left fun isVm => ⟨record, same, isVm⟩)
    (fun archive entry entryFound pending => ?_)
  · rintro rfl
    cases (sound.removed name gone).2.symm.trans found
  · cases same.symm.trans entryFound
    exact referred vm
  · cases found.symm.trans entryFound
    rcases moved vm isVm with still | dead
    · exact .inl ⟨record, same, still⟩
    · exact absurd dead (isSome_iff_ne_none.mp alive)
  · cases found.symm.trans entryFound
    exact .inr ((archives archive pending).imp_left fun still => ⟨record, same, still⟩)

theorem Sound.dropRecord (sound : Sound loose state) (found : state.containers.lookup id = some old)
    (free : ¬ state.Starting id) (held : ∀ vm, old.backendId = some vm → state.Held vm) :
    Sound loose (state.dropRecord id) := by
  have absent : (state.containers.erase id).lookup id = none := by simp
  refine sound.recontain (fun name differ => by simp [differ]) (List.Subset.refl _)
    (sound.known id (by rw [found]; rfl)) (fun name gone => ?_) (subset_cons_self _ _)
    (not_starting free) (fun entry vm entryFound => ?_) (fun vm ⟨entry, entryFound, isVm⟩ _ => ?_)
    (fun vm isLoose => .inr isLoose) (fun _ _ _ _ => .inl mem_cons_self)
  · by_cases isId : name = id
    · exact .inr ⟨isId, absent⟩
    · exact .inl ⟨(mem_cons.mp gone).resolve_left isId, isId⟩
  · cases absent.symm.trans entryFound
  · cases found.symm.trans entryFound
    exact .inr (.inl (held vm isVm))

theorem Sound.create (settled : Settled state) (id : Text) (request : ContainerCreateRequest)
    (name : Option Text) : Settled (state.containerCreate id request name) := by
  unfold containerCreate
  split
  · exact settled
  next config _ =>
    split
    · exact settled
    next unknown =>
      have absent : state.containers.lookup id = none := by
        by_contra there
        exact unknown (settled.known id (isSome_iff_ne_none.mpr there))
      have same : (state.containers.insert id ⟨none, config, []⟩).lookup id =
        some ⟨none, config, []⟩ := by simp
      refine settled.recontain (fun owner differ => by simp [DockerState.setRecord, differ])
        (subset_cons_self _ _)
        mem_cons_self (fun owner gone => .inl ⟨gone, ?_⟩) (List.Subset.refl _)
        (fun task stage runs starting => ?_) (fun entry vm entryFound isVm => ?_)
        (fun vm ⟨entry, found, _⟩ => ?_) (fun _ => elim) (fun archive entry found => ?_)
      · rintro rfl
        exact unknown (settled.removed owner gone).1
      · obtain ⟨entry, found⟩ := (settled.fits task stage runs).record starting
        cases absent.symm.trans found
      · cases same.symm.trans entryFound
        cases isVm
      · cases absent.symm.trans found
      · cases absent.symm.trans found

section
variable (settled : Settled state) (found : state.tasks.lookup task = some before)
include settled found

theorem Sound.goOn (empty : before.holds = none) (fits : state.Fits after)
    (starts : ∀ id, after.starting = some id → before.starting = some id ∨ ¬ state.Starting id) :
    Settled (state.goto task after) :=
  settled.goto found fits starts (fun vm holds => by rw [empty] at holds; cases holds)
    (fun _ => elim)

theorem Sound.close (released : ∀ vm, before.holds = some vm → state.vms.lookup vm = none) :
    Settled (state.finish task) :=
  settled.finish found (fun vm holds => .inl (released vm holds)) (fun _ => elim)

end

theorem get_eq_none {vm : Text} (works : state.Works choice vm)
    (fails : state.get choice vm = none) : state.vms.lookup vm = none := by
  unfold get at fails
  split at fails
  next failed =>
    exact works failed
  · exact fails

theorem starting_of_finish (starts : (state.finish task).Starting id) : state.Starting id := by
  rw [starting_iff] at starts ⊢
  obtain ⟨other, stage, runs, starting⟩ := starts
  simp only [finish, lookup_erase_eq] at runs
  split at runs
  · cases runs
  · exact ⟨other, stage, runs, starting⟩

theorem starting_of_goto (starts : (state.goto task after).Starting id)
    (idle : after.starting = none) : state.Starting id := by
  rw [starting_iff] at starts ⊢
  obtain ⟨other, stage, runs, starting⟩ := starts
  simp only [goto, lookup_insert_eq] at runs
  split at runs
  · cases runs
    rw [idle] at starting
    cases starting
  · exact ⟨other, stage, runs, starting⟩

theorem Sound.free_finish (settled : Settled state) (found : state.tasks.lookup task = some stage)
    (starting : stage.starting = some id) : ¬ (state.finish task).Starting id := by
  rw [starting_iff]
  rintro ⟨other, rival, runs, startingToo⟩
  simp only [DockerState.finish, lookup_erase_eq] at runs
  split at runs
  · cases runs
  next differ =>
    exact differ (settled.exclusive other task rival stage id runs found startingToo starting)

section
variable (settled : Settled state) {task : Nat} {choice : Choice} {stage : Stage}
  (found : state.tasks.lookup task = some stage)
include settled found

theorem Sound.startTurn (orderly : state.Orderly (.turn task choice)) :
    Settled (state.startTurn task choice stage) := by
  have fits := settled.fits task stage found
  simp only [Orderly, found] at orderly
  fun_cases DockerState.startTurn state task choice stage with
  | case1 id record vm fails =>
    refine settled.goOn found rfl ⟨fits.1, fun other isVm => ?_⟩ fun _ same => .inl same
    cases fits.2.symm.trans isVm
    exact get_eq_none orderly fails
  | case3 | case6 => exact settled.goOn found rfl fits fun _ same => .inl same
  | case5 id record vm =>
    refine (settled.destroyVm vm).goOn found rfl ⟨fits.1, fun other isVm => ?_⟩ fun _ same => .inl same
    cases fits.2.symm.trans isVm
    simp [DockerState.destroyVm]
  | case8 id record config works =>
    have unused : state.fresh choice.vm = true := by simp_all
    have born : Sound _ (state.bear choice.vm .running (.container id)) := settled.bear unused nofun
    have fits := born.fits task _ found
    refine born.goto found ⟨fits.1, fits.2, mem_cons_self, [], rfl, nofun⟩ (fun _ same => .inl same)
      nofun fun vm isLoose => ?_
    exact .inl (congrArg some isLoose.1.symm)
  | case9 _ _ _ _ _ _ fails =>
    refine settled.close found fun other holds => ?_
    cases holds
    exact get_eq_none orderly fails
  | case10 id record config vm archive =>
    obtain ⟨isRecord, gone, born, done, split, copied⟩ := fits
    refine (settled.deliver vm archive).goto found
      ⟨isRecord, gone, born, done ++ [archive], by simp [split], fun upload mem => ?_⟩
      (fun _ same => .inl same) (fun _ holds => .inl holds) (fun _ => elim)
    rcases mem_append.mp mem with old | new
    · exact .tail _ (copied upload old)
    · cases mem_singleton.mp new
      exact mem_cons_self
  | case11 id record config vm =>
    obtain ⟨isRecord, gone, born, done, split, copied⟩ := fits
    have closed : Sound (· = vm) (state.finish task) :=
      settled.finish found (fun other holds => .inr (some.inj holds).symm) fun _ => elim
    refine closed.setRecord ⟨some vm, config, []⟩ isRecord
      (settled.free_finish found rfl) (fun other isVm => ?_)
      (fun other isOld => .inr (gone other isOld)) (fun archive mem => ?_) (fun other isVm => ?_)
    · cases isVm
      exact born
    · rw [split, append_nil] at mem
      exact .inr ⟨vm, born, copied archive mem⟩
    · exact .inl (congrArg some isVm.symm)
  | case12 => exact settled
  | _ => exact settled.close found nofun

theorem Sound.openTurn (orderly : state.Orderly (.turn task choice)) :
    Settled (state.openTurn task choice stage) := by
  have fits := settled.fits task stage found
  simp only [Orderly, found] at orderly
  fun_cases DockerState.openTurn state task choice stage with
  | case1 | case2 | case3 => exact settled.goOn found rfl trivial nofun
  | case4 _ id _ isRecord vm isVm =>
    exact settled.goOn found rfl ⟨isRecord, isVm⟩ fun name isId => .inr (some.inj isId ▸ orderly)
  | case5 _ id _ isRecord noVm =>
    refine settled.goOn found rfl ⟨isRecord, fun vm isVm => ?_⟩ fun name isId =>
      .inr (some.inj isId ▸ orderly)
    cases noVm.symm.trans isVm
  | case6 | case7 => exact settled.close found nofun
  | case8 _ notRunning stopped =>
    rcases orderly with none | running
    · exact absurd (stopped.symm.trans none) (some_ne_none _)
    · exact absurd (some.inj (stopped.symm.trans running)) notRunning
  | case13 => exact settled
  | _ => exact fits.elim

theorem Sound.stopTurn : Settled (state.stopTurn task choice stage) := by
  fun_cases DockerState.stopTurn state task choice stage with
  | case1 | case2 | case3 | case5 | case7 => exact settled.goOn found rfl trivial nofun
  | case4 | case6 | case8 => exact settled.close found nofun
  | case9 => exact (settled.setVm _ .stopped).close found nofun
  | case10 => exact settled

theorem Sound.removeTurn (orderly : state.Orderly (.turn task choice)) :
    Settled (state.removeTurn task choice stage) := by
  simp only [Orderly, found] at orderly
  fun_cases DockerState.removeTurn state task choice stage with
  | case1 | case2 | case3 | case11 => exact settled.goOn found rfl trivial nofun
  | case4 id record isRecord noVm =>
    refine (settled.close found nofun).dropRecord isRecord
      (fun starts => orderly (starting_of_finish starts)) fun vm isVm => ?_
    cases noVm.symm.trans isVm
  | case5 id record isRecord vm isVm =>
    have holding : Settled (state.goto task (.removeDestroy vm)) := settled.goOn found rfl trivial nofun
    refine holding.dropRecord isRecord (fun starts => orderly (starting_of_goto starts rfl))
      fun other isOther => ?_
    cases isVm.symm.trans isOther
    exact ⟨task, .removeDestroy vm, by simp [DockerState.goto], rfl⟩
  | case6 vm fails =>
    refine settled.close found fun other holds => ?_
    cases holds
    exact get_eq_none orderly fails
  | case7 vm =>
    refine (settled.destroyVm vm).close found fun other holds => ?_
    cases holds
    simp [DockerState.destroyVm]
  | case8 | case10 => exact settled.close found nofun
  | case9 vm => exact (settled.destroyVm vm).close found nofun
  | case12 => exact settled

end

theorem pendArchive_spec (rules : ArchiveRules) (record : DockerContainerRecord)
    (archive : PendingArchive) (overrides : Bool) :
    (pendArchive rules record archive overrides).1.config = record.config ∧
    (pendArchive rules record archive overrides).1.backendId = record.backendId ∧
    record.pendingArchives ⊆ (pendArchive rules record archive overrides).1.pendingArchives ∧
    archive ∈ (pendArchive rules record archive overrides).1.pendingArchives := by
  unfold pendArchive
  split
  · split <;> simp
  · simp

section
variable (settled : Settled state)
include settled

theorem Sound.pend {logicalId : Text} {archive : PendingArchive} {overrides succeeds : Bool}
    {record after : DockerContainerRecord}
    (found : state.tasks.lookup task = some (.uploadPend id logicalId archive overrides))
    (free : ¬ state.Starting logicalId) (isRecord : state.containers.lookup logicalId = some record)
    (pends : pendArchive rules record archive overrides = (after, succeeds)) :
    Settled ((state.setRecord logicalId after).finish task) ∧ archive ∈ after.pendingArchives := by
  obtain ⟨_, sameVm, archives, own⟩ := pendArchive_spec rules record archive overrides
  rw [pends] at sameVm archives own
  refine ⟨(settled.close found nofun).setRecord after isRecord
    (fun starts => free (starting_of_finish starts)) (fun vm isVm => ?_)
    (fun vm isVm => .inl (sameVm.trans isVm)) (fun upload mem => .inl (archives mem))
    (fun _ => elim), own⟩
  exact settled.referred logicalId vm ⟨record, isRecord, sameVm.symm.trans isVm⟩

theorem Sound.uploadTurn (found : state.tasks.lookup task = some stage)
    (orderly : state.Orderly (.turn task choice)) : Settled (state.uploadTurn rules task choice stage) := by
  have fits := settled.fits task stage found
  simp only [Orderly, found] at orderly
  fun_cases DockerState.uploadTurn rules state task choice stage with
  | case1 | case2 | case4 | case7 | case8 | case9 | case11 | case13 | case15 =>
    exact settled.goOn found rfl trivial nofun
  | case5 _ logicalId _ _ _ isRecord _ _ _ pends =>
    obtain ⟨pended, own⟩ := settled.pend found orderly isRecord pends
    refine pended.accept (.container logicalId) (.inr (.inl ⟨_, ?_, own⟩))
    simp [DockerState.setRecord, DockerState.finish]
  | case6 _ _ _ _ _ isRecord _ _ _ pends => exact (settled.pend found orderly isRecord pends).1
  | case17 vm archive => exact (settled.deliver vm archive).close found nofun
  | case18 vm archive => exact (settled.deliver vm archive).goOn found rfl mem_cons_self nofun
  | case19 vm archive =>
    exact ((settled.deliver vm archive).accept (.guest vm) mem_cons_self).close found nofun
  | case21 vm archive fallback =>
    exact ((settled.deliver vm fallback).accept (.guest vm) (.tail _ fits)).close found nofun
  | case22 => exact settled
  | _ => exact settled.close found nofun

theorem Sound.turn (orderly : state.Orderly (.turn task choice)) :
    Settled (state.turn rules task choice) := by
  unfold DockerState.turn
  split
  · exact settled
  next stage found =>
    split
    iterate 5 exact settled.startTurn found orderly
    iterate 5 exact settled.openTurn found orderly
    iterate 4 exact settled.stopTurn found
    iterate 5 exact settled.removeTurn found orderly
    iterate 8 exact settled.uploadTurn found orderly

theorem Sound.request {request : Request} (isFirst : request.stage rules = some stage)
    (unused : state.tasks.lookup task = none) : Settled (state.goto task stage) := by
  have opening : state.Fits stage ∧ stage.starting = none := by
    cases request with
    | start | stop | remove =>
      cases isFirst
      exact ⟨trivial, rfl⟩
    | upload =>
      obtain ⟨overrides, _, rfl⟩ := map_eq_some_iff.mp isFirst
      exact ⟨trivial, rfl⟩
  have own : (state.tasks.insert task stage).lookup task = some stage := by simp
  refine settled.retask task (fun other differ => by simp [differ]) (fun next isNext => ?_)
    (fun next id isNext starting => ?_) (fun before vm found => ?_) (fun _ => elim)
  · cases own.symm.trans isNext
    exact opening.1
  · cases own.symm.trans isNext
    exact absurd (opening.2.symm.trans starting) (some_ne_none id).symm
  · exact absurd (unused.symm.trans found) (some_ne_none before).symm

theorem Sound.step (event : Event) (orderly : state.Orderly event) : Settled (state.step rules event) := by
  cases event with
  | create id request name => exact settled.create id request name
  | request =>
    simp only [DockerState.step]
    split
    · exact settled
    next unused =>
      split
      · exact settled
      next stage isFirst =>
        exact settled.request isFirst (by simpa using unused)
  | turn => exact settled.turn orderly
  | appears vm vmState =>
    simp only [DockerState.step]
    split
    next unused =>
      have born : Sound _ (state.bear vm vmState .elsewhere) := settled.bear unused nofun
      exact born.mono fun _ isLoose => isLoose.2 rfl
    · exact settled
  | vanishes vm => exact settled.destroyVm vm
  | changes vm vmState => exact settled.setVm vm vmState

end
end

def plainRules : ArchiveRules where
  needsResolvOverride _ := some false
  fallbackResolvConf := none

def works (vm : String) : Choice where
  fails := false
  vm := vm.toList
  hosts := []
  order := []

def fails : Choice where
  fails := true
  vm := []
  hosts := []
  order := []

def web : Text := "web".toList

def etcHosts : PendingArchive where
  dest := "/etc".toList
  data := [1]

def createWeb : Event := .create web (isolatedRequest [] []) none

/-- A container with an upload is started, its machine stops by itself, and it is started again
and removed. -/
def orderlyLife : List Event :=
  [createWeb, .request 0 (.upload web etcHosts), .turn 0 (works ""), .turn 0 (works ""),
    .request 0 (.start web), .turn 0 (works ""), .turn 0 (works ""), .turn 0 (works ""),
    .turn 0 (works "a"), .turn 0 (works ""), .turn 0 (works ""), .changes "a".toList .stopped,
    .request 1 (.start web), .turn 1 (works ""), .turn 1 (works ""), .turn 1 (works ""),
    .turn 1 (works ""), .turn 1 (works ""), .turn 1 (works "b"), .turn 1 (works ""),
    .request 2 (.remove web), .turn 2 (works ""), .turn 2 (works ""), .turn 2 (works "")]

/-- Two starts that both copied the record before either wrote it back. -/
def concurrentStarts : List Event :=
  [createWeb, .request 0 (.start web), .request 1 (.start web), .turn 0 (works ""),
    .turn 1 (works ""), .turn 0 (works ""), .turn 1 (works ""), .turn 0 (works ""),
    .turn 1 (works ""), .turn 0 (works "a"), .turn 1 (works "b"), .turn 0 (works ""), .turn 1 (works "")]

/-- The container is removed between the copy and the write of a start. -/
def removedDuringStart : List Event :=
  [createWeb, .request 0 (.start web), .turn 0 (works ""), .turn 0 (works ""), .turn 0 (works ""),
    .request 1 (.remove web), .turn 1 (works ""), .turn 1 (works ""), .turn 0 (works "a"),
      .turn 0 (works "")]

/-- An archive is uploaded between the copy and the write of a start. -/
def uploadDuringStart : List Event :=
  [createWeb, .request 0 (.start web), .turn 0 (works ""), .turn 0 (works ""), .turn 0 (works ""),
    .request 1 (.upload web etcHosts), .turn 1 (works ""), .turn 1 (works ""), .turn 0 (works "a"),
      .turn 0 (works "")]

def failedCopy : List Event :=
  [createWeb, .request 0 (.upload web etcHosts), .turn 0 (works ""), .turn 0 (works ""),
    .request 0 (.start web), .turn 0 (works ""), .turn 0 (works ""), .turn 0 (works ""),
      .turn 0 (works "a"), .turn 0 fails]

private theorem not_held_of_idle (state : DockerState) (idle : state.tasks.entries = []) (vm : Text) :
    ¬ state.Held vm := by
  rintro ⟨task, stage, found, _⟩
  have mem := (mem_entries_iff _ _ _).mpr found
  rw [idle] at mem
  cases mem

end DockerState
end Visor.Docker
