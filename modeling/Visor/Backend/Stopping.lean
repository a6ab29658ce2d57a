import Visor.Backend.Incarnations
import Visor.Backend.Ledger

/-! When a `stop` returns, the thread that it took has its kill flag set or is known to have ended
in all but one case: the agent has accepted the shutdown, the receiver of the completion message is
with the monitor, and the join has timed out before the monitor got the message. -/

namespace Visor.Backend
open Library Store Backend.System Stop KeyedMap MonitorVmCompletion

/-- The thread was seen to end, or its kill flag is set. -/
def Store.Noticed (store : Store) (thread : ThreadId) : Prop :=
  ∃ machine, store.machines.lookup thread = some machine ∧
    (machine.observed = true ∨ machine.killFlag = true)

def Task.awaits : Task → Option ThreadId
  | .awaiting _ _ rx => some rx
  | _ => none

section Notices
variable {reader : SerialReader} {store : Store} {task : Task} {outcome : Outcome}
  {thread : ThreadId}

theorem noticed_updateMachine_other {other : ThreadId} (apart : thread ≠ other)
    (update : Machine → Machine) :
    (store.updateMachine other update).Noticed thread ↔ store.Noticed thread := by
  unfold Noticed updateMachine
  rw [lookup_modify, if_neg apart]

theorem noticed_updateMachine_same {other : ThreadId} {update : Machine → Machine}
    (same : ∀ machine, (update machine).observed = machine.observed ∧ (update machine).killFlag =
      machine.killFlag) : (store.updateMachine other update).Noticed thread ↔ store.Noticed thread := by
  by_cases isThread : thread = other
  · subst isThread
    unfold Noticed updateMachine
    rw [lookup_modify, if_pos rfl]
    cases store.machines.lookup thread with
    | none => exact Iff.rfl
    | some machine =>
      constructor
      · rintro ⟨_, ⟨⟩, flags⟩
        exact ⟨machine, rfl, (same machine).1 ▸ (same machine).2 ▸ flags⟩
      · rintro ⟨_, ⟨⟩, flags⟩
        refine ⟨update machine, rfl, ?_⟩
        rw [(same machine).1, (same machine).2]
        exact flags
  · exact noticed_updateMachine_other isThread update

theorem noticed_dropForwards (live : VmLiveState) :
    (store.dropForwards live).Noticed thread ↔ store.Noticed thread := by
  unfold dropForwards
  split
  · exact noticed_updateMachine_same fun _ => ⟨rfl, rfl⟩
  · exact Iff.rfl

theorem noticed_dropLive (live : Option VmLiveState) :
    (store.dropLive live).Noticed thread ↔ store.Noticed thread := by
  cases live with
  | none => exact Iff.rfl
  | some live => exact noticed_dropForwards live

private theorem noticed_spawnMachine (id : VmId) (boot : BootId) (machine : Machine)
    (started : thread ≠ store.nextThread) :
    (Boot.spawnMachine store id boot machine).Noticed thread ↔ store.Noticed thread := by
  unfold Noticed Boot.spawnMachine
  rw [lookup_insert_eq, if_neg started]

theorem Turned.noticed_iff (turned : Turned reader store task outcome)
    (started : thread ≠ store.nextThread) (noHandle : task.carries ≠ some thread)
    (noEntry : ∀ id live, store.liveVms.lookup id = some live → live.thread ≠ thread)
    (noReceiver : task.awaits ≠ some thread) : outcome.store.Noticed thread ↔ store.Noticed thread := by
  have away : ∀ {other}, task.carries = some other → thread ≠ other :=
    fun carries same => noHandle (same ▸ carries)
  cases turned with
  | tornDown | booted => exact noticed_spawnMachine _ _ _ started
  | cleared | installed | forgotLive => exact noticed_dropLive _
  | tookToKill ending id live bytes found =>
    exact noticed_updateMachine_other (Ne.symm (noEntry id live found)) _
  | accepted | acceptedUnwatched => exact noticed_updateMachine_same fun _ => ⟨rfl, rfl⟩
  | refused | completed | waitTimedOut => exact noticed_updateMachine_other (away rfl) _
  | joined ending id live | joinedOwn own id live =>
    refine (noticed_dropForwards live).trans ?_
    exact noticed_updateMachine_other (away rfl) _
  | notJoined ending id live | joinFailed own id live => exact noticed_dropForwards live
  | woke own id rx =>
    have otherRx : thread ≠ rx := by
      rintro rfl
      exact noReceiver rfl
    exact noticed_updateMachine_other otherRx _
  | _ => exact Iff.rfl

section
variable (ending : Ending) (id : VmId) (thread : ThreadId)

/-- A `stop` that has taken the entry of the thread. -/
inductive Stops : Task → Prop where
  | asking {live : VmLiveState} (onThread : live.thread = thread) : Stops (.asking ending id live)
  | waiting {live : VmLiveState} (onThread : live.thread = thread) : Stops (.waiting ending id live)
  | capturing {live : VmLiveState} (bytes : List U8) (onThread : live.thread = thread) :
    Stops (.capturing ending id live bytes)
  | joining {live : VmLiveState} (onThread : live.thread = thread) : Stops (.joining ending id live)
  | marking : Stops (.markStopped ending id)

end

/-- The answers with which a `stop` sets the kill flag or sees the thread end. -/
def Answer.tells : Answer → Bool
  | .shutdown .refused | .shutdown .timedOut | .waited .completed | .waited .timedOut
  | .joined .joined => true
  | _ => false

theorem noticed_kill (there : (store.machines.lookup thread).isSome = true) :
    (store.kill thread).Noticed thread := by
  obtain ⟨machine, found⟩ := Option.isSome_iff_exists.mp there
  refine ⟨{ machine with killFlag := true }, ?_, .inr rfl⟩
  show (store.machines.modify thread _).lookup thread = _
  rw [lookup_modify, if_pos rfl, found]
  rfl

theorem noticed_observe (there : (store.machines.lookup thread).isSome = true) :
    (store.observe thread).Noticed thread := by
  obtain ⟨machine, found⟩ := Option.isSome_iff_exists.mp there
  refine ⟨{ machine with observed := true }, ?_, .inl rfl⟩
  show (store.machines.modify thread _).lookup thread = _
  rw [lookup_modify, if_pos rfl, found]
  rfl

variable {ending : Ending} {id : VmId} {live : VmLiveState} {answer : Answer}

theorem stops_afterCapture (bytes : List U8) (onThread : live.thread = thread) :
    Stops ending id thread (afterCapture ending id live bytes) := by
  unfold afterCapture
  split
  · exact .joining onThread
  · exact .capturing bytes onThread

/-- A turn of the `stop` that goes on, and what it tells about the thread. -/
structure StopTurn (ending : Ending) (id : VmId) (thread : ThreadId) (store : Store)
    (answer : Answer) (outcome : Outcome) : Prop where
  goesOn : ∃ next, outcome.next = some next ∧ Stops ending id thread next
  noticed : outcome.store.Noticed thread ↔ store.Noticed thread ∨ answer.tells = true

section
variable {after : Store} {next : Task} {spawned : Option Task} (stops : Stops ending id thread next)
include stops

theorem stopTurn_quiet (same : after.Noticed thread ↔ store.Noticed thread)
    (untold : answer.tells = false) :
    StopTurn ending id thread store answer ⟨after, some next, spawned⟩ where
  goesOn := ⟨next, rfl, stops⟩
  noticed := by
    rw [untold]
    exact same.trans (by simp)

theorem stopTurn_told (noticed : after.Noticed thread) (told : answer.tells = true) :
    StopTurn ending id thread store answer ⟨after, some next, spawned⟩ where
  goesOn := ⟨next, rfl, stops⟩
  noticed := iff_of_true noticed (.inr told)

end

section
variable (there : (store.machines.lookup live.thread).isSome = true)
include there

theorem asking_stopTurn {reply : ShutdownAnswer}
    (ran : asking store ending id live reply = some outcome) :
    StopTurn ending id live.thread store (.shutdown reply) outcome := by
  cases reply with
  | accepted =>
    have same : (store.updateMachine live.thread ({ · with asked := true })).Noticed live.thread ↔
      store.Noticed live.thread := noticed_updateMachine_same fun _ => ⟨rfl, rfl⟩
    unfold asking at ran
    dsimp only at ran
    split at ran
    · cases ran
      exact stopTurn_quiet (.waiting rfl) same rfl
    · cases ran
      exact stopTurn_quiet (stops_afterCapture _ rfl) same rfl
  | refused | timedOut =>
    cases ran
    exact stopTurn_told (stops_afterCapture _ rfl) (noticed_kill there) rfl

theorem waiting_stopTurn {reply : WaitAnswer}
    (ran : waiting store ending id live reply = some outcome) :
    StopTurn ending id live.thread store (.waited reply) outcome := by
  unfold waiting at ran
  split at ran
  · cases reply with
    | completed =>
      cases ran
      exact stopTurn_told (stops_afterCapture _ rfl) (noticed_observe there) rfl
    | dropped =>
      cases ran
      exact stopTurn_quiet (stops_afterCapture _ rfl) Iff.rfl rfl
    | timedOut =>
      cases ran
      exact stopTurn_told (stops_afterCapture _ rfl) (noticed_kill there) rfl
  · cases ran

theorem joining_stopTurn {reply : JoinAnswer}
    (ran : joining store ending id live reply = some outcome) :
    StopTurn ending id live.thread store (.joined reply) outcome := by
  unfold joining at ran
  split at ran
  · cases reply with
    | joined =>
      cases ran
      exact stopTurn_told .marking ((noticed_dropForwards live).mpr (noticed_observe there)) rfl
    | failed | timedOut =>
      cases ran
      exact stopTurn_quiet .marking (noticed_dropForwards live) rfl
  · cases ran

end

theorem Stops.turn (stops : Stops ending id thread task) (going : task ≠ .markStopped ending id)
    (there : (store.machines.lookup thread).isSome = true)
    (ran : task.advance reader store answer = some outcome) :
    StopTurn ending id thread store answer outcome := by
  cases stops with
  | asking onThread =>
    subst onThread
    cases answer with
    | shutdown => exact asking_stopTurn there ran
    | _ => cases ran
  | waiting onThread =>
    subst onThread
    cases answer with
    | waited => exact waiting_stopTurn there ran
    | _ => cases ran
  | capturing bytes onThread =>
    cases answer with
    | locked =>
      cases ran
      exact stopTurn_quiet (.joining onThread) Iff.rfl rfl
    | _ => cases ran
  | joining onThread =>
    subst onThread
    cases answer with
    | joined => exact joining_stopTurn there ran
    | _ => cases ran
  | marking => exact absurd rfl going

end Notices

variable (reader : SerialReader) (ending : Ending) {live : VmLiveState}

/-- The `stop` is told that it may go on without the flag or with it set, or a monitor gets the
completion message. -/
def tells (number : Nat) (thread : ThreadId) (system : System) : Event → Bool
  | .resume other answer =>
    match system.tasks.lookup other with
    | none => false
    | some task => (task.advance reader system.store answer).isSome &&
      (other = number && answer.tells || task.awaits = some thread && answer = .waited .completed)
  | _ => false

/-- A `stop` has taken the thread, and nobody else holds it. -/
structure Session (number : Nat) (ending : Ending) (id : VmId) (thread : ThreadId)
    (system : System) : Prop where
  ledger : Ledger system
  stops : ∃ task, system.tasks.lookup number = some task ∧ Stops ending id thread task
  there : (system.store.machines.lookup thread).isSome = true
  noEntry : ∀ other live, system.store.liveVms.lookup other = some live → live.thread ≠ thread
  noHandle : ∀ other task, other ≠ number → system.tasks.lookup other = some task →
    task.carries ≠ some thread

/-- The `stop` has returned, or a `destroy` goes on after it. -/
structure Over (number : Nat) (system : System) : Prop where
  older : number < system.nextTask
  forgets : ∀ task, system.tasks.lookup number = some task → ∃ id, task = .forgetInfo id ∨
    task = .forgetLive id ∨ task = .forgetConfig id

section Steps
variable {reader : SerialReader} {number : Nat} {ending : Ending} {id : VmId} {thread : ThreadId}
  {system : System}

section
variable (gone : Over number system)
include gone

theorem Over.spawn (task : Task) : Over number (system.spawn task) where
  older := Nat.lt_succ_of_lt gone.older
  forgets other found :=
    gone.forgets other ((lookup_spawn found).resolve_left fun isNew => Nat.ne_of_lt gone.older isNew.1)

theorem Over.settle_other {other : Nat} (outcome : Outcome) (apart : number ≠ other) :
    Over number (system.settle other outcome) := by
  have replaced : Over number (system.replace other outcome) := by
    refine ⟨gone.older, fun task found => gone.forgets task ?_⟩
    rw [← lookup_replace_other system outcome apart, found]
  unfold settle
  split
  · exact replaced.spawn _
  · exact replaced

theorem Over.settle_own {task : Task} {outcome : Outcome} (found : system.tasks.lookup number = some task)
    (turned : Turned reader system.store task outcome) : Over number (system.settle number outcome) := by
  have settled : outcome.spawned = none ∧ ∀ next, outcome.next = some next →
    ∃ id, next = .forgetInfo id ∨ next = .forgetLive id ∨ next = .forgetConfig id := by
    obtain ⟨id, rfl | rfl | rfl⟩ := gone.forgets task found
    · cases turned with
      | returned => exact ⟨rfl, by rintro _ ⟨⟩⟩
      | forgotInfo =>
        refine ⟨rfl, ?_⟩
        rintro _ ⟨⟩
        exact ⟨id, .inr (.inl rfl)⟩
    · cases turned with
      | returned mayReturn => cases mayReturn
      | forgotLive =>
        refine ⟨rfl, ?_⟩
        rintro _ ⟨⟩
        exact ⟨id, .inr (.inr rfl)⟩
    · cases turned with
      | returned mayReturn => cases mayReturn
      | forgotConfig => exact ⟨rfl, by rintro _ ⟨⟩⟩
  unfold settle
  rw [settled.1]
  refine ⟨gone.older, fun next there => settled.2 next ?_⟩
  rw [← lookup_replace_self system number outcome, there]

theorem Over.step (event : Event) : Over number (system.step reader event) := by
  cases event with
  | call request =>
    show Over number (system.call request)
    rcases call_cases system request with same | ⟨boot, drawn, task, opens, _, _, spawned⟩
    · rw [same]
      exact gone
    · rw [spawned]
      have drawing : Over number { system with
        store := { system.store with nextBoot := boot }
        drawn := drawn } := ⟨gone.older, gone.forgets⟩
      exact drawing.spawn task
  | resume other answer =>
    show Over number (system.resume reader other answer)
    rcases resume_cases reader system other answer with same | ⟨task, outcome, found, ran, _, result⟩
    · rw [same]
      exact gone
    · rw [result]
      by_cases own : number = other
      · subst own
        exact gone.settle_own found (Task.turned ran)
      · exact gone.settle_other outcome own
  | prints | exits | panics => exact ⟨gone.older, gone.forgets⟩

theorem Over.run (events : List Event) : Over number (run (System.step reader) system events) :=
  stable_run (Over number) events (fun _ event gone => gone.step event) gone

end

namespace Session
section
variable (session : Session number ending id thread system) {outcome : Outcome}
include session

theorem older : number < system.nextTask := by
  obtain ⟨task, found, _⟩ := session.stops
  exact session.ledger.tasks number task found

theorem started : thread ≠ system.store.nextThread :=
  Nat.ne_of_lt (session.ledger.numbered thread session.there)

variable {task : Task}

theorem spawn (nothing : task.carries = none) : Session number ending id thread (system.spawn task) where
  ledger := session.ledger.spawn nothing
  stops := by
    obtain ⟨stopping, found, stops⟩ := session.stops
    refine ⟨stopping, ?_, stops⟩
    rw [lookup_spawn_of_ne task (Nat.ne_of_lt session.older), found]
  there := session.there
  noEntry := session.noEntry
  noHandle other rest apart found := by
    rcases lookup_spawn found with ⟨_, rfl⟩ | before
    · rw [nothing]
      nofun
    · exact session.noHandle other rest apart before

theorem call (request : Request) : Session number ending id thread (system.call request) ∧
    ((system.call request).store.Noticed thread ↔ system.store.Noticed thread) := by
  rcases call_cases system request with same | ⟨boot, drawn, task, opens, _, _, spawned⟩
  · rw [same]
    exact ⟨session, Iff.rfl⟩
  · rw [spawned]
    have drawing : Session number ending id thread { system with
      store := { system.store with nextBoot := boot }
      drawn := drawn } := { session with ledger := { session.ledger with } }
    exact ⟨drawing.spawn (Task.carries_of_opens opens), Iff.rfl⟩

theorem settle_other {other : Nat} (apart : number ≠ other)
    (found : system.tasks.lookup other = some task)
    (turned : Turned reader system.store task outcome) :
    Session number ending id thread (system.settle other outcome) := by
  have moves := turned.moves
  have noHandle := session.noHandle other task (Ne.symm apart) found
  have replaced : Session number ending id thread (system.replace other outcome) := by
    refine ⟨session.ledger.replace found moves, ?_, moves.machines thread session.there, ?_, ?_⟩
    · obtain ⟨stopping, there, stops⟩ := session.stops
      refine ⟨stopping, ?_, stops⟩
      rw [lookup_replace_other system outcome apart, there]
    · rintro key live isLive rfl
      rcases moves.entries key live isLive with ⟨old, isOld, onThread⟩ | ⟨origin, boot, rfl, _⟩
      · exact session.noEntry key old isOld onThread
      · exact noHandle rfl
    · intro rest restTask isRest there carries
      rcases lookup_replace there with ⟨_, before⟩ | ⟨_, isNext⟩
      · exact session.noHandle rest restTask isRest before carries
      · have goesOn : outcome.next.bind Task.carries = some thread := by
          rw [isNext]
          exact carries
        rcases moves.next thread goesOn with same | ⟨key, live, isLive, onThread, _⟩ | new
        · exact noHandle same
        · exact session.noEntry key live isLive onThread
        · exact session.started new.1
  unfold settle
  split
  next monitor isSpawned =>
    obtain ⟨_, _, _, _, rfl, _⟩ := turned.spawns monitor isSpawned
    exact replaced.spawn rfl
  · exact replaced

theorem settle_own {answer : Answer} (found : system.tasks.lookup number = some task)
    (stops : Stops ending id thread task)
    (ran : task.advance reader system.store answer = some outcome) :
    Session number ending id thread (system.settle number outcome) ∧
    (outcome.store.Noticed thread ↔ system.store.Noticed thread ∨ answer.tells = true) ∨
    Over number (system.settle number outcome) := by
  have turned := Task.turned ran
  have moves := turned.moves
  have alone : system.settle number outcome = system.replace number outcome := by
    unfold settle
    split
    next monitor isSpawned =>
      obtain ⟨_, _, _, rfl, _⟩ := turned.spawns monitor isSpawned
      cases stops
    · rfl
  rw [alone]
  by_cases marking : task = .markStopped ending id
  · subst marking
    refine .inr ⟨session.older, fun next there => ?_⟩
    rw [lookup_replace_self] at there
    cases turned with
    | returned mayReturn => cases mayReturn
    | markedStopped =>
      obtain ⟨forgotten, _, rfl⟩ := Option.map_eq_some_iff.mp there
      exact ⟨forgotten, .inl rfl⟩
  · obtain ⟨⟨next, isNext, stopsOn⟩, noticed⟩ := stops.turn marking session.there ran
    refine .inl ⟨⟨session.ledger.replace found moves, ⟨next, ?_, stopsOn⟩,
      moves.machines thread session.there, ?_, fun rest restTask isRest there => ?_⟩, noticed⟩
    · rw [lookup_replace_self, isNext]
    · rintro key live isLive rfl
      rcases moves.entries key live isLive with ⟨old, isOld, onThread⟩ | ⟨_, _, rfl, _⟩
      · exact session.noEntry key old isOld onThread
      · cases stops
    · rw [lookup_replace_other system outcome isRest] at there
      exact session.noHandle rest restTask isRest there

theorem noticed_other {other : Nat} {answer : Answer} (apart : number ≠ other)
    (found : system.tasks.lookup other = some task)
    (ran : task.advance reader system.store answer = some outcome) :
    outcome.store.Noticed thread ↔ system.store.Noticed thread ∨ task.awaits = some thread ∧
    answer = .waited .completed := by
  by_cases awaits : task.awaits = some thread
  · cases task with
    | awaiting own key =>
      cases awaits
      cases answer with
      | waited reply =>
        have piece : awaiting system.store own key thread reply = some outcome := ran
        unfold awaiting at piece
        cases reply with
        | completed =>
          dsimp only at piece
          split at piece
          · cases piece
            exact iff_of_true (noticed_observe session.there) (.inr ⟨rfl, rfl⟩)
          · cases piece
        | dropped =>
          dsimp only at piece
          split at piece
          · cases piece
            exact ⟨.inl, fun either => either.resolve_right fun received => nomatch received.2⟩
          · cases piece
        | timedOut => cases ran
      | _ => cases ran
    | _ => cases awaits
  · have noHandle := session.noHandle other task (Ne.symm apart) found
    refine ((Task.turned ran).noticed_iff session.started noHandle session.noEntry awaits).trans ?_
    exact ⟨.inl, fun either => either.resolve_right fun received => awaits received.1⟩

end

variable {task : Task}

theorem awaits_of_stops (stops : Stops ending id thread task) : task.awaits = none := by cases stops <;> rfl

theorem needsVms_of_tells {answer : Answer} {outcome : Outcome}
    (stops : Stops ending id thread task) (told : answer.tells = true)
    (ran : task.advance reader system.store answer = some outcome) : task.needsVms = false := by
  cases stops with
  | capturing | marking =>
    cases answer with
    | locked => cases told
    | _ => cases ran
  | _ => rfl

theorem tells_of_ran {other : Nat} {answer : Answer} {outcome : Outcome}
    (found : system.tasks.lookup other = some task)
    (ran : task.advance reader system.store answer = some outcome) :
    tells reader number thread system (.resume other answer) = true ↔ other = number ∧
    answer.tells = true ∨ task.awaits = some thread ∧ answer = .waited .completed := by
  unfold tells
  dsimp only
  rw [found]
  dsimp only
  rw [ran]
  simp

section
variable (session : Session number ending id thread system)
include session

private theorem not_tells_of_refused {other : Nat} {answer : Answer}
    (refused : ∀ task outcome, system.tasks.lookup other = some task →
      task.advance reader system.store answer = some outcome → task.needsVms = true) : tells reader
    number thread system (.resume other answer) ≠ true := by
  intro told
  cases found : system.tasks.lookup other with
  | none => simp [tells, found] at told
  | some task =>
    cases ran : task.advance reader system.store answer with
    | none => simp [tells, found, ran] at told
    | some outcome =>
      have needs := refused task outcome found ran
      rcases (tells_of_ran found ran).mp told with ⟨rfl, tellsIt⟩ | ⟨awaits, _⟩
      · obtain ⟨stopping, there, stops⟩ := session.stops
        rw [found] at there
        cases there
        rw [needsVms_of_tells stops tellsIt ran] at needs
        cases needs
      · cases task with
        | awaiting => cases needs
        | _ => cases awaits

theorem resume (other : Nat) (answer : Answer) :
    Session number ending id thread (system.resume reader other answer) ∧
    ((system.resume reader other answer).store.Noticed thread ↔ system.store.Noticed thread ∨
      tells reader number thread system (.resume other answer) = true) ∨
    Over number (system.resume reader other answer) := by
  have unchanged : (∀ task outcome, system.tasks.lookup other = some task →
    task.advance reader system.store answer = some outcome → task.needsVms = true) →
    (system.store.Noticed thread ↔ system.store.Noticed thread ∨
      tells reader number thread system (.resume other answer) = true) := fun refused =>
    ⟨.inl, fun either => either.resolve_right (session.not_tells_of_refused refused)⟩
  unfold System.resume
  cases found : system.tasks.lookup other with
  | none =>
    refine .inl ⟨session, unchanged fun task outcome there => ?_⟩
    rw [found] at there
    cases there
  | some task =>
    dsimp only
    split
    next held =>
      refine .inl ⟨session, unchanged fun same outcome there _ => ?_⟩
      rw [found] at there
      cases there
      exact (Bool.and_eq_true_iff.mp held).1
    · cases ran : task.advance reader system.store answer with
      | none =>
        refine .inl ⟨session, unchanged fun same outcome there ranSame => ?_⟩
        rw [found] at there
        cases there
        rw [ran] at ranSame
        cases ranSame
      | some =>
        rw [settle_store, tells_of_ran found ran]
        by_cases own : number = other
        · subst own
          obtain ⟨stopping, there, stops⟩ := session.stops
          rw [found] at there
          cases there
          refine (session.settle_own found stops ran).imp_left fun ⟨kept, noticed⟩ =>
            ⟨kept, noticed.trans ?_⟩
          rw [awaits_of_stops stops]
          simp
        · refine .inl
            ⟨session.settle_other own found (Task.turned ran),
            (session.noticed_other own found ran).trans ?_⟩
          simp [Ne.symm own]

theorem step (reader : SerialReader) (event : Event) :
    Session number ending id thread (system.step reader event) ∧
    ((system.step reader event).store.Noticed thread ↔ system.store.Noticed thread ∨
      tells reader number thread system event = true) ∨ Over number (system.step reader event) := by
  have aging : ∀ other (update : Machine → Machine),
    system.store.Tends (system.whileRunning other update).store →
    (∀ machine : Machine, (update machine).observed = machine.observed ∧
      (update machine).killFlag = machine.killFlag) →
    Session number ending id thread (system.whileRunning other update) ∧
      ((system.whileRunning other update).store.Noticed thread ↔ system.store.Noticed thread ∨
        false = true) := by
    intro other update tends same
    refine ⟨{ session with
      ledger := session.ledger.store_tends tends rfl
      there := (isSome_machine_iff tends thread).mpr session.there }, ?_⟩
    refine (noticed_updateMachine_same fun machine => ?_).trans (by simp)
    split
    · exact same machine
    · exact ⟨rfl, rfl⟩
  cases event with
  | call request =>
    obtain ⟨kept, noticed⟩ := session.call request
    exact .inl ⟨kept, noticed.trans ⟨.inl, fun either => either.resolve_right nofun⟩⟩
  | resume other answer => exact session.resume other answer
  | prints other bytes => exact .inl (aging _ _ (system.tends_prints other bytes) fun _ => ⟨rfl, rfl⟩)
  | exits other | panics other => exact .inl (aging _ _ (system.tends_ends other nofun) fun _ => ⟨rfl, rfl⟩)

theorem run (events : List Event)
    (finish : (run (System.step reader) system events).tasks.lookup number =
      some (.markStopped ending id)) :
    (Library.run (System.step reader) system events).store.Noticed thread ↔
    system.store.Noticed thread ∨
    Sometime (System.step reader)
    (fun system event => tells reader number thread system event = true) system events := by
  induction events generalizing system with
  | nil => simp [Sometime]
  | cons event rest ih =>
    rcases session.step reader event with ⟨kept, noticed⟩ | gone
    · refine (ih kept finish).trans ?_
      rw [noticed, or_assoc]
      rfl
    · obtain ⟨forgotten, ended | ended | ended⟩ := (gone.run rest).forgets _ finish
      · cases ended
      · cases ended
      · cases ended

end
end Session
end Steps

/-- The agent of the guest is not asked. -/
def Ending.Forced : Prop := ending.timeoutSecs = none ∨ ending.timeoutSecs = some 0

instance : Decidable ending.Forced := inferInstanceAs (Decidable (_ ∨ _))

private theorem takeLive_eq {store : Store} {id : VmId} (entry : store.liveVms.lookup id = some live) :
    takeLive store ending id =
    if ending.Forced then capture ((store.removeLive id).2.kill live.thread) ending id live
    else (store.removeLive id).2.goto (.asking ending id live) := by
  obtain ⟨timeoutSecs, destroys⟩ := ending
  unfold takeLive removeLive
  rw [entry]
  cases timeoutSecs with
  | none => rfl
  | some => simp [Ending.Forced]

private theorem session_takeLive {system : System} {number : Nat} {ending : Ending} {id : VmId}
    (ledger : Ledger system) (start : system.tasks.lookup number = some (.takeLive ending id))
    (entry : system.store.liveVms.lookup id = some live) :
    Session number ending id live.thread (system.resume reader number .locked) ∧
    ((system.resume reader number .locked).store.Noticed live.thread ↔
      system.store.Noticed live.thread ∨ ending.Forced) := by
  have there := ledger.entries id live entry
  obtain ⟨after, next, ran, gone, stops, noticed⟩ :
    ∃ after next, (Task.takeLive ending id).advance reader system.store .locked =
    some ⟨after, some next, none⟩ ∧ after.liveVms.lookup id = none ∧
      Stops ending id live.thread next ∧
      (after.Noticed live.thread ↔ system.store.Noticed live.thread ∨ ending.Forced) := by
    by_cases forced : ending.Forced
    · refine ⟨_, _, (takeLive_eq ending entry).trans (if_pos forced), AList.lookup_erase _ _,
        stops_afterCapture _ rfl, ?_⟩
      exact iff_of_true (noticed_kill there) (.inr forced)
    · refine ⟨_, _, (takeLive_eq ending entry).trans (if_neg forced), AList.lookup_erase _ _,
        .asking rfl, ?_⟩
      exact ⟨.inl, fun either => either.resolve_right forced⟩
  have resumed : system.resume reader number .locked = system.replace number ⟨after, some next, none⟩ := by
    unfold System.resume
    rw [start]
    dsimp only
    rw [ran]
    rfl
  have moves := (Task.turned ran).moves
  rw [resumed]
  refine ⟨⟨ledger.replace start moves, ⟨next, ?_, stops⟩, moves.machines _ there, ?_,
    fun other rest apart found => ?_⟩, noticed⟩
  · rw [lookup_replace_self]
  · intro key other isOther sameThread
    rcases moves.entries key other isOther with ⟨old, isOld, onThread⟩ | ⟨_, _, impossible, _⟩
    · have isId := ledger.sole key id old live isOld entry (onThread.trans sameThread)
      subst isId
      have missing : after.liveVms.lookup key = some other := isOther
      rw [gone] at missing
      cases missing
    · cases impossible
  · rw [lookup_replace_other system _ apart] at found
    exact ledger.apart id live other rest entry found

/-- When a `stop` that has taken an entry is about to return, the thread has its kill flag set or
was seen to end if and only if that was so before, the agent was not asked, the agent has not
accepted in time, the wait for the completion message has seen it or timed out, the join has ended,
or the monitor has got the message by then. -/
theorem stop_noticed_iff {before after : List Event} {number : Nat} {ending : Ending} {id : VmId}
    (start : (run (System.step reader) .empty before).tasks.lookup number =
      some (.takeLive ending id))
    (entry : (run (System.step reader) .empty before).store.liveVms.lookup id = some live)
    (finish : (run (System.step reader) .empty
      (before ++ .resume number .locked :: after)).tasks.lookup number =
      some (.markStopped ending id)) :
    (run (System.step reader) .empty (before ++ .resume number .locked :: after)).store.Noticed
    live.thread ↔ (run (System.step reader) .empty before).store.Noticed live.thread ∨
    ending.Forced ∨
    Sometime (System.step reader)
    (fun system event => tells reader number live.thread system event = true)
    (run (System.step reader) .empty (before ++ [.resume number .locked])) after := by
  obtain ⟨session, noticed⟩ := session_takeLive reader (ledger_run reader before) start entry
  rw [run_append, run_cons] at finish ⊢
  rw [run_append, run_cons, run_nil]
  refine (session.run after finish).trans ?_
  rw [← or_assoc]
  exact or_congr_left noticed

def beginStopA : List Event := createA ++ [.call (.stop ['a'] 10), .resume 2 .locked, .resume 2 .locked]

/-- The agent refuses, so the kill flag is set, although the join times out. -/
theorem refused_stop_noticed :
    (run (System.step plainReader) .empty beginStopA).tasks.lookup 2 =
    some (.takeLive ⟨some 10, none⟩ ['a']) ∧
    (run (System.step plainReader) .empty beginStopA).store.liveVms.lookup ['a'] =
    some ⟨3, 0, false, false, 0⟩ ∧
    (run (System.step plainReader) .empty
      (beginStopA ++ .resume 2 .locked ::
      [.resume 2 (.shutdown .refused), .resume 2 (.joined .timedOut)])).tasks.lookup 2 =
    some (.markStopped ⟨some 10, none⟩ ['a']) ∧
    (run (System.step plainReader) .empty
      (beginStopA ++ .resume 2 .locked ::
      [.resume 2 (.shutdown .refused), .resume 2 (.joined .timedOut)])).store.Noticed 0 := by
  have start : (run (System.step plainReader) .empty beginStopA).tasks.lookup 2 =
    some (.takeLive ⟨some 10, none⟩ ['a']) := by decide +kernel
  have entry : (run (System.step plainReader) .empty beginStopA).store.liveVms.lookup ['a'] =
    some ⟨3, 0, false, false, 0⟩ := by decide +kernel
  have finish : (run (System.step plainReader) .empty (beginStopA ++ .resume 2 .locked ::
    [.resume 2 (.shutdown .refused), .resume 2 (.joined .timedOut)])).tasks.lookup 2 =
      some (.markStopped ⟨some 10, none⟩ ['a']) := by decide +kernel
  refine ⟨start, entry, finish, (stop_noticed_iff plainReader start entry finish).mpr ?_⟩
  exact .inr (.inr (by decide +kernel))

/-- The agent accepts, but the thread goes on, and the join times out: the `stop` has returned, and
the machine is recorded as stopped. -/
theorem accepted_stop_unnoticed :
    (run (System.step plainReader) .empty (createA ++ stopA)).tasks.lookup 2 = none ∧
    ((run (System.step plainReader) .empty (createA ++ stopA)).store.vms.lookup ['a']).map
    VmInfo.state = some .stopped ∧
    (run (System.step plainReader) .empty (createA ++ stopA)).store.threadState 0 = .running ∧
    ¬ (run (System.step plainReader) .empty (createA ++ stopA)).store.Noticed 0 := by
  refine ⟨by decide +kernel, by decide +kernel, by decide +kernel, ?_⟩
  rintro ⟨machine, found, noticed⟩
  have isMachine : (run (System.step plainReader) .empty (createA ++ stopA)).store.machines.lookup 0 =
    some ⟨['a'], 0, .running, false, true, false, [], false⟩ := by decide +kernel
  cases found
  rcases noticed with observed | killed
  · cases observed
  · cases killed

end Visor.Backend
