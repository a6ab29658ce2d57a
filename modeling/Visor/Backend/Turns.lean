import Visor.Backend.Tasks

/-! Every turn of a task is one of those listed here. The invariants of the backend are proved by
going through this list. -/

namespace Visor.Backend
open Library

/-- Tasks that may return without having changed anything in their last turn. -/
def Task.mayReturn : Task → Bool
  | .record .. | .resolveStart _ | .readExisting _ | .readConfig .. | .resetInfo ..
  | .resolveDestroy _ | .forgetInfo _ => true
  | _ => false

section
variable (reader : SerialReader) (store : Store)

inductive Turned : Task → Outcome → Prop where
  | returned {task : Task} (mayReturn : task.mayReturn = true) : Turned task ⟨store, none, none⟩
  | recorded (origin : Origin) (id : VmId) (config : VmConfig) (boot : BootId) (names : List Text)
    (name : Text) :
      Turned (.record origin id config boot names)
      ⟨{ store with vms := store.vms.insert id (.creating config boot name) },
      some (.keepConfig origin id config boot), none⟩
  | foundStart (input : Text) (id : VmId) (found : resolveId store.vms input = some id) :
    Turned (.resolveStart input) ⟨store, some (.readExisting id), none⟩
  | decided (id : VmId) (existing : VmInfo) (found : store.vms.lookup id = some existing)
    (ended : existing.state = .stopped ∨ existing.state = .failed) :
    Turned (.readExisting id) ⟨store, some (.readConfig id existing), none⟩
  | configured (id : VmId) (existing : VmInfo) (config : VmConfig) : Turned (.readConfig id existing)
    ⟨{ store with nextBoot := store.nextBoot + 1 },
      some (.clearLive id config store.nextBoot), none⟩
  | cleared (id : VmId) (config : VmConfig) (boot : BootId) : Turned (.clearLive id config boot)
    ⟨(store.removeLive id).2.dropLive (store.liveVms.lookup id), some (.resetInfo id config boot), none⟩
  | wasReset (id : VmId) (config : VmConfig) (boot : BootId) (vm : VmInfo)
    (found : store.vms.lookup id = some vm) :
      Turned (.resetInfo id config boot) ⟨store.updateInfo id (.restarting config boot),
      some (.keepConfig .start id config boot), none⟩
  | configKept (origin : Origin) (id : VmId) (config : VmConfig) (boot : BootId) :
    Turned (.keepConfig origin id config boot)
    ⟨{ store with vmConfigs := store.vmConfigs.insert id config },
      some (.booting origin id config boot), none⟩
  | bootFailed (origin : Origin) (id : VmId) (config : VmConfig) (boot : BootId) :
    Turned (.booting origin id config boot)
    ⟨store, if origin = .createFromSnapshot then none else some (.markFailed id boot), none⟩
  | bootLeftDir (origin : Origin) (id : VmId) (config : VmConfig) (boot : BootId) :
    Turned (.booting origin id config boot)
    ⟨{ store with tempDirs := store.tempDirs.insert id boot },
      if origin = .createFromSnapshot then none else some (.markFailed id boot), none⟩
  | tornDown (origin : Origin) (id : VmId) (config : VmConfig) (boot : BootId) :
    Turned (.booting origin id config boot)
    ⟨Boot.spawnMachine store id boot (.torn id boot),
      if origin = .createFromSnapshot then none else some (.markFailed id boot), none⟩
  | booted (origin : Origin) (id : VmId) (config : VmConfig) (boot : BootId) :
    Turned (.booting origin id config boot)
    ⟨Boot.spawnMachine store id boot (.booted id boot config),
      some (.install origin id boot (.booted store.nextThread boot config)), none⟩
  | installed (origin : Origin) (id : VmId) (boot : BootId) (live : VmLiveState) :
    Turned (.install origin id boot live)
    ⟨({ store with liveVms := store.liveVms.insert id live } : Store).dropLive
      (store.liveVms.lookup id), some (.announce origin id boot), none⟩
  | lost (id : VmId) (boot : BootId) (missing : store.vms.lookup id = none) :
    Turned (.announce .start id boot) ⟨store, none, none⟩
  | announced (origin : Origin) (id : VmId) (boot : BootId) (update : VmInfo → VmInfo)
    (running : ∀ vm, (update vm).state = .running)
    (sameBoot : ∀ vm, (update vm).boot = vm.boot)
      (sameStdout : ∀ vm, (update vm).stdout = vm.stdout) : Turned (.announce origin id boot)
      ⟨store.updateInfo id update, none, Boot.monitor origin id boot⟩
  | markedFailed (id : VmId) (boot : BootId) :
    Turned (.markFailed id boot) ⟨store.updateInfo id ({ · with state := .failed }), none, none⟩
  | foundDestroy (input : Text) (id : VmId) (found : resolveId store.vms input = some id) :
    Turned (.resolveDestroy input)
    ⟨store, some (.resolveEnd ⟨some 10, some id⟩ id), none⟩
  | notFound (ending : Ending) (input : Text) (missing : resolveId store.vms input = none) :
    Turned (.resolveEnd ending input)
    ⟨store, ending.destroys.map .forgetInfo, none⟩
  | foundEnd (ending : Ending) (input : Text) (id : VmId)
    (found : resolveId store.vms input = some id) :
      Turned (.resolveEnd ending input) ⟨store, some (.checkState ending id), none⟩
  | endedBefore (ending : Ending) (id : VmId)
    (ended : ∀ vm, store.vms.lookup id = some vm → vm.state = .stopped ∨ vm.state = .failed) :
      Turned (.checkState ending id)
      ⟨store, ending.destroys.map .forgetInfo, none⟩
  | checked (ending : Ending) (id : VmId) :
    Turned (.checkState ending id) ⟨store, some (.takeLive ending id), none⟩
  | tookNothing (ending : Ending) (id : VmId) (missing : store.liveVms.lookup id = none) :
    Turned (.takeLive ending id)
    ⟨(store.removeLive id).2, some (.markStopped ending id), none⟩
  | tookToKill (ending : Ending) (id : VmId) (live : VmLiveState) (bytes : List U8)
    (found : store.liveVms.lookup id = some live) :
      Turned (.takeLive ending id) ⟨(store.removeLive id).2.kill live.thread,
      some (Stop.afterCapture ending id live bytes), none⟩
  | tookToAsk (ending : Ending) (id : VmId) (live : VmLiveState)
    (found : store.liveVms.lookup id = some live) : Turned (.takeLive ending id)
      ⟨(store.removeLive id).2, some (.asking ending id live), none⟩
  | accepted (ending : Ending) (id : VmId) (live : VmLiveState)
    (receiver : live.completionRx = true) : Turned (.asking ending id live)
    ⟨store.updateMachine live.thread ({ · with asked := true }),
      some (.waiting ending id { live with completionRx := false }), none⟩
  | acceptedUnwatched (ending : Ending) (id : VmId) (live : VmLiveState) (bytes : List U8)
    (noReceiver : live.completionRx = false) : Turned (.asking ending id live)
      ⟨store.updateMachine live.thread ({ · with asked := true }),
        some (Stop.afterCapture ending id live bytes), none⟩
  | refused (ending : Ending) (id : VmId) (live : VmLiveState) (bytes : List U8) :
    Turned (.asking ending id live)
    ⟨store.kill live.thread, some (Stop.afterCapture ending id live bytes), none⟩
  | completed (ending : Ending) (id : VmId) (live : VmLiveState) (bytes : List U8) :
    Turned (.waiting ending id live)
    ⟨store.observe live.thread, some (Stop.afterCapture ending id live bytes), none⟩
  | channelDropped (ending : Ending) (id : VmId) (live : VmLiveState) (bytes : List U8) :
    Turned (.waiting ending id live)
    ⟨store, some (Stop.afterCapture ending id live bytes), none⟩
  | waitTimedOut (ending : Ending) (id : VmId) (live : VmLiveState) (bytes : List U8) :
    Turned (.waiting ending id live)
    ⟨store.kill live.thread, some (Stop.afterCapture ending id live bytes), none⟩
  | captured (ending : Ending) (id : VmId) (live : VmLiveState) (bytes : List U8)
    (update : VmInfo → VmInfo) (sameBoot : ∀ vm, (update vm).boot = vm.boot) :
      Turned (.capturing ending id live bytes)
      ⟨store.updateInfo id update, some (.joining ending id live), none⟩
  | joined (ending : Ending) (id : VmId) (live : VmLiveState) : Turned (.joining ending id live)
    ⟨((store.observe live.thread).dropForwards live).removeTempDir id, some (.markStopped ending id), none⟩
  | notJoined (ending : Ending) (id : VmId) (live : VmLiveState) : Turned (.joining ending id live)
    ⟨(store.dropForwards live).removeTempDir id, some (.markStopped ending id), none⟩
  | markedStopped (ending : Ending) (id : VmId) :
    Turned (.markStopped ending id) ⟨store.updateInfo id ({ · with state := .stopped }),
    ending.destroys.map .forgetInfo, none⟩
  | forgotInfo (id : VmId) :
    Turned (.forgetInfo id) ⟨{ store with vms := store.vms.erase id }, some (.forgetLive id), none⟩
  | forgotLive (id : VmId) : Turned (.forgetLive id)
    ⟨(store.removeLive id).2.dropLive (store.liveVms.lookup id), some (.forgetConfig id), none⟩
  | forgotConfig (id : VmId) :
    Turned (.forgetConfig id) ⟨{ store with vmConfigs := store.vmConfigs.erase id }, none, none⟩
  | unwatched (own : BootId) (id : VmId)
    (nothing : ∀ live, store.liveVms.lookup id = some live → live.completionRx = false) :
      Turned (.watch own id) ⟨store, none, none⟩
  | watched (own : BootId) (id : VmId) (live : VmLiveState)
    (found : store.liveVms.lookup id = some live) : Turned (.watch own id)
    ⟨{ store with liveVms := store.liveVms.insert id { live with completionRx := false } },
      some (.awaiting own id live.thread), none⟩
  | woke (own : BootId) (id : VmId) (rx : ThreadId) (exited : store.threadState rx = .exited) :
    Turned (.awaiting own id rx) ⟨store.observe rx, some (.claim own id), none⟩
  | wokeWithout (own : BootId) (id : VmId) (rx : ThreadId)
    (panicked : store.threadState rx = .panicked) :
      Turned (.awaiting own id rx) ⟨store, some (.claim own id), none⟩
  | claimed (own : BootId) (id : VmId) (live : VmLiveState)
    (found : store.liveVms.lookup id = some live) : Turned (.claim own id)
    ⟨(store.removeLive id).2, some (.conclude own id live (store.serialOutput live.thread)), none⟩
  | claimedNothing (own : BootId) (id : VmId) (missing : store.liveVms.lookup id = none) :
    Turned (.claim own id)
    ⟨(store.removeLive id).2, some (.ensureStopped own id), none⟩
  | concluded (own : BootId) (id : VmId) (live : VmLiveState) (bytes : List U8) :
    Turned (.conclude own id live bytes)
    ⟨store.updateInfo id (.exited reader bytes), some (.joiningOwn own id live), none⟩
  | joinedOwn (own : BootId) (id : VmId) (live : VmLiveState) : Turned (.joiningOwn own id live)
    ⟨((store.observe live.thread).dropForwards live).removeTempDir id, none, none⟩
  | joinFailed (own : BootId) (id : VmId) (live : VmLiveState) : Turned (.joiningOwn own id live)
    ⟨(store.dropForwards live).removeTempDir id, none, none⟩
  | ensured (own : BootId) (id : VmId) : Turned (.ensureStopped own id) ⟨store.updateInfo id fun vm =>
    if vm.state = .running then { vm with state := .stopped } else vm, none, none⟩

end

section Answers
variable {answer : Answer} {outcome : Outcome}

theorem of_ifLocked {piece : Option Outcome} (ran : answer.ifLocked piece = some outcome) :
    piece = some outcome := by
  cases answer with
  | locked => exact ran
  | _ => cases ran

theorem of_ifBooted {piece : BootOutcome → Option Outcome}
    (ran : answer.ifBooted piece = some outcome) : ∃ result, piece result = some outcome := by
  cases answer with
  | booted result => exact ⟨result, ran⟩
  | _ => cases ran

theorem of_ifShutdown {piece : ShutdownAnswer → Option Outcome}
    (ran : answer.ifShutdown piece = some outcome) : ∃ result, piece result = some outcome := by
  cases answer with
  | shutdown result => exact ⟨result, ran⟩
  | _ => cases ran

theorem of_ifWaited {piece : WaitAnswer → Option Outcome}
    (ran : answer.ifWaited piece = some outcome) : ∃ result, piece result = some outcome := by
  cases answer with
  | waited result => exact ⟨result, ran⟩
  | _ => cases ran

theorem of_ifJoined {piece : JoinAnswer → Option Outcome}
    (ran : answer.ifJoined piece = some outcome) : ∃ result, piece result = some outcome := by
  cases answer with
  | joined result => exact ⟨result, ran⟩
  | _ => cases ran

end Answers

section Pieces
variable {reader : SerialReader} {store : Store} {outcome : Outcome} {id : VmId} {own : BootId}

theorem booting_turned {origin : Origin} {config : VmConfig} {boot : BootId}
    {answer : BootOutcome} (ran : Boot.booting store origin id config boot answer = some outcome) :
    Turned reader store (.booting origin id config boot) outcome := by
  cases answer with
  | failed madeDir =>
    cases madeDir with
    | false =>
      cases ran
      exact .bootFailed origin id config boot
    | true =>
      cases ran
      exact .bootLeftDir origin id config boot
  | torn =>
    unfold Boot.booting at ran
    dsimp only at ran
    split at ran
    · cases ran
      exact .tornDown origin id config boot
    · cases ran
  | booted =>
    cases ran
    exact .booted origin id config boot

theorem announce_turned {origin : Origin} {boot : BootId}
    (ran : Boot.announce store origin id boot = some outcome) :
    Turned reader store (.announce origin id boot) outcome := by
  unfold Boot.announce at ran
  split at ran
  · cases ran
    exact .lost id boot ‹_›
  · cases ran
    exact .announced _ id boot _ (fun _ => rfl) (fun _ => rfl) fun _ => rfl
  · cases ran
    exact .announced _ id boot ({ · with state := .running }) (fun _ => rfl) (fun _ => rfl) fun _ => rfl

theorem takeLive_turned {ending : Ending} (ran : Stop.takeLive store ending id = some outcome) :
    Turned reader store (.takeLive ending id) outcome := by
  unfold Stop.takeLive Store.removeLive at ran
  dsimp only at ran
  split at ran
  · cases ran
    exact .tookNothing ending id ‹_›
  next live found =>
    split at ran
    · cases ran
      exact .tookToKill ending id live _ found
    · split at ran
      · cases ran
        exact .tookToKill ending id live _ found
      · cases ran
        exact .tookToAsk ending id live found

section
variable {ending : Ending} {id : VmId} {live : VmLiveState}

theorem asking_turned {answer : ShutdownAnswer}
    (ran : Stop.asking store ending id live answer = some outcome) :
    Turned reader store (.asking ending id live) outcome := by
  cases answer with
  | accepted =>
    unfold Stop.asking at ran
    dsimp only at ran
    split at ran
    · cases ran
      exact .accepted ending id live ‹_›
    · cases ran
      exact .acceptedUnwatched ending id live _ (Bool.not_eq_true _ ▸ ‹_›)
  | refused | timedOut =>
    cases ran
    exact .refused ending id live _

theorem waiting_turned {answer : WaitAnswer}
    (ran : Stop.waiting store ending id live answer = some outcome) :
    Turned reader store (.waiting ending id live) outcome := by
  unfold Stop.waiting at ran
  split at ran
  · cases answer with
    | completed =>
      cases ran
      exact .completed ending id live _
    | dropped =>
      cases ran
      exact .channelDropped ending id live _
    | timedOut =>
      cases ran
      exact .waitTimedOut ending id live _
  · cases ran

theorem joining_turned {answer : JoinAnswer}
    (ran : Stop.joining store ending id live answer = some outcome) :
    Turned reader store (.joining ending id live) outcome := by
  unfold Stop.joining at ran
  split at ran
  · split at ran
    · cases ran
      exact .joined ending id live
    · cases ran
      exact .notJoined ending id live
  · cases ran

end

theorem awaiting_turned {rx : ThreadId} {answer : WaitAnswer}
    (ran : MonitorVmCompletion.awaiting store own id rx answer = some outcome) :
    Turned reader store (.awaiting own id rx) outcome := by
  cases answer with
  | completed =>
    unfold MonitorVmCompletion.awaiting at ran
    dsimp only at ran
    split at ran
    next exited =>
      cases ran
      exact .woke own id rx (of_decide_eq_true exited)
    · cases ran
  | dropped =>
    unfold MonitorVmCompletion.awaiting at ran
    dsimp only at ran
    split at ran
    next panicked =>
      cases ran
      exact .wokeWithout own id rx (of_decide_eq_true panicked)
    · cases ran
  | timedOut => cases ran

theorem claim_turned (ran : MonitorVmCompletion.claim store own id = some outcome) :
    Turned reader store (.claim own id) outcome := by
  unfold MonitorVmCompletion.claim Store.removeLive at ran
  dsimp only at ran
  split at ran
  · cases ran
    exact .claimed own id _ ‹_›
  · cases ran
    exact .claimedNothing own id ‹_›

theorem joiningOwn_turned {live : VmLiveState} {answer : JoinAnswer}
    (ran : MonitorVmCompletion.joiningOwn store id live answer = some outcome) :
    Turned reader store (.joiningOwn own id live) outcome := by
  cases answer with
  | joined =>
    unfold MonitorVmCompletion.joiningOwn at ran
    dsimp only at ran
    split at ran
    · cases ran
      exact .joinedOwn own id live
    · cases ran
  | failed =>
    cases ran
    exact .joinFailed own id live
  | timedOut => cases ran

end Pieces

section
variable {reader : SerialReader} {store : Store} {task : Task} {outcome : Outcome}

theorem Task.turned {answer : Answer} (ran : task.advance reader store answer = some outcome) :
    Turned reader store task outcome := by
  cases task with
  | record origin id config boot names =>
    have piece := of_ifLocked ran
    unfold Boot.record at piece
    split at piece
    · cases piece
      exact .returned rfl
    · cases piece
      exact .recorded origin id config boot names _
  | resolveStart input =>
    have piece := of_ifLocked ran
    unfold Boot.resolveStart at piece
    split at piece
    · cases piece
      exact .returned rfl
    · cases piece
      exact .foundStart input _ ‹_›
  | readExisting id =>
    have piece := of_ifLocked ran
    unfold Boot.readExisting at piece
    split at piece
    · cases piece
      exact .returned rfl
    · split at piece
      · cases piece
        exact .decided id _ ‹_› ‹_›
      · cases piece
        exact .returned rfl
  | readConfig id existing =>
    have piece := of_ifLocked ran
    unfold Boot.readConfig at piece
    split at piece
    · cases piece
      exact .returned rfl
    · cases piece
      exact .configured id existing _
  | clearLive id config boot =>
    cases of_ifLocked ran
    exact .cleared id config boot
  | resetInfo id config boot =>
    have piece := of_ifLocked ran
    unfold Boot.resetInfo at piece
    split at piece
    · cases piece
      exact .returned rfl
    · cases piece
      exact .wasReset id config boot _ ‹_›
  | keepConfig origin id config boot =>
    cases of_ifLocked ran
    exact .configKept origin id config boot
  | booting =>
    obtain ⟨answer, piece⟩ := of_ifBooted ran
    exact booting_turned piece
  | install origin id boot live =>
    cases of_ifLocked ran
    exact .installed origin id boot live
  | announce => exact announce_turned (of_ifLocked ran)
  | markFailed id boot =>
    cases of_ifLocked ran
    exact .markedFailed id boot
  | resolveDestroy input =>
    have piece := of_ifLocked ran
    unfold Destroy.resolveDestroy at piece
    split at piece
    · cases piece
      exact .returned rfl
    · cases piece
      exact .foundDestroy input _ ‹_›
  | resolveEnd ending input =>
    have piece := of_ifLocked ran
    unfold Stop.resolveEnd at piece
    split at piece
    · cases piece
      exact .notFound ending input ‹_›
    · cases piece
      exact .foundEnd ending input _ ‹_›
  | checkState ending id =>
    have piece := of_ifLocked ran
    unfold Stop.checkState at piece
    split at piece
    next missing =>
      cases piece
      refine .endedBefore ending id fun vm found => ?_
      rw [missing] at found
      cases found
    next found =>
      split at piece
      next ended =>
        cases piece
        refine .endedBefore ending id fun vm foundVm => ?_
        rw [found] at foundVm
        cases foundVm
        exact ended
      · cases piece
        exact .checked ending id
  | takeLive => exact takeLive_turned (of_ifLocked ran)
  | asking =>
    obtain ⟨answer, piece⟩ := of_ifShutdown ran
    exact asking_turned piece
  | waiting =>
    obtain ⟨answer, piece⟩ := of_ifWaited ran
    exact waiting_turned piece
  | capturing ending id live bytes =>
    cases of_ifLocked ran
    exact .captured ending id live bytes _ fun _ => rfl
  | joining =>
    obtain ⟨answer, piece⟩ := of_ifJoined ran
    exact joining_turned piece
  | markStopped ending id =>
    cases of_ifLocked ran
    exact .markedStopped ending id
  | forgetInfo id =>
    have piece := of_ifLocked ran
    unfold Destroy.forgetInfo at piece
    split at piece
    · cases piece
      exact .returned rfl
    · cases piece
      exact .forgotInfo id
  | forgetLive id =>
    cases of_ifLocked ran
    exact .forgotLive id
  | forgetConfig id =>
    cases of_ifLocked ran
    exact .forgotConfig id
  | watch own id =>
    have piece := of_ifLocked ran
    unfold MonitorVmCompletion.watch at piece
    split at piece
    next missing =>
      cases piece
      refine .unwatched own id fun live found => ?_
      rw [missing] at found
      cases found
    next live found =>
      split at piece
      · cases piece
        exact .watched own id live found
      next taken =>
        cases piece
        refine .unwatched own id fun other foundOther => ?_
        rw [found] at foundOther
        cases foundOther
        exact Bool.not_eq_true _ ▸ taken
  | awaiting =>
    obtain ⟨answer, piece⟩ := of_ifWaited ran
    exact awaiting_turned piece
  | claim => exact claim_turned (of_ifLocked ran)
  | conclude own id live bytes =>
    cases of_ifLocked ran
    exact .concluded own id live bytes
  | joiningOwn =>
    obtain ⟨answer, piece⟩ := of_ifJoined ran
    exact joiningOwn_turned piece
  | ensureStopped own id =>
    cases of_ifLocked ran
    exact .ensured own id

theorem Turned.spawns (turned : Turned reader store task outcome) :
    ∀ monitor, outcome.spawned = some monitor → ∃ origin id boot, task = .announce origin id boot ∧
    monitor = .watch boot id ∧ outcome.next = none := by
  cases turned with
  | announced origin id boot =>
    intro monitor spawned
    have isMonitor : Boot.monitor origin id boot = some monitor := spawned
    unfold Boot.monitor at isMonitor
    split at isMonitor
    · cases isMonitor
    · cases isMonitor
      exact ⟨origin, id, boot, rfl, rfl, rfl⟩
  | _ => rintro _ ⟨⟩

end
end Visor.Backend
