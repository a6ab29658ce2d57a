import Visor.Mmio.StatusMachine

/-! Three paths lead to the queue loops of a device: a notification of the guest, a poll of the host
and the activation of a vsock device. Only the last two ask whether the device is active, none asks
whether it has failed, and a queue takes any size that the driver writes. -/

namespace Visor
open Library VirtioDevice DeviceStatus List

/-- A queue in use has no more entries than its device supports. -/
def VirtQueue.Sized (queue : VirtQueue) : Prop := queue.Live → queue.size ≤ queue.maxSize
deriving Decidable

/-- The call was made to an active device that has not failed, and each queue has a legal size
or was passed over. -/
structure QueueCall.Gated (call : QueueCall) : Prop where
  activated : call.activated = true
  notFailed : call.deviceStatus &&& failed = 0
  sized : ∀ (index : Nat) (queue : VirtQueue), call.before[index]? = some queue →
    (0 < queue.size ∧ queue.size ≤ queue.maxSize) ∨
      (¬ queue.Live ∧ call.after[index]? = some queue)

namespace MmioTransport
variable {Device Host : Type} [VirtioDevice Device Host]

/-- Once DRIVER_OK is set, only a reset changes the set-up of a queue. -/
def QueuesFrozen (transport : MmioTransport Device) (access : Access Device) : Prop :=
  transport.deviceStatus &&& driverOk ≠ 0 → access.wrote 0x70 ≠ some 0 →
    (queues (transport.step access).device).map VirtQueue.config =
      (queues transport.device).map VirtQueue.config

/-- With memory attached the driver notifies between DRIVER_OK and a failure, and the host does
not poll a device that has failed; and when DRIVER_OK starts the device, its live queues have
sizes that it supports. -/
structure Orderly (transport : MmioTransport Device) (access : Access Device) : Prop where
  notify : ∀ value, access.wrote 0x50 = some value → transport.memory.isSome = true →
    transport.deviceStatus &&& driverOk ≠ 0 ∧ transport.deviceStatus &&& failed = 0
  poll : ∀ host queueIdx, access = .poll host queueIdx → transport.memory.isSome = true →
    isActivated transport.device = true → transport.deviceStatus &&& failed = 0
  starts : ∀ value, access.wrote 0x70 = some value → ~~~transport.deviceStatus &&& value = driverOk →
    transport.deviceStatus = acknowledge ||| driver ||| featuresOk →
    ∀ queue ∈ queues transport.device, queue.Sized

/-- A transport as it is created: no driver and no calls. -/
structure Unused (transport : MmioTransport Device) : Prop extends transport.Fresh where
  calls : transport.calls = []

/-- The invariant. Queues are set up before DRIVER_OK only, so the sizes that a device was
started with are its sizes while it is active. -/
structure Governed (transport : MmioTransport Device) : Prop where
  active : transport.deviceStatus &&& driverOk ≠ 0 → transport.deviceStatus &&& failed = 0 →
    isActivated transport.device = true
  sized : isActivated transport.device = true → ∀ queue ∈ queues transport.device, queue.Sized
  calls : ∀ call ∈ transport.calls, call.Gated

section
variable {transport next : MmioTransport Device} {before after : List VirtQueue}

theorem config_eq_of_passed (passed : List.Forall₂ VirtQueue.Passed before after) :
    after.map VirtQueue.config = before.map VirtQueue.config := by
  induction passed with
  | nil => rfl
  | cons first _ ih =>
    simp only [map_cons, ih]
    rw [first.config]

theorem sized_of_config (same : after.map VirtQueue.config = before.map VirtQueue.config)
    (sized : ∀ queue ∈ before, queue.Sized) : ∀ queue ∈ after, queue.Sized := by
  intro queue member
  have found : queue.config ∈ before.map VirtQueue.config := by
    rw [← same]
    exact mem_map_of_mem member
  obtain ⟨origin, among, eq⟩ := mem_map.mp found
  have legal : origin.config.Sized := sized origin among
  rw [eq] at legal
  exact legal

private theorem gated_of_passed (passed : List.Forall₂ VirtQueue.Passed before after)
    (sized : ∀ queue ∈ before, queue.Sized) (index : Nat) (queue : VirtQueue)
    (at_ : before[index]? = some queue) :
    (0 < queue.size ∧ queue.size ≤ queue.maxSize) ∨ (¬ queue.Live ∧ after[index]? = some queue) := by
  obtain ⟨inside, rfl⟩ := List.getElem?_eq_some_iff.mp at_
  by_cases live : before[index].Live
  · have positive : 0 < before[index].size := by
      have notZero := live.2
      bv_omega
    exact .inl ⟨positive, sized _ (getElem_mem inside) live⟩
  · have within : index < after.length := passed.length_eq ▸ inside
    have same := (passed.get inside within).idle live
    refine .inr ⟨live, List.getElem?_eq_some_iff.mpr ⟨within, ?_⟩⟩
    simpa only [get_eq_getElem] using same

theorem Processed.governed {queueIdx : Nat} (processed : Processed transport next queueIdx)
    (governed : transport.Governed) (active : isActivated transport.device = true)
    (notFailed : transport.deviceStatus &&& failed = 0) : next.Governed := by
  have on := processed.isActivated_eq
  obtain ⟨status, passed, queuesPassed, seen, calls⟩ := processed
  have queuesNext : queues next.device = passed := congrArg Profile.queues seen
  refine ⟨fun _ _ => on.trans active, fun _ => ?_, ?_⟩
  · rw [queuesNext]
    exact sized_of_config (config_eq_of_passed queuesPassed) (governed.sized active)
  · rw [calls]
    intro call member
    rcases mem_cons.mp member with rfl | earlier
    · exact ⟨active, notFailed, gated_of_passed queuesPassed (governed.sized active)⟩
    · exact governed.calls call earlier

end

variable [LawfulVirtioDevice Device] (transport : MmioTransport Device)

omit [LawfulVirtioDevice Device] in
theorem Activation.governed {stored next : MmioTransport Device}
    (activation : Activation stored next) (notFailed : stored.deviceStatus &&& failed = 0)
    (sized : ∀ queue ∈ queues stored.device, queue.Sized)
    (calls : ∀ call ∈ stored.calls, call.Gated) : next.Governed := by
  cases activation with
  | already active result =>
    rw [result]
    exact ⟨fun _ _ => active, fun _ => sized, calls⟩
  | refused inactive status profile same =>
    have queuesNext : queues next.device = queues stored.device := congrArg Profile.queues profile
    refine ⟨fun _ clear => absurd ?_ (failed_isSet stored.deviceStatus), ?_, ?_⟩
    · rw [← status]
      exact clear
    · rw [queuesNext]
      exact fun _ => sized
    · rw [same]
      exact calls
  | done activated inactive status profile same result =>
    have on : isActivated activated.device = true := congrArg Profile.activated profile
    have queuesOn : queues activated.device = queues stored.device := congrArg Profile.queues profile
    have governed : activated.Governed := by
      refine ⟨fun _ _ => on, ?_, ?_⟩
      · rw [queuesOn]
        exact fun _ => sized
      · rw [same]
        exact calls
    rcases result with rfl | processed
    · exact governed
    · exact processed.governed governed on (by rw [status]; exact notFailed)

theorem StatusEffect.governed {transport next : MmioTransport Device} {value : U32}
    (effect : StatusEffect transport value next) (governed : transport.Governed)
    (starts : ~~~transport.deviceStatus &&& value = DeviceStatus.driverOk →
      transport.deviceStatus = acknowledge ||| driver ||| featuresOk →
      ∀ queue ∈ queues transport.device, queue.Sized) : next.Governed := by
  cases effect with
  | reset isZero result =>
    obtain ⟨_, _, seen⟩ := transport.reset_profile
    have off : isActivated transport.reset.device = false := congrArg Profile.activated seen
    rw [result]
    exact ⟨fun isSet => absurd (BitVec.zero_and) isSet, by simp [off], governed.calls⟩
  | failed isFailed result =>
    rw [result]
    exact ⟨fun _ clear => absurd clear (failed_isSet _), governed.sized, governed.calls⟩
  | stored enters result =>
    rw [result]
    exact ⟨fun isSet => absurd enters.notOk.2 isSet, governed.sized, governed.calls⟩
  | driverOk advances result =>
    exact result.governed (Advances.notFailed (.inr (.inr advances)))
      (starts advances.1 advances.2) governed.calls
  | ignored notZero stays result =>
    rw [result]
    exact governed

omit [LawfulVirtioDevice Device] in
theorem Governed.of_same {transport next : MmioTransport Device} (governed : transport.Governed)
    (status : next.deviceStatus = transport.deviceStatus)
    (activated : isActivated next.device = isActivated transport.device)
    (queues : queues next.device = queues transport.device) (calls : next.calls = transport.calls) :
    next.Governed where
  active := by
    rw [status, activated]
    exact governed.active
  sized := by
    rw [activated, queues]
    exact governed.sized
  calls := by
    rw [calls]
    exact governed.calls

omit [VirtioDevice Device Host] [LawfulVirtioDevice Device] in
theorem notOk_of_checkStatus {transport : MmioTransport Device}
    (allowed : transport.checkStatus featuresOk (driverOk ||| failed) = true) :
    transport.deviceStatus &&& driverOk = 0 := by
  have masked : transport.deviceStatus &&& (featuresOk ||| (driverOk ||| failed)) = featuresOk :=
    eq_of_beq allowed
  have split : (featuresOk ||| (driverOk ||| failed)) &&& driverOk = driverOk := by decide
  calc transport.deviceStatus &&& driverOk
      = transport.deviceStatus &&& (featuresOk ||| (driverOk ||| failed)) &&& driverOk := by
        rw [BitVec.and_assoc, split]
    _ = featuresOk &&& driverOk := by rw [masked]
    _ = 0 := by decide

variable (access : Access Device)

theorem step_governed (governed : transport.Governed)
    (isOk : isActivated transport.device = true → transport.deviceStatus &&& driverOk ≠ 0)
    (orderly : transport.Orderly access) : (transport.step access).Governed := by
  have effect := transport.step_effect access
  generalize transport.step access = next at effect ⊢
  cases effect with
  | quiet status profile calls =>
    exact governed.of_same status (congrArg Profile.activated profile)
      (congrArg Profile.queues profile) calls
  | acked value wrote allowed noStatus result =>
    obtain ⟨status, calls, acked, _, seen⟩ := transport.ackFeatures_profile value
    rw [result]
    exact governed.of_same status (congrArg Profile.activated seen) (congrArg Profile.queues seen) calls
  | queue change maxSize allowed noStatus result =>
    have seen := LawfulVirtioDevice.mapQueues_profile transport.device (transport.changeSelected change)
    have same := congrArg Profile.activated seen
    rw [result]
    refine ⟨fun isSet clear => same.trans (governed.active isSet clear), fun on => ?_, governed.calls⟩
    exact absurd (notOk_of_checkStatus allowed) (isOk (same.symm.trans on))
  | processed host queueIdx memory attached cause noStatus result =>
    rw [result]
    have processed := transport.processQueue_processed host queueIdx memory
    have present : transport.memory.isSome = true := by rw [attached]; rfl
    rcases cause with ⟨value, wrote, _⟩ | ⟨isPoll, active⟩
    · obtain ⟨started, notFailed⟩ := orderly.notify value wrote present
      exact processed.governed governed (governed.active started notFailed) notFailed
    · exact processed.governed governed active (orderly.poll host queueIdx isPoll present active)
  | status host value wrote result =>
    rw [result]
    exact (transport.setDeviceStatus_effect host value).governed governed (orderly.starts value wrote)

theorem step_queuesFrozen : transport.QueuesFrozen access := by
  intro isSet noReset
  have effect := transport.step_effect access
  generalize transport.step access = next at effect ⊢
  cases effect with
  | quiet status profile => exact congrArg (·.queues.map VirtQueue.config) profile
  | acked value wrote allowed noStatus result =>
    obtain ⟨_, _, acked, _, seen⟩ := transport.ackFeatures_profile value
    rw [result]
    exact congrArg (·.queues.map VirtQueue.config) seen
  | queue change maxSize allowed => exact absurd (notOk_of_checkStatus allowed) isSet
  | processed host queueIdx memory attached cause noStatus result =>
    obtain ⟨_, passed, queuesPassed, seen, _⟩ := transport.processQueue_processed host queueIdx memory
    have queuesNext := congrArg Profile.queues seen
    rw [result]
    exact (congrArg (·.map VirtQueue.config) queuesNext).trans (config_eq_of_passed queuesPassed)
  | status host value wrote result =>
    have effect := transport.setDeviceStatus_effect host value
    rw [← result] at effect
    cases effect with
    | reset isZero => exact absurd (wrote.trans (congrArg some isZero)) noReset
    | failed _ result | stored _ result | ignored _ _ result => rw [result]
    | driverOk advances => exact absurd (by rw [advances.2]; decide) isSet

/-- Set-up is frozen by DRIVER_OK in every run. Queues are processed for an active device that
has not failed, and with legal sizes, for as long as driver and host keep their order. -/
theorem queues_gated (start : MmioTransport Device) (unused : start.Unused)
    (accesses : List (Access Device)) : Along step QueuesFrozen start accesses ∧
    (Along step Orderly start accesses → ∀ call ∈ (run step start accesses).calls, call.Gated) := by
  constructor
  · exact along_of_always start accesses step_queuesFrozen
  · intro orderly
    have initially : start.Governed := by
      refine ⟨fun isSet => absurd ?_ isSet, by simp [unused.inactive], by simp [unused.calls]⟩
      rw [unused.status]
      decide
    have inactive : start.ActiveIsOk false := ⟨unused.inactive, by simp [unused.inactive]⟩
    have final := invariant_run
      (fun transport : MmioTransport Device => transport.Governed ∧
        ∃ accepted, transport.ActiveIsOk accepted)
      (fun transport access ⟨governed, accepted, isOk⟩ orderly =>
        ⟨transport.step_governed access governed isOk.2 orderly, _,
          transport.step_activeIsOk accepted access isOk⟩)
      ⟨initially, false, inactive⟩ orderly
    exact final.1.calls

omit [LawfulVirtioDevice Device] in
theorem orderly_of_sized {host : Host} {offset : U64} {data : List U8}
    (noNotify : offset.toNat ≠ 0x50) (sized : ∀ queue ∈ queues transport.device, queue.Sized) :
    transport.Orderly (.write host offset data) where
  notify value wrote := by
    rw [wrote_other noNotify] at wrote
    cases wrote
  poll host queueIdx isPoll := by cases isPoll
  starts _ _ _ _ := sized

def wiredRng : MmioTransport (Featured Rng.RngDevice) := drainedRng.setMemory ⟨0, 16, fun _ => 0, []⟩

def writeRegisters (writes : List (U64 × U8 × U8)) : List (Access (Featured Rng.RngDevice)) :=
  writes.map fun (register, low, high) => .write () register [low, high, 0, 0]

/-- A driver that asks for sixteen entries, starts the device and notifies it. -/
def setUp : List (Access (Featured Rng.RngDevice)) :=
  writeRegisters [(0x70, 1, 0), (0x70, 3, 0), (0x70, 11, 0), (0x38, 16, 0), (0x44, 1, 0),
    (0x70, 15, 0), (0x50, 0, 0)]

theorem setUp_gated :
    (run step wiredRng setUp).calls.length = 1 ∧ ∀ call ∈ (run step wiredRng setUp).calls, call.Gated := by
  have unused : wiredRng.Unused := {
    status := rfl
    inactive := rfl
    calls := rfl }
  refine ⟨by decide +kernel, (queues_gated wiredRng unused setUp).2 ?_⟩
  refine ⟨orderly_of_sized _ (by decide) (by decide), orderly_of_sized _ (by decide) (by decide),
    orderly_of_sized _ (by decide) (by decide), orderly_of_sized _ (by decide) (by decide),
    orderly_of_sized _ (by decide) (by decide), orderly_of_sized _ (by decide) (by decide),
    ⟨fun value wrote _ => ⟨by decide, by decide⟩, nofun, fun value wrote => ?_⟩, trivial⟩
  rw [wrote_other (by decide)] at wrote
  cases wrote

/-- A notification reaches a device that was never activated, and one that has failed; and a
queue of 300 entries is processed on a device that supports 256. -/
theorem queues_ungated :
    (run step wiredRng (writeRegisters [(0x50, 0, 0)])).calls.map QueueCall.activated = [false] ∧
    (run step wiredRng (setUp ++ writeRegisters [(0x70, 128, 0), (0x50, 0, 0)])).calls.map
    QueueCall.deviceStatus = [143, 15] ∧
    (run step wiredRng
      (writeRegisters [(0x70, 1, 0), (0x70, 3, 0), (0x70, 11, 0), (0x38, 44, 1), (0x44, 1, 0),
      (0x70, 15, 0), (0x50, 0, 0)])).calls.map QueueCall.before = [[⟨256, 300, true, 0, 0, 0, 0, 0⟩]] := by
  decide +kernel

end MmioTransport
end Visor
