import Visor.Library.Run
import Visor.Mmio.Transport

/-! Every access has one of five effects on the status, on what the transport sees of the device,
and on the record of queue calls. Properties of runs are derived from these. -/

namespace Visor
open Library VirtioDevice DeviceStatus LawfulVirtioDevice MmioTransport

/-- The written status takes the device to its next stage, past the first one. -/
def DeviceStatus.Advances (status value : U32) : Prop :=
  ~~~status &&& value = driver ∧ status = acknowledge ∨
    ~~~status &&& value = featuresOk ∧ status = acknowledge ||| driver ∨
    ~~~status &&& value = driverOk ∧ status = acknowledge ||| driver ||| featuresOk

/-- The written status only has to be stored: one of the three stages before DRIVER_OK. -/
def DeviceStatus.Enters (status value : U32) : Prop :=
  ~~~status &&& value = acknowledge ∧ status = init ∨
    ~~~status &&& value = driver ∧ status = acknowledge ∨
    ~~~status &&& value = featuresOk ∧ status = acknowledge ||| driver

namespace MmioTransport
variable {Device Host : Type} [VirtioDevice Device Host] {register : Nat} {access : Access Device}
  (transport : MmioTransport Device) {change : VirtQueue → VirtQueue} (host : Host) (offset : U64)
  (data : List U8) (value : U32)

def changeSelected (transport : MmioTransport Device) (change : VirtQueue → VirtQueue) (index : Nat)
    (queue : VirtQueue) : VirtQueue :=
  if index = transport.queueSelect.toNat then change queue else queue

inductive Effect (transport : MmioTransport Device) (access : Access Device)
    (next : MmioTransport Device) : Prop where
  | quiet (status : next.deviceStatus = transport.deviceStatus)
    (profile : profile next.device = profile transport.device)
    (calls : next.calls = transport.calls) (noStatus : access.wrote 0x70 = none)
  | acked (value : U32) (wrote : access.wrote 0x20 = some value)
    (allowed : transport.checkStatus driver featuresOk = true)
    (noStatus : access.wrote 0x70 = none) (result : next = transport.ackFeatures value)
  | queue (change : VirtQueue → VirtQueue)
    (maxSize : ∀ queue, (change queue).maxSize = queue.maxSize)
    (allowed : transport.checkStatus featuresOk (driverOk ||| failed) = true)
      (noStatus : access.wrote 0x70 = none)
    (result : next = { transport with
      device := mapQueues transport.device (transport.changeSelected change) })
  | processed (host : Host) (queueIdx : Nat) (memory : GuestMemory)
    (attached : transport.memory = some memory)
    (cause : (∃ value, access.wrote 0x50 = some value ∧ queueIdx = value.toNat) ∨
      access = .poll host queueIdx ∧ isActivated transport.device = true)
        (noStatus : access.wrote 0x70 = none)
    (result : next = (transport.processQueue host queueIdx memory).1)
  | status (host : Host) (value : U32) (wrote : access.wrote 0x70 = some value)
    (result : next = transport.setDeviceStatus host value)

section
variable {host : Host} {offset : U64} {data : List U8}

theorem wrote_register (isRegister : offset.toNat ≤ 0xff ∧ data.length = 4)
    (at_ : offset.toNat = register) :
    (Access.write host offset data : Access Device).wrote register =
    some (BitVec.ofNat 32 (leField data 0 4)) := if_pos ⟨isRegister.1, isRegister.2, at_⟩

theorem wrote_other (elsewhere : offset.toNat ≠ register) :
    (Access.write host offset data : Access Device).wrote register = none :=
  if_neg fun written => elsewhere written.2.2

end

theorem step_of_wrote {value : U32} (wrote : access.wrote register = some value) :
    ∃ (host : Host) (offset : U64), offset.toNat = register ∧ transport.step access =
    transport.writeRegister host offset value := by
  cases access with
  | write host offset =>
    unfold Access.wrote at wrote
    dsimp only at wrote
    split at wrote
    next located =>
      cases wrote
      exact ⟨host, offset, located.2.2, if_pos ⟨located.1, located.2.1⟩⟩
    · cases wrote
  | _ => cases wrote

private theorem updateQueueField_effect (maxSize : ∀ queue, (change queue).maxSize = queue.maxSize)
    (noStatus : access.wrote 0x70 = none) :
    Effect transport access (transport.updateQueueField change) := by
  unfold updateQueueField
  cases allowed : transport.checkStatus featuresOk (driverOk ||| failed) with
  | false => exact .quiet rfl rfl rfl noStatus
  | true => exact .queue change maxSize allowed noStatus rfl

private theorem writeRegister_effect (isRegister : offset.toNat ≤ 0xff ∧ data.length = 4) :
    Effect transport (.write host offset data)
    (transport.writeRegister host offset (BitVec.ofNat 32 (leField data 0 4))) := by
  have at_ : ∀ register, offset.toNat = register →
    (Access.write host offset data : Access Device).wrote register =
      some (BitVec.ofNat 32 (leField data 0 4)) := fun _ => wrote_register isRegister
  have other : ∀ register, offset.toNat ≠ register →
    (Access.write host offset data : Access Device).wrote register = none := fun _ => wrote_other
  generalize BitVec.ofNat 32 (leField data 0 4) = value at at_ ⊢
  unfold writeRegister
  split
  · exact .quiet rfl rfl rfl (other _ (by omega))
  next located =>
    split
    · exact .acked value (at_ _ located) ‹_› (other _ (by omega)) rfl
    · exact .quiet rfl rfl rfl (other _ (by omega))
  · exact .quiet rfl rfl rfl (other _ (by omega))
  · exact .quiet rfl rfl rfl (other _ (by omega))
  · exact transport.updateQueueField_effect (fun _ => rfl) (other _ (by omega))
  · exact transport.updateQueueField_effect (fun _ => rfl) (other _ (by omega))
  next located =>
    unfold queueNotify
    split
    · exact .quiet rfl rfl rfl (other _ (by omega))
    · exact .processed host _ _ ‹_› (.inl ⟨value, at_ _ located, rfl⟩) (other _ (by omega)) rfl
  · split
    · exact .quiet rfl rfl rfl (other _ (by omega))
    · exact .quiet rfl rfl rfl (other _ (by omega))
  next located => exact .status host value (at_ _ located) rfl
  all_goals first
    | exact transport.updateQueueField_effect (fun _ => rfl) (other _ (by omega))
    | exact .quiet rfl rfl rfl (other _ (by assumption))

private theorem write_effect [LawfulVirtioDevice Device] :
    Effect transport (.write host offset data) (transport.write host offset data) := by
  unfold write
  split
  · exact transport.writeRegister_effect host offset data ‹_›
  next noRegister =>
    have noStatus : (Access.write host offset data : Access Device).wrote 0x70 = none :=
      if_neg fun written => noRegister ⟨written.1, written.2.1⟩
    split
    · exact .quiet rfl (writeConfig_profile _ _ _) rfl noStatus
    · exact .quiet rfl rfl rfl noStatus

theorem step_effect [LawfulVirtioDevice Device] (access : Access Device) :
    Effect transport access (transport.step access) := by
  cases access with
  | read | guest | interrupt => exact .quiet rfl rfl rfl rfl
  | write host offset data => exact transport.write_effect host offset data
  | poll host queueIdx =>
    show Effect transport _ (transport.processExternalQueue host queueIdx).1
    unfold processExternalQueue
    cases attached : transport.memory with
    | none => exact .quiet rfl rfl rfl rfl
    | some memory =>
      cases active : isActivated transport.device with
      | false => exact .quiet rfl rfl rfl rfl
      | true => exact .processed host queueIdx memory attached (.inr ⟨rfl, active⟩) rfl rfl
  | host action => exact .quiet rfl (action.kept _) rfl rfl

def pageFeatures (transport : MmioTransport Device) (value : U32) : Option U64 :=
  if transport.ackedFeaturesSelect = 0 then some (value.setWidth 64)
  else if transport.ackedFeaturesSelect = 1 then some (value.setWidth 64 <<< 32)
  else none

def requestedFeatures (transport : MmioTransport Device) (value : U32) : U64 :=
  ackedFeatures transport.device |||
    ((transport.pageFeatures value).getD 0 &&& availFeatures transport.device)

private theorem ackFeatures_eq : transport.ackFeatures value = match transport.pageFeatures value with
    | none => transport
    | some page => { transport with
    device := setAckedFeatures transport.device
      (ackedFeatures transport.device ||| (page &&& availFeatures transport.device)) } := rfl

theorem ackFeatures_profile [LawfulVirtioDevice Device] :
    (transport.ackFeatures value).deviceStatus = transport.deviceStatus ∧
    (transport.ackFeatures value).calls = transport.calls ∧
    ∃ acked, (ackedFeatures transport.device &&& availFeatures transport.device =
    ackedFeatures transport.device → acked = transport.requestedFeatures value) ∧
    profile (transport.ackFeatures value).device =
    { profile transport.device with ackedFeatures := acked } := by
  rw [ackFeatures_eq]
  unfold requestedFeatures
  cases transport.pageFeatures value with
  | none => exact ⟨rfl, rfl, _, fun _ => by simp, rfl⟩
  | some page =>
    obtain ⟨acked, whole, seen⟩ := setAckedFeatures_profile
      transport.device
      (ackedFeatures transport.device ||| (page &&& availFeatures transport.device))
    refine ⟨rfl, rfl, acked, fun offered => whole ?_, seen⟩
    rw [BitVec.and_or_distrib_right, offered, BitVec.and_assoc, BitVec.and_self]

structure Processed (transport next : MmioTransport Device) (queueIdx : Nat) : Prop where
  status : next.deviceStatus = transport.deviceStatus
  passed : ∃ passed, List.Forall₂ VirtQueue.Passed (queues transport.device) passed ∧
    profile next.device = { profile transport.device with queues := passed } ∧
    next.calls =
      ⟨queueIdx, transport.deviceStatus, isActivated transport.device, queues transport.device,
      passed⟩ :: transport.calls

theorem processQueue_processed [LawfulVirtioDevice Device] (queueIdx : Nat) (memory : GuestMemory) :
    Processed transport (transport.processQueue host queueIdx memory).1 queueIdx := by
  obtain ⟨passed, queuesPassed, seen⟩ := processQueue_profile transport.device host queueIdx memory
  have queuesAfter : queues (VirtioDevice.processQueue transport.device host queueIdx memory).1 =
    passed := congrArg Profile.queues seen
  unfold processQueue
  generalize VirtioDevice.processQueue transport.device host queueIdx memory = result at seen queuesAfter ⊢
  obtain ⟨device, memory, outcome⟩ := result
  subst queuesAfter
  dsimp only
  split
  all_goals exact ⟨rfl, _, queuesPassed, seen, rfl⟩

inductive Activation (stored next : MmioTransport Device) : Prop where
  | already (active : isActivated stored.device = true) (result : next = stored)
  | refused (inactive : isActivated stored.device = false)
    (status : next.deviceStatus = stored.deviceStatus ||| failed)
    (profile : profile next.device = profile stored.device) (calls : next.calls = stored.calls)
  | done (activated : MmioTransport Device) (inactive : isActivated stored.device = false)
    (status : activated.deviceStatus = stored.deviceStatus)
      (profile : VirtioDevice.profile activated.device =
      { VirtioDevice.profile stored.device with activated := true })
    (calls : activated.calls = stored.calls) (result : next = activated ∨ Processed activated next 0)

inductive StatusEffect (transport : MmioTransport Device) (value : U32)
    (next : MmioTransport Device) : Prop where
  | reset (isZero : value = 0) (result : next = transport.reset)
  | failed (isFailed : value &&& failed ≠ 0)
    (result : next = { transport with deviceStatus := transport.deviceStatus ||| failed })
  | stored (enters : Enters transport.deviceStatus value)
    (result : next = { transport with deviceStatus := value })
  | driverOk (advances : ~~~transport.deviceStatus &&& value = driverOk ∧
    transport.deviceStatus = acknowledge ||| driver ||| featuresOk)
      (result : Activation { transport with deviceStatus := value } next)
  | ignored (notZero : value ≠ 0) (stays : ¬ Advances transport.deviceStatus value)
    (result : next = transport)

theorem activation [LawfulVirtioDevice Device] (stored : MmioTransport Device)
    (host : Host) : Activation stored (if stored.activateDevice.2 then
    (stored.activateDevice.1.processExternalQueue host 0).1 else stored.activateDevice.1) := by
  cases active : isActivated stored.device with
  | true =>
    refine .already active ?_
    unfold activateDevice
    rw [active]
    rfl
  | false =>
    have seen := activate_profile stored.device
    cases made : activate stored.device with
    | mk device outcome =>
      rw [made] at seen
      cases outcome with
      | error =>
        have result : stored.activateDevice = ({ stored with
          device := device
          deviceStatus := stored.deviceStatus ||| failed }, false) := by simp [activateDevice, active, made]
        rw [result]
        exact .refused active rfl seen rfl
      | ok =>
        have result : stored.activateDevice = ({ stored with device := device },
          decide (deviceType stored.device = .vsock)) := by simp [activateDevice, active, made]
        rw [result]
        refine .done { stored with device := device } active rfl seen rfl ?_
        split
        · have on : isActivated device = true := congrArg Profile.activated seen
          unfold processExternalQueue
          cases stored.memory with
          | none => exact .inl rfl
          | some =>
            rw [on]
            exact .inr (processQueue_processed _ _ _ _)
        · exact .inl rfl

theorem setDeviceStatus_effect [LawfulVirtioDevice Device] :
    StatusEffect transport value (transport.setDeviceStatus host value) := by
  unfold setDeviceStatus
  split
  · exact .reset ‹_› rfl
  · split
    · exact .failed ‹_› rfl
    · dsimp only
      split
      · exact .stored (.inl ‹_›) rfl
      · split
        · exact .stored (.inr (.inl ‹_›)) rfl
        · split
          · exact .stored (.inr (.inr ‹_›)) rfl
          · split
            · exact .driverOk ‹_› (activation _ host)
            · refine .ignored ‹_› ?_ rfl
              rintro (advances | advances | advances) <;> contradiction

end MmioTransport
end Visor
